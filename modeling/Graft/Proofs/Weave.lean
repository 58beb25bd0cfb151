import Graft.Proofs.Boundary

set_option autoImplicit false

/-!
# Walking over a text

How a changed text reads, said from left to right: at every offset, first what is inserted there,
then either what takes the place of the text up to some later offset, or the next character as it
is. A `Layout` says what stands where, and `Layout.weave` is the walk. The walk gives pieces and not
only text, so that one can ask afterwards which characters were kept and what was put in.
-/

namespace Graft

/-! ## Pieces -/

/-- A part of a changed text: a character of the source with its offset, or something put in. -/
inductive Piece (α : Type) where
  | kept (offset : Nat) (c : Char)
  | added (item : α)
  deriving DecidableEq, Repr

namespace Piece

variable {α : Type}

def kept? : Piece α → Option (Nat × Char)
  | kept offset c => some (offset, c)
  | added _ => none

def added? : Piece α → Option α
  | kept _ _ => none
  | added item => some item

/-- How pieces read, if every item stands for a text. -/
def render (text : α → List Char) (pieces : List (Piece α)) : List Char :=
  pieces.flatMap fun
    | kept _ c => [c]
    | added item => text item

theorem render_append (text : α → List Char) (pieces pieces' : List (Piece α)) :
    render text (pieces ++ pieces') = render text pieces ++ render text pieces' :=
  List.flatMap_append

theorem render_added_cons (text : α → List Char) (item : α) (pieces : List (Piece α)) :
    render text (added item :: pieces) = text item ++ render text pieces := List.flatMap_cons

theorem render_map_added (text : α → List Char) (items : List α) :
    render text (items.map added) = items.flatMap text := List.flatMap_map added _ items

end Piece

namespace Text

/-- The characters of a text with their offsets, the first of them at `p`. -/
def located (p : Nat) : List Char → List (Nat × Char)
  | [] => []
  | c :: cs => (p, c) :: located (p + c.utf8Size) cs

theorem located_append (p : Nat) (a b : List Char) :
    located p (a ++ b) = located p a ++ located (p + byteLength a) b := by
  induction a generalizing p with
  | nil => simp [located]
  | cons c cs ih => simp only [List.cons_append, located, ih, byteLength_cons, Nat.add_assoc]

/-- Offsets of characters lie in the text. -/
theorem bounds_of_mem_located {p : Nat} {cs : List Char} {x : Nat × Char} (h : x ∈ located p cs) :
    p ≤ x.1 ∧ x.1 < p + byteLength cs := by
  induction cs generalizing p with
  | nil => simp [located] at h
  | cons c cs ih =>
    have hpos := c.utf8Size_pos
    simp only [located, List.mem_cons, byteLength_cons] at h ⊢
    rcases h with rfl | h
    · exact ⟨Nat.le_refl _, by omega⟩
    · have := ih h
      omega

end Text

/-- The pieces of a text that is left as it is. -/
def keptPieces {α : Type} (p : Nat) (cs : List Char) : List (Piece α) :=
  (Text.located p cs).map fun x => .kept x.1 x.2

section KeptPieces

variable {α : Type}

theorem keptPieces_cons (p : Nat) (c : Char) (cs : List Char) :
    (keptPieces p (c :: cs) : List (Piece α)) = .kept p c :: keptPieces (p + c.utf8Size) cs := rfl

theorem render_keptPieces (text : α → List Char) (p : Nat) (cs : List Char) :
    Piece.render text (keptPieces p cs) = cs := by
  induction cs generalizing p with
  | nil => rfl
  | cons c cs ih =>
    rw [keptPieces_cons]
    exact congrArg (c :: ·) (ih (p + c.utf8Size))

theorem filterMap_kept?_keptPieces (p : Nat) (cs : List Char) :
    (keptPieces p cs : List (Piece α)).filterMap Piece.kept? = Text.located p cs := by
  rw [keptPieces, List.filterMap_map]
  exact List.filterMap_some

theorem filterMap_added?_keptPieces (p : Nat) (cs : List Char) :
    (keptPieces p cs : List (Piece α)).filterMap Piece.added? = [] := by
  rw [keptPieces, List.filterMap_map]
  exact List.filterMap_eq_nil_iff.2 fun _ _ => rfl

end KeptPieces

/-! ## The walk -/

/-- What stands where in a changed text. -/
structure Layout (α : Type) where
  /-- The items inserted at an offset, in order. -/
  inserted : Nat → List α
  /-- The item that takes the place of the text from an offset on, with the offset where that text
  ends. -/
  replaced : Nat → Option (Nat × α)

namespace Layout

variable {α β : Type}

/-- Walk over the text `cs`, which starts at offset `p`. The text before `skip` has been
replaced. -/
def weave (l : Layout α) (p skip : Nat) : List Char → List (Piece α)
  | [] => if p < skip then [] else (l.inserted p).map .added
  | c :: cs =>
    if p < skip then l.weave (p + c.utf8Size) skip cs
    else (l.inserted p).map .added ++
      match l.replaced p with
      | some (stop, item) => .added item :: l.weave (p + c.utf8Size) stop cs
      | none => .kept p c :: l.weave (p + c.utf8Size) skip cs

/-- The pieces of a whole text. -/
def pieces (l : Layout α) (source : List Char) : List (Piece α) := l.weave 0 0 source

/-- Walks read the same if the same text stands at every offset. -/
theorem render_weave_congr {l : Layout α} {l' : Layout β} (text : α → List Char)
    (text' : β → List Char)
    (hins : ∀ p, (l.inserted p).flatMap text = (l'.inserted p).flatMap text')
    (hrep : ∀ p, ((l.replaced p).map fun r => (r.1, text r.2)) =
      (l'.replaced p).map fun r => (r.1, text' r.2))
    (p skip : Nat) (cs : List Char) :
    Piece.render text (l.weave p skip cs) = Piece.render text' (l'.weave p skip cs) := by
  induction cs generalizing p skip with
  | nil =>
    simp only [weave]
    split
    · rfl
    · rw [Piece.render_map_added, Piece.render_map_added, hins]
  | cons c cs ih =>
    simp only [weave]
    split
    · exact ih _ _
    · rw [Piece.render_append, Piece.render_append, Piece.render_map_added,
        Piece.render_map_added, hins]
      congr 1
      -- Either both replace text here, up to the same offset, or both keep the character.
      have hp := hrep p
      cases h : l.replaced p with
      | none =>
        rw [h, Option.map_none, eq_comm, Option.map_eq_none_iff] at hp
        rw [hp]
        exact congrArg (c :: ·) (ih _ _)
      | some r =>
        rw [h, Option.map_some, eq_comm, Option.map_eq_some_iff] at hp
        obtain ⟨r', hr', heq⟩ := hp
        simp only [Prod.mk.injEq] at heq
        rw [hr']
        simp only [Piece.render_added_cons, heq.1, heq.2, ih]

/-- Walks keep the same characters if they replace the same ranges. -/
theorem kept_weave_congr {l : Layout α} {l' : Layout β}
    (hrep : ∀ p, (l.replaced p).map (·.1) = (l'.replaced p).map (·.1)) (p skip : Nat)
    (cs : List Char) :
    (l.weave p skip cs).filterMap Piece.kept? = (l'.weave p skip cs).filterMap Piece.kept? := by
  have hadded : ∀ {γ : Type} (items : List γ), (items.map Piece.added).filterMap Piece.kept? =
      [] := by
    intro γ items
    rw [List.filterMap_map]
    exact List.filterMap_eq_nil_iff.2 fun _ _ => rfl
  induction cs generalizing p skip with
  | nil =>
    simp only [weave]
    split
    · rfl
    · rw [hadded, hadded]
  | cons c cs ih =>
    simp only [weave]
    split
    · exact ih _ _
    · rw [List.filterMap_append, List.filterMap_append, hadded, hadded]
      have hp := hrep p
      cases h : l.replaced p with
      | none =>
        rw [h, Option.map_none, eq_comm, Option.map_eq_none_iff] at hp
        rw [hp]
        exact congrArg ((p, c) :: ·) (ih _ _)
      | some r =>
        rw [h, Option.map_some, eq_comm, Option.map_eq_some_iff] at hp
        obtain ⟨r', hr', heq⟩ := hp
        rw [hr']
        simp only [heq]
        exact ih _ _

/-- The walk looks at no offset before it. -/
theorem weave_congr {l l' : Layout α} {p : Nat} (skip : Nat) (cs : List Char)
    (hins : ∀ q, p ≤ q → l.inserted q = l'.inserted q)
    (hrep : ∀ q, p ≤ q → l.replaced q = l'.replaced q) :
    l.weave p skip cs = l'.weave p skip cs := by
  induction cs generalizing p skip with
  | nil => simp only [weave, hins p (Nat.le_refl p)]
  | cons c cs ih =>
    have hrest : ∀ skip', l.weave (p + c.utf8Size) skip' cs = l'.weave (p + c.utf8Size) skip' cs :=
      fun skip' => ih skip' (fun q hq => hins q (by omega)) (fun q hq => hrep q (by omega))
    simp only [weave, hins p (Nat.le_refl p), hrep p (Nat.le_refl p), hrest]

/-- What has been walked past need not be remembered. -/
theorem weave_skip_eq (l : Layout α) {p skip : Nat} (skip' : Nat) (cs : List Char) (h : skip ≤ p)
    (h' : skip' ≤ p) : l.weave p skip cs = l.weave p skip' cs := by
  induction cs generalizing p with
  | nil => simp only [weave, Nat.not_lt.2 h, Nat.not_lt.2 h']
  | cons c cs ih =>
    have hrest := ih (p := p + c.utf8Size) (by omega) (by omega)
    simp only [weave, Nat.not_lt.2 h, Nat.not_lt.2 h', hrest]

/-- Text at whose offsets nothing is put in is kept. -/
theorem weave_append_kept (l : Layout α) {p skip : Nat} (a b : List Char) (hskip : skip ≤ p)
    (hins : ∀ q, p ≤ q → q < p + Text.byteLength a → l.inserted q = [])
    (hrep : ∀ q, p ≤ q → q < p + Text.byteLength a → l.replaced q = none) :
    l.weave p skip (a ++ b) = keptPieces p a ++ l.weave (p + Text.byteLength a) skip b := by
  induction a generalizing p with
  | nil => rfl
  | cons c cs ih =>
    have hpos := c.utf8Size_pos
    simp only [Text.byteLength_cons] at hins hrep
    have hrest := ih (p := p + c.utf8Size) (by omega)
      (fun q hq hq' => hins q (by omega) (by omega)) (fun q hq hq' => hrep q (by omega) (by omega))
    rw [List.cons_append, weave, if_neg (Nat.not_lt.2 hskip), hins p (Nat.le_refl p) (by omega),
      hrep p (Nat.le_refl p) (by omega), hrest]
    simp [keptPieces_cons, Nat.add_assoc]

/-- Text that has been replaced is passed over. -/
theorem weave_append_skipped (l : Layout α) {p skip : Nat} (a b : List Char)
    (h : p + Text.byteLength a ≤ skip) :
    l.weave p skip (a ++ b) = l.weave (p + Text.byteLength a) skip b := by
  induction a generalizing p with
  | nil => rfl
  | cons c cs ih =>
    have hpos := c.utf8Size_pos
    simp only [Text.byteLength_cons] at h
    rw [List.cons_append, weave, if_pos (by omega), ih (by omega)]
    simp [Nat.add_assoc]

end Layout

end Graft
