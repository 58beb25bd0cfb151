set_option autoImplicit false

/-!
# Byte offsets

Places in a text are told by the number of bytes before them, while a text is a list of characters
of one to four bytes. An offset is good if it lies between two characters, or at either end; then
the text can be split there.
-/

namespace Graft.Text

/-- The number of bytes of a text. -/
def byteLength : List Char → Nat
  | [] => 0
  | c :: cs => c.utf8Size + byteLength cs

/-- Split a text after `n` bytes; none if the offset is inside a character or behind the end. -/
def splitBytes : List Char → Nat → Option (List Char × List Char)
  | cs, 0 => some ([], cs)
  | [], _ + 1 => none
  | c :: cs, n + 1 =>
    if c.utf8Size ≤ n + 1 then
      (splitBytes cs (n + 1 - c.utf8Size)).map fun (before, after) => (c :: before, after)
    else none

/-- Whether a text can be split after `n` bytes. -/
def isBoundary (cs : List Char) (n : Nat) : Bool := (splitBytes cs n).isSome

/-- The text between two offsets, if both are good and in order. -/
def slice? (cs : List Char) (start stop : Nat) : Option (List Char) :=
  if start ≤ stop then do
    let (_, rest) ← splitBytes cs start
    let (middle, _) ← splitBytes rest (stop - start)
    return middle
  else none

/-- The text between two offsets of a string, empty if they are no good. -/
def slice (text : String) (start stop : Nat) : String :=
  String.ofList ((slice? text.toList start stop).getD [])

/-- The largest good offset that is not above `n`. -/
def floorBoundary : List Char → Nat → Nat
  | [], _ => 0
  | c :: cs, n => if c.utf8Size ≤ n then c.utf8Size + floorBoundary cs (n - c.utf8Size) else 0

/-- The line and the column, in bytes, after `n` bytes; both count from zero. -/
def pointAt : List Char → Nat → Nat × Nat
  | cs, n => go cs n 0 0
where
  go : List Char → Nat → Nat → Nat → Nat × Nat
    | [], _, row, column => (row, column)
    | c :: cs, n, row, column =>
      if c.utf8Size ≤ n then
        if c == '\n' then go cs (n - c.utf8Size) (row + 1) 0 else go cs (n - c.utf8Size) row (column + c.utf8Size)
      else (row, column)

@[simp] theorem byteLength_nil : byteLength [] = 0 := rfl

@[simp] theorem byteLength_cons (c : Char) (cs : List Char) :
    byteLength (c :: cs) = c.utf8Size + byteLength cs := rfl

@[simp] theorem byteLength_append (a b : List Char) : byteLength (a ++ b) = byteLength a + byteLength b := by
  induction a with
  | nil => simp
  | cons c cs ih => simp [ih, Nat.add_assoc]

/-- Splitting loses nothing. -/
theorem splitBytes_append {cs before after : List Char} {n : Nat}
    (h : splitBytes cs n = some (before, after)) : before ++ after = cs ∧ byteLength before = n := by
  induction cs generalizing n before after with
  | nil =>
    cases n with
    | zero => simp_all [splitBytes]
    | succ n => simp [splitBytes] at h
  | cons c cs ih =>
    cases n with
    | zero => simp_all [splitBytes]
    | succ n =>
      simp only [splitBytes] at h
      split at h
      · rename_i hc
        cases hs : splitBytes cs (n + 1 - c.utf8Size) with
        | none => simp [hs] at h
        | some p =>
          obtain ⟨b, a⟩ := p
          simp only [hs, Option.map_some, Option.some.injEq, Prod.mk.injEq] at h
          obtain ⟨rfl, rfl⟩ := h
          obtain ⟨h₁, h₂⟩ := ih hs
          refine ⟨by simp [h₁], ?_⟩
          simp only [byteLength_cons, h₂]
          omega
      · simp at h

end Graft.Text
