import Graft.Proofs.WellFormed
import Mathlib.Data.List.TakeWhile

set_option autoImplicit false

/-!
# Texts with carriage returns

A text in which every line feed follows a carriage return stays one if such texts are put into it,
as long as this does not happen between the two (`Edit.crlf_applyBatch`). Blocks that are indented
for such a text are such texts. Of the places where something may be put into a document, only edges
of nodes can be inside a line break.
-/

namespace Graft

namespace Text

/-! ## Line feeds behind carriage returns -/

/-- Every line feed follows a carriage return. -/
def Crlf (cs : List Char) : Prop :=
  ∀ front back, cs = front ++ '\n' :: back → front.getLast? = some '\r'

/-- Whether every line feed follows a carriage return, if `last` is the character in front of the
text. -/
def crlfAfter : Option Char → List Char → Bool
  | _, [] => true
  | last, c :: cs => (c != '\n' || last == some '\r') && crlfAfter (some c) cs

theorem crlfAfter_iff (front cs : List Char) : crlfAfter front.getLast? cs = true ↔
    ∀ middle back, cs = middle ++ '\n' :: back → (front ++ middle).getLast? = some '\r' := by
  induction cs generalizing front with
  | nil => simp [crlfAfter]
  | cons c cs ih =>
    have hlast : some c = (front ++ [c]).getLast? := by simp
    rw [crlfAfter, Bool.and_eq_true, hlast, ih]
    constructor
    · rintro ⟨hc, hrest⟩ middle back heq
      cases middle with
      | nil =>
        obtain ⟨rfl, -⟩ := List.cons.inj heq
        simpa using hc
      | cons d middle =>
        obtain ⟨rfl, htail⟩ := List.cons.inj heq
        simpa using hrest middle back htail
    · intro h
      refine ⟨?_, fun middle back heq => ?_⟩
      · by_cases hc : c = '\n'
        · have hlast := h [] cs (by rw [hc, List.nil_append])
          simpa [hc] using hlast
        · simp [hc]
      · simpa using h (c :: middle) back (by rw [heq, List.cons_append])

instance (cs : List Char) : Decidable (Crlf cs) :=
  decidable_of_iff (crlfAfter none cs = true) (crlfAfter_iff [] cs)

theorem crlf_of_not_mem {cs : List Char} (h : '\n' ∉ cs) : Crlf cs := by
  rintro front back rfl
  simp at h

theorem Crlf.append {a b : List Char} (ha : Crlf a) (hb : Crlf b) : Crlf (a ++ b) := by
  intro front back heq
  rcases List.append_eq_append_iff.1 heq with ⟨middle, rfl, hmiddle⟩ | ⟨middle, rfl, hmiddle⟩
  · have hlast := hb middle back hmiddle
    rw [List.getLast?_append, hlast, Option.some_or]
  · cases middle with
    | nil => exact absurd (hb [] back hmiddle.symm) (by simp)
    | cons c middle =>
      obtain ⟨rfl, -⟩ := List.cons.inj hmiddle
      exact ha front middle rfl

theorem Crlf.left {a b : List Char} (h : Crlf (a ++ b)) : Crlf a := by
  rintro front back rfl
  exact h front (back ++ b) (by simp)

/-- The end of such a text is one, unless it starts inside a line break. -/
theorem Crlf.right {a b : List Char} (h : Crlf (a ++ b))
    (hbreak : ¬(a.getLast? = some '\r' ∧ b.head? = some '\n')) : Crlf b := by
  rintro front back rfl
  have hlast := h (a ++ front) back (by simp)
  cases front with
  | nil => exact absurd ⟨by simpa using hlast, rfl⟩ hbreak
  | cons c front => simpa [List.getLast?_append] using hlast

theorem crlf_intercalate {eol : List Char} (heol : Crlf eol) {parts : List (List Char)}
    (h : ∀ part ∈ parts, Crlf part) : Crlf (eol.intercalate parts) := by
  induction parts with
  | nil => exact crlf_of_not_mem List.not_mem_nil
  | cons part parts ih =>
    have hrest := ih fun part hpart => h part (List.mem_cons_of_mem _ hpart)
    cases parts with
    | nil => simpa using h part List.mem_cons_self
    | cons next parts =>
      rw [List.intercalate_cons_cons]
      exact ((h part List.mem_cons_self).append heol).append hrest

theorem not_mem_intercalate {c : Char} {separator : String} (hseparator : c ∉ separator.toList)
    {parts : List String} (h : ∀ part ∈ parts, c ∉ part.toList) :
    c ∉ (separator.intercalate parts).toList := by
  induction parts with
  | nil => exact List.not_mem_nil
  | cons part parts ih =>
    have hpart := h part List.mem_cons_self
    have hrest := ih fun part hmem => h part (List.mem_cons_of_mem _ hmem)
    cases parts with
    | nil => simpa using hpart
    | cons next parts =>
      rw [String.intercalate_cons_cons, String.toList_append, String.toList_append,
        List.mem_append, List.mem_append]
      exact not_or.2 ⟨not_or.2 ⟨hpart, hseparator⟩, hrest⟩

theorem occursIn_append (front needle back : List Char) :
    occursIn needle (front ++ (needle ++ back)) = true := by
  induction front with
  | nil =>
    have hstart : startsWith (needle ++ back) needle = true := by
      rw [startsWith, dropStart?_eq_some_iff.2 rfl, Option.isSome_some]
    rw [List.nil_append]
    cases h : needle ++ back with
    | nil => simp [occursIn, (List.append_eq_nil_iff.1 h).1]
    | cons c cs => rw [occursIn, ← h, hstart, Bool.true_or]
  | cons c front ih => rw [List.cons_append, occursIn, ih, Bool.or_true]

theorem lineEnding_of_crlf {cs : List Char} (h : Crlf cs) (hbreak : '\n' ∈ cs) :
    lineEnding cs = ['\r', '\n'] := by
  obtain ⟨front, back, rfl⟩ := List.append_of_mem hbreak
  obtain ⟨front, rfl⟩ := List.getLast?_eq_some_iff.1 (h front back rfl)
  have hoccurs := occursIn_append front ['\r', '\n'] back
  rw [lineEnding, if_pos]
  simpa using hoccurs

/-! ## Blocks and indentation -/

/-- Lines of a block that is indented are broken as asked for. -/
theorem crlf_reindent (cs : List Char) {indent : List Char} (hindent : '\n' ∉ indent) :
    Crlf (reindent cs indent ['\r', '\n']) := by
  refine crlf_intercalate (by decide) ?_
  intro part hpart
  obtain ⟨line, hline, rfl⟩ := List.mem_map.1 hpart
  obtain ⟨line, hmem, rfl⟩ := List.mem_map.1 hline
  refine crlf_of_not_mem ?_
  split
  · exact List.not_mem_nil
  · rw [List.mem_append, not_or]
    exact ⟨hindent,
      fun h => not_mem_of_mem_lines hmem (mem_of_mem_trimEnd (List.mem_of_mem_drop h))⟩

theorem not_mem_lineIndent (cs : List Char) (offset : Nat) : '\n' ∉ lineIndent cs offset := by
  intro h
  have hblank := List.mem_takeWhile_imp h
  simp [isSpaceOrTab] at hblank

theorem not_mem_nestedIndent {indent : List Char} (h : '\n' ∉ indent) :
    '\n' ∉ nestedIndent indent := by
  unfold nestedIndent
  split <;> simpa using h

/-- What is left of a block without its indentation, if it has that. -/
theorem crlf_dropStart {block indent : List Char} (h : Crlf block) (hindent : '\r' ∉ indent) :
    Crlf ((dropStart? block indent).getD block) := by
  cases hrest : dropStart? block indent with
  | none => exact h
  | some rest =>
    rw [dropStart?_eq_some_iff.1 hrest] at h
    refine h.right fun hbreak => hindent ?_
    exact List.mem_of_getLast? hbreak.1

/-! ## Offsets inside line breaks -/

/-- Whether an offset lies between a carriage return and a line feed. -/
def insideBreak (cs : List Char) (offset : Nat) : Bool :=
  (before cs offset).getLast? == some '\r' && (after cs offset).head? == some '\n'

theorem insideBreak_append (a b : List Char) :
    insideBreak (a ++ b) (byteLength a) = true ↔ a.getLast? = some '\r' ∧ b.head? = some '\n' := by
  rw [insideBreak, before_byteLength, after_byteLength, Bool.and_eq_true, beq_iff_eq, beq_iff_eq]

/-- A cut of a text tells that an offset is not inside a line break. -/
theorem insideBreak_eq_false {cs a b : List Char} {n : Nat} (hcs : cs = a ++ b)
    (hn : n = byteLength a) (h : ¬(a.getLast? = some '\r' ∧ b.head? = some '\n')) :
    insideBreak cs n = false := by
  rwa [hcs, hn, ← Bool.not_eq_true, insideBreak_append]

/-- The end of a line, with its break, is not inside one. -/
theorem insideBreak_lineEnd {cs : List Char} {n : Nat} (h : isBoundary cs n = true) :
    insideBreak cs (lineEnd cs n) = false := by
  obtain ⟨c, rfl, hc⟩ := exists_lineCut (r := ⟨n, n⟩) ⟨Nat.le_refl n, h, h⟩
  obtain rfl : c.element.stop = n := congrArg ByteRange.stop hc
  rw [c.lineEnd_element, c.text_eq_at_stop, ← List.append_assoc]
  refine insideBreak_eq_false rfl rfl ?_
  rcases c.eol_cases with heol | ⟨-, hback⟩
  · simp [heol]
  · simp [hback]

end Text

/-! ## Places outside line breaks -/

/-- No place is inside a line break if no edge is that it may be taken from. -/
theorem Document.WellFormed.insideBreak_place {d : Document} (hdoc : d.WellFormed)
    {edges : List Nat} (hedges : ∀ offset ∈ edges, Text.insideBreak d.source.toList offset = false)
    {offset : Nat} (hplace : d.Place edges offset) :
    Text.insideBreak d.source.toList offset = false := by
  cases hplace with
  | edge mem => exact hedges _ mem
  | @blockStart n mem kind =>
    obtain ⟨hcs, hstart⟩ := Text.before_append_after (hdoc.start_good mem)
    obtain ⟨rest, hrest⟩ := List.head?_eq_some_iff.1 (hdoc.block_open n mem kind)
    refine Text.insideBreak_eq_false (a := Text.before d.source.toList n.start ++ ['\x7b'])
      (b := rest) ?_ ?_ ?_
    · rw [List.append_assoc, List.singleton_append, ← hrest, hcs]
    · rw [Text.byteLength_append, hstart]
      rfl
    · rw [List.getLast?_concat]
      exact fun hinside => absurd hinside.1 (by decide)
  | @namesEnd n mem kind =>
    obtain ⟨hcs, hstop⟩ := Text.before_append_after (hdoc.stop_good mem)
    obtain ⟨front, hfront⟩ := List.getLast?_eq_some_iff.1 (hdoc.names_closed n mem kind)
    refine Text.insideBreak_eq_false (a := front)
      (b := '\x7d' :: Text.after d.source.toList n.stop) ?_ ?_ ?_
    · rw [← List.singleton_append, ← List.append_assoc, ← hfront, hcs]
    · have hbrace : Text.byteLength ['\x7d'] = 1 := rfl
      rw [hfront, Text.byteLength_append] at hstop
      omega
    · exact fun hinside => absurd hinside.2 (by simp)
  | @contentEnd n mem =>
    obtain ⟨hcs, -⟩ := Text.before_append_after (hdoc.start_good mem)
    obtain ⟨blanks, hblanks⟩ := Text.exists_eq_trimEnd_append (Text.before d.source.toList n.start)
    refine Text.insideBreak_eq_false (b := blanks ++ Text.after d.source.toList n.start) ?_ rfl ?_
    · rw [← List.append_assoc, ← hblanks, hcs]
    · exact fun hinside => Text.getLast?_trimEnd_ne _ hinside.1

/-- What is removed with a node does not end inside a line break if the node does not. -/
theorem Workspace.insideBreak_deletionRange {cs : List Char} {start stop : Nat}
    (hgood : Text.isBoundary cs stop = true) (hstop : Text.insideBreak cs stop = false) :
    Text.insideBreak cs (deletionRange cs start stop).stop = false := by
  unfold deletionRange
  split
  · exact Text.insideBreak_lineEnd hgood
  · exact hstop

namespace Edit

/-- The walk through a text that does not start inside a line break, if no edit ends inside one. -/
theorem crlf_weave (pre cs : List Char) {edits : List Edit} (hline : InLine edits)
    (hfits : ∀ e ∈ edits, e.Fits (pre ++ cs)) (hpre : ∀ e ∈ edits, Text.byteLength pre ≤ e.start)
    (hsource : Text.Crlf (pre ++ cs)) (hbreak : ¬(pre.getLast? = some '\r' ∧ cs.head? = some '\n'))
    (htexts : ∀ e ∈ edits, Text.Crlf e.text.toList)
    (hplaces : ∀ e ∈ edits, Text.insideBreak (pre ++ cs) e.stop = false) :
    Text.Crlf (renderPieces
      ((lineLayout edits).weave (Text.byteLength pre) (Text.byteLength pre) cs)) := by
  refine inLine_induction (motive := fun pre cs edits => Text.Crlf (pre ++ cs) →
      ¬(pre.getLast? = some '\r' ∧ cs.head? = some '\n') → (∀ e ∈ edits, Text.Crlf e.text.toList) →
      (∀ e ∈ edits, Text.insideBreak (pre ++ cs) e.stop = false) →
      Text.Crlf (renderPieces
        ((lineLayout edits).weave (Text.byteLength pre) (Text.byteLength pre) cs)))
    ?_ ?_ hline hfits hpre hsource hbreak htexts hplaces
  · intro pre cs hsource hbreak _ _
    rw [weave_lineLayout_nil, renderPieces, render_keptPieces]
    exact hsource.right hbreak
  · intro pre a m b e edits hline ha hm hlen ih hsource hbreak htexts hplaces
    have hsplit : pre ++ (a ++ (m ++ b)) = (pre ++ (a ++ m)) ++ b := by simp
    have hfront : Text.Crlf a := (hsource.right hbreak).left
    have hbehind : ¬((pre ++ (a ++ m)).getLast? = some '\r' ∧ b.head? = some '\n') := by
      rw [← Text.insideBreak_append, hlen, ← hsplit, hplaces e List.mem_cons_self]
      exact Bool.false_ne_true
    have hrest := ih (hsplit ▸ hsource) hbehind (fun f hf => htexts f (List.mem_cons_of_mem e hf))
      fun f hf => hsplit ▸ hplaces f (List.mem_cons_of_mem e hf)
    rw [hlen] at hrest
    rw [weave_lineLayout_cons a m b hline ha hm, renderPieces, Piece.render_append,
      Piece.render_added_cons, render_keptPieces]
    exact hfront.append ((htexts e List.mem_cons_self).append hrest)

/-- **Edits outside line breaks that put in such texts keep a text one.** -/
theorem crlf_applyBatch {source code : String} {edits : List Edit}
    (h : applyBatch source edits = .ok code) (hsource : Text.Crlf source.toList)
    (htexts : ∀ e ∈ edits, Text.Crlf e.text.toList)
    (hplaces : ∀ e ∈ edits, Text.insideBreak source.toList e.stop = false) :
    Text.Crlf code.toList := by
  obtain ⟨hvalid, hclear, rfl⟩ := applyBatch_eq_ok_iff.1 h
  have hfits : ∀ e ∈ edits, e.Fits source.toList := fun e he => (check_eq_ok_iff.1 (hvalid e he)).1
  have hord : ∀ e ∈ edits, e.start ≤ e.stop := fun e he => (hfits e he).ordered
  have hmem : ∀ e ∈ (sorted edits).reverse, e ∈ edits :=
    fun e he => (sorted_perm edits).mem_iff.1 (List.mem_reverse.1 he)
  rw [String.toList_ofList, assembly, layout_eq_lineLayout hord hclear]
  exact crlf_weave [] source.toList (inLine_reverse_sorted hord hclear)
    (fun e he => hfits e (hmem e he)) (fun _ _ => Nat.zero_le _) hsource
    (fun hlast => by cases hlast.1) (fun e he => htexts e (hmem e he))
    (fun e he => hplaces e (hmem e he))

end Edit

end Graft
