import Graft.Proofs.Boundary
import Graft.Proofs.Lines
import Graft.Session.Draft

set_option autoImplicit false

/-!
# The lines of an element

A text can be cut at an element and at the lines that the element starts and ends on (`LineCut`).
Everything about the line around an offset is read off such a cut, and so is the range that is
removed with an element: its lines if there are only blanks beside it, else the element alone
(`LineCut.deletionRange_element`).
-/

namespace Graft

namespace Text

/-! ## Lines -/

theorem before_byteLength (a b : List Char) : before (a ++ b) (byteLength a) = a := by
  rw [before, splitBytes_append_byteLength]
  rfl

theorem after_byteLength (a b : List Char) : after (a ++ b) (byteLength a) = b := by
  rw [after, splitBytes_append_byteLength]
  rfl

/-- A text ends with a line of its own, behind the last line break. -/
theorem exists_lastLine (cs : List Char) :
    ∃ front lead, cs = front ++ lead ∧ '\n' ∉ lead ∧ (front = [] ∨ front.getLast? = some '\n') := by
  induction cs with
  | nil => exact ⟨[], [], rfl, List.not_mem_nil, .inl rfl⟩
  | cons c cs ih =>
    obtain ⟨front, lead, rfl, hlead, hfront⟩ := ih
    by_cases hnil : front = []
    · subst hnil
      by_cases hc : c = '\n'
      · exact ⟨[c], lead, rfl, hlead, .inr (by simp [hc])⟩
      · exact ⟨[], c :: lead, rfl, by simp [Ne.symm hc, hlead], .inl rfl⟩
    · refine ⟨c :: front, lead, rfl, hlead, .inr ?_⟩
      rw [List.getLast?_cons_of_ne_nil hnil]
      exact hfront.resolve_left hnil

/-- A text starts with a line, up to the first line break or the end. -/
theorem exists_firstLine (cs : List Char) :
    ∃ trail eol back, cs = trail ++ (eol ++ back) ∧ '\n' ∉ trail ∧
      (eol = ['\n'] ∨ eol = [] ∧ back = []) := by
  induction cs with
  | nil => exact ⟨[], [], [], rfl, List.not_mem_nil, .inr ⟨rfl, rfl⟩⟩
  | cons c cs ih =>
    by_cases hc : c = '\n'
    · exact ⟨[], ['\n'], cs, by simp [hc], List.not_mem_nil, .inl rfl⟩
    · obtain ⟨trail, eol, back, rfl, htrail, heol⟩ := ih
      exact ⟨c :: trail, eol, back, rfl, by simp [Ne.symm hc, htrail], heol⟩

end Text

open Text

/-- A range lies in a text, between characters. -/
structure ByteRange.Fits (source : List Char) (r : ByteRange) : Prop where
  ordered : r.start ≤ r.stop
  start_good : Text.isBoundary source r.start = true
  stop_good : Text.isBoundary source r.stop = true

instance (source : List Char) (r : ByteRange) : Decidable (r.Fits source) :=
  decidable_of_iff
    (r.start ≤ r.stop ∧ Text.isBoundary source r.start = true ∧
      Text.isBoundary source r.stop = true)
    ⟨fun h => ⟨h.1, h.2.1, h.2.2⟩, fun h => ⟨h.ordered, h.start_good, h.stop_good⟩⟩

/-! ## Cuts -/

/-- A text, cut at an element and at the lines that it starts and ends on. -/
structure LineCut where
  /-- The lines before the element. -/
  front : List Char
  /-- What stands before the element on its line. -/
  lead : List Char
  body : List Char
  /-- What stands behind the element on its line. -/
  trail : List Char
  /-- The line break there, unless the text ends with the line. -/
  eol : List Char
  back : List Char
  front_closed : front = [] ∨ front.getLast? = some '\n'
  lead_open : '\n' ∉ lead
  trail_open : '\n' ∉ trail
  eol_cases : eol = ['\n'] ∨ eol = [] ∧ back = []

namespace LineCut

variable (c : LineCut)

def text : List Char := c.front ++ (c.lead ++ (c.body ++ (c.trail ++ (c.eol ++ c.back))))

def element : ByteRange where
  start := byteLength (c.front ++ c.lead)
  stop := byteLength (c.front ++ c.lead ++ c.body)

/-- The lines of the element, with the line break. -/
def lines : ByteRange where
  start := byteLength c.front
  stop := byteLength (c.front ++ c.lead ++ c.body ++ (c.trail ++ c.eol))

/-- Whether there are only blanks beside the element. -/
def alone : Bool := c.lead.all isSpaceOrTab && c.trail.all isBlank

theorem text_eq_at_start :
    c.text = (c.front ++ c.lead) ++ (c.body ++ (c.trail ++ (c.eol ++ c.back))) := by
  simp [text]

theorem text_eq_at_stop :
    c.text = (c.front ++ c.lead ++ c.body) ++ ((c.trail ++ c.eol) ++ c.back) := by
  simp [text]

theorem before_element : before c.text c.element.start = c.front ++ c.lead := by
  rw [text_eq_at_start]
  exact before_byteLength _ _

theorem after_element : after c.text c.element.stop = c.trail ++ (c.eol ++ c.back) := by
  rw [text_eq_at_stop, ← List.append_assoc c.trail]
  exact after_byteLength _ _

theorem lineHead_element : lineHead c.text c.element.start = c.lead := by
  have hlead : '\n' ∉ c.lead.reverse := fun h => c.lead_open (List.mem_reverse.1 h)
  have hfront : c.front.reverse = [] ∨ c.front.reverse.head? = some '\n' := by
    rw [List.reverse_eq_nil_iff, List.head?_reverse]
    exact c.front_closed
  rw [lineHead, before_element, List.reverse_append, takeWhile_of_not_mem hlead hfront,
    List.reverse_reverse]

theorem lineTail_element : lineTail c.text c.element.stop = c.trail := by
  rw [lineTail, after_element]
  refine takeWhile_of_not_mem c.trail_open ?_
  rcases c.eol_cases with heol | ⟨heol, hback⟩
  · exact .inr (by simp [heol])
  · exact .inl (by simp [heol, hback])

theorem lineStart_element : lineStart c.text c.element.start = c.lines.start := by
  rw [lineStart, lineHead_element]
  simp only [element, lines, byteLength_append]
  omega

theorem lineEnd_element : lineEnd c.text c.element.stop = c.lines.stop := by
  rw [lineEnd, lineTail_element, after_element]
  rcases c.eol_cases with heol | ⟨heol, hback⟩
  · have hbreak : (c.trail ++ (c.eol ++ c.back)).contains '\n' = true := by simp [heol]
    rw [if_pos hbreak]
    simp only [element, lines, heol, byteLength_append]
    rfl
  · have hnone : ¬(c.trail ++ (c.eol ++ c.back)).contains '\n' = true := by
      simp [heol, hback, c.trail_open]
    rw [if_neg hnone]
    simp only [text, lines, heol, hback, byteLength_append, byteLength_nil]
    omega

theorem lines_covers : c.lines.start ≤ c.element.start ∧ c.element.stop ≤ c.lines.stop := by
  simp [lines, element]

theorem lines_fits : c.lines.Fits c.text where
  ordered := by
    simp only [lines, byteLength_append]
    omega
  start_good := isBoundary_append_byteLength _ _
  stop_good := by
    rw [text_eq_at_stop, ← List.append_assoc]
    exact isBoundary_append_byteLength _ _

/-- **What is removed with an element.** -/
theorem deletionRange_element :
    Workspace.deletionRange c.text c.element.start c.element.stop =
      if c.alone then c.lines else c.element := by
  rw [Workspace.deletionRange, startsLine, endsLine, lineHead_element, lineTail_element,
    lineStart_element, lineEnd_element]
  rfl

end LineCut

/-- A text can be cut at every range in it. -/
theorem exists_lineCut {cs : List Char} {r : ByteRange} (h : r.Fits cs) :
    ∃ c : LineCut, c.text = cs ∧ c.element = r := by
  obtain ⟨a, body, b, rfl, hstart, hstop⟩ :=
    exists_split_between [] cs h.start_good h.stop_good (Nat.zero_le _) h.ordered
  obtain ⟨front, lead, rfl, hlead, hfront⟩ := exists_lastLine a
  obtain ⟨trail, eol, back, rfl, htrail, heol⟩ := exists_firstLine b
  refine ⟨⟨front, lead, body, trail, eol, back, hfront, hlead, htrail, heol⟩, ?_, ?_⟩
  · simp [LineCut.text]
  · obtain ⟨start, stop⟩ := r
    simp only [LineCut.element, byteLength_append, byteLength_nil,
      ByteRange.mk.injEq] at hstart hstop ⊢
    omega

/-- What is removed with an element lies between characters. -/
theorem Workspace.deletionRange_fits {source : List Char} {r : ByteRange} (h : r.Fits source) :
    (deletionRange source r.start r.stop).Fits source := by
  obtain ⟨c, rfl, rfl⟩ := exists_lineCut h
  rw [c.deletionRange_element]
  split
  · exact c.lines_fits
  · exact h

end Graft
