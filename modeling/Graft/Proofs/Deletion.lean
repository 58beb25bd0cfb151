import Graft.Proofs.WellFormed

set_option autoImplicit false

/-!
# Deleting an element

Nothing but blanks goes with an element that is deleted, and if anything does, whole lines do. The
edit for it always fits the text (`Workspace.sketchDelete_removes`).
-/

namespace Graft

open Text

/-! ## What goes with an element -/

namespace Text

/-- The text between two offsets has only characters of a kind. -/
def HoldsOnly (kind : Char → Bool) (cs : List Char) (start stop : Nat) : Prop :=
  ∃ middle, slice? cs start stop = some middle ∧ ∀ c ∈ middle, kind c = true

/-- An offset stands right behind a line break. -/
def FollowsBreak (cs : List Char) (n : Nat) : Prop :=
  ∃ front back, cs = front ++ '\n' :: back ∧ byteLength front + 1 = n

theorem holdsOnly_append {kind : Char → Bool} {a b c : List Char} (h : b.all kind = true) :
    HoldsOnly kind (a ++ (b ++ c)) (byteLength a) (byteLength (a ++ b)) :=
  ⟨b, byteLength_append a b ▸ slice?_append a b c, List.all_eq_true.1 h⟩

theorem holdsOnly_self {kind : Char → Bool} {cs : List Char} {n : Nat}
    (h : isBoundary cs n = true) : HoldsOnly kind cs n n := by
  obtain ⟨a, b, rfl, rfl⟩ := isBoundary_iff.1 h
  simpa using @holdsOnly_append kind a [] b rfl

theorem followsBreak_append {a b : List Char} (h : a.getLast? = some '\n') :
    FollowsBreak (a ++ b) (byteLength a) := by
  obtain ⟨front, rfl⟩ := List.getLast?_eq_some_iff.1 h
  exact ⟨front, b, by simp, by simp; rfl⟩

end Text

/-- What may be removed with an element: blanks beside it, and if any, then its whole lines. -/
structure ByteRange.RemovedWith (cs : List Char) (element removed : ByteRange) : Prop where
  start_le : removed.start ≤ element.start
  stop_le : element.stop ≤ removed.stop
  lead_blank : HoldsOnly isSpaceOrTab cs removed.start element.start
  trail_blank : HoldsOnly isBlank cs element.stop removed.stop
  whole : removed = element ∨
    (removed.start = 0 ∨ FollowsBreak cs removed.start) ∧
    (removed.stop = byteLength cs ∨ FollowsBreak cs removed.stop)
  /-- The lines go with the element exactly if there is nothing else on them. -/
  lines_iff : ∀ c : LineCut, c.text = cs → c.element = element →
    removed = if c.alone then c.lines else element

namespace LineCut

variable (c : LineCut)

theorem lines_whole : (c.lines.start = 0 ∨ FollowsBreak c.text c.lines.start) ∧
    (c.lines.stop = byteLength c.text ∨ FollowsBreak c.text c.lines.stop) := by
  constructor
  · rcases c.front_closed with hfront | hfront
    · exact .inl (by rw [lines, hfront]; rfl)
    · exact .inr (followsBreak_append hfront)
  · rw [text_eq_at_stop, ← List.append_assoc]
    rcases c.eol_cases with heol | ⟨-, hback⟩
    · exact .inr (followsBreak_append (by simp [heol]))
    · exact .inl (by rw [hback, List.append_nil]; rfl)

theorem lead_holdsOnly (h : c.alone = true) :
    HoldsOnly isSpaceOrTab c.text c.lines.start c.element.start :=
  holdsOnly_append (Bool.and_eq_true_iff.1 h).1

theorem trail_holdsOnly (h : c.alone = true) :
    HoldsOnly isBlank c.text c.element.stop c.lines.stop := by
  have heol : c.eol.all isBlank = true := by
    rcases c.eol_cases with heol | ⟨heol, -⟩ <;> rw [heol] <;> rfl
  rw [text_eq_at_stop]
  refine holdsOnly_append ?_
  rw [List.all_append, (Bool.and_eq_true_iff.1 h).2, heol, Bool.and_self]

end LineCut

namespace Workspace

/-- **Only blanks go with an element, and then whole lines.** -/
theorem deletionRange_removedWith {cs : List Char} {r : ByteRange} (h : r.Fits cs) :
    r.RemovedWith cs (deletionRange cs r.start r.stop) := by
  have hlines : ∀ c : LineCut, c.text = cs → c.element = r →
      deletionRange cs r.start r.stop = if c.alone then c.lines else r := by
    rintro c rfl rfl
    exact c.deletionRange_element
  obtain ⟨c, rfl, rfl⟩ := exists_lineCut h
  by_cases halone : c.alone = true
  · have hrange : deletionRange c.text c.element.start c.element.stop = c.lines := by
      rw [c.deletionRange_element, if_pos halone]
    rw [hrange] at hlines ⊢
    exact ⟨c.lines_covers.1, c.lines_covers.2, c.lead_holdsOnly halone, c.trail_holdsOnly halone,
      .inr c.lines_whole, hlines⟩
  · have hrange : deletionRange c.text c.element.start c.element.stop = c.element := by
      rw [c.deletionRange_element, if_neg halone]
    rw [hrange] at hlines ⊢
    exact ⟨Nat.le_refl _, Nat.le_refl _, holdsOnly_self h.start_good,
      holdsOnly_self h.stop_good, .inl rfl, hlines⟩

/-- **Deleting an element removes it with blanks only.** A target that is found can always be
deleted: the draft is one edit that passes its check and takes out the element, or the whole lines
that it is alone on. -/
theorem sketchDelete_removes (w : Workspace) (target : Target) (label : String) (node : Node)
    (hfound : w.resolveTarget target label = .ok node) (hfits : node.range.Fits w.chars) :
    ∃ s removed, w.sketchDelete target label = .ok s ∧ node.range.RemovedWith w.chars removed ∧
      ∀ seq, ∃ e, (s.draft w.document.source seq label).edits = [e] ∧ e.range = removed ∧
        e.text = "" ∧ e.check w.chars = .ok () := by
  have hremoved := deletionRange_fits hfits
  generalize hrange : deletionRange w.chars node.range.start node.range.stop = removed at hremoved
  refine ⟨{ removed := some removed, anchors := [removed] }, removed, ?_, ?_, fun seq => ?_⟩
  · rw [sketchDelete, hfound, ← hrange]
    rfl
  · rw [← hrange]
    exact deletionRange_removedWith hfits
  · exact ⟨removed.removal w.document.source, rfl, rfl, rfl,
      Edit.check_removal hremoved.ordered hremoved.start_good hremoved.stop_good⟩

def shortElement : Node :=
  .mk { kind := "jsx_self_closing_element", start := 4, stop := 8 }
    [.mk { kind := "identifier", field := some "name", start := 5, stop := 6 } []]

/-- A file with an element on a line of its own, between blanks. -/
def ownLine : Workspace where
  document :=
    { source := "x\x0d\n\t<b/> \x0d\ny"
      root := .mk { kind := "program", start := 0, stop := 12 } [shortElement] }
  options := {}
  parse := .rootOnly

theorem sketchDelete_removes_ownLine :
    ownLine.resolveTarget (.locate { tag := "b" }) "delete" = .ok shortElement ∧
      shortElement.range.Fits ownLine.chars ∧ deletionRange ownLine.chars 4 8 = ⟨3, 11⟩ ∧
      ∃ s removed, ownLine.sketchDelete (.locate { tag := "b" }) "delete" = .ok s ∧
        shortElement.range.RemovedWith ownLine.chars removed ∧
        ∀ seq, ∃ e, (s.draft ownLine.document.source seq "delete").edits = [e] ∧ e.range = removed ∧
          e.text = "" ∧ e.check ownLine.chars = .ok () := by
  have hfound : ownLine.resolveTarget (.locate { tag := "b" }) "delete" = .ok shortElement := rfl
  have hfits : shortElement.range.Fits ownLine.chars := by decide +kernel
  exact ⟨hfound, hfits, by decide +kernel,
    sketchDelete_removes ownLine _ "delete" shortElement hfound hfits⟩

end Workspace

end Graft
