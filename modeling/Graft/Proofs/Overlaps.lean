import Graft.Proofs.Batch

set_option autoImplicit false

/-!
# Overlaps

A batch of edits is sorted, and then only neighbours are compared. No overlap is missed that way,
however far apart the two edits are in the list or in the order in which they are made, and what is
reported are two edits that do overlap.
-/

namespace Graft

/-! ## Two places of a list -/

section Places

variable {α : Type}

/-- Two different places of a list hold elements that are related. -/
def RelatedPlaces (related : α → α → Prop) (l : List α) : Prop :=
  ∃ (i j : Nat) (a b : α), i ≠ j ∧ l[i]? = some a ∧ l[j]? = some b ∧ related a b

theorem relatedPlaces_iff {related : α → α → Prop} {l : List α} :
    RelatedPlaces related l ↔ ¬l.Pairwise fun a b => ¬related a b ∧ ¬related b a := by
  rw [List.pairwise_iff_getElem]
  constructor
  · rintro ⟨i, j, a, b, hne, ha, hb, hrelated⟩ hnone
    obtain ⟨hi, rfl⟩ := List.getElem?_eq_some_iff.1 ha
    obtain ⟨hj, rfl⟩ := List.getElem?_eq_some_iff.1 hb
    rcases Nat.lt_or_gt_of_ne hne with hlt | hlt
    · exact (hnone i j hi hj hlt).1 hrelated
    · exact (hnone j i hj hi hlt).2 hrelated
  · intro hsome
    simp only [not_forall] at hsome
    obtain ⟨i, j, hi, hj, hlt, hrelated⟩ := hsome
    rcases not_and_or.1 hrelated with h | h
    · exact ⟨i, j, l[i], l[j], Nat.ne_of_lt hlt, List.getElem?_eq_getElem hi,
        List.getElem?_eq_getElem hj, not_not.1 h⟩
    · exact ⟨j, i, l[j], l[i], Nat.ne_of_gt hlt, List.getElem?_eq_getElem hj,
        List.getElem?_eq_getElem hi, not_not.1 h⟩

/-- Rearranging a list moves related elements to other places, but keeps them apart. -/
theorem RelatedPlaces.perm {related : α → α → Prop} {l l' : List α} (h : RelatedPlaces related l)
    (hperm : l.Perm l') : RelatedPlaces related l' := by
  rw [relatedPlaces_iff] at *
  exact fun hnone => h (hperm.symm.pairwise hnone fun {_ _} hab => hab.symm)

end Places

namespace Edit

/-! ## What is reported -/

/-- The first overlap of a list is one of neighbours. -/
theorem exists_of_firstOverlap {edits : List Edit} {error : EditError}
    (h : firstOverlap edits = some error) :
    RelatedPlaces (fun e f => e.overlaps f = true ∧ error = .overlap e.start e.stop f.start f.stop)
      edits := by
  induction edits with
  | nil => cases h
  | cons later edits ih =>
    cases edits with
    | nil => cases h
    | cons earlier rest =>
      rw [firstOverlap] at h
      split at h
      · rename_i hover
        exact ⟨1, 0, earlier, later, Nat.one_ne_zero, rfl, rfl, hover, (Option.some_inj.1 h).symm⟩
      · obtain ⟨i, j, e, f, hne, he, hf, hrelated⟩ := ih h
        exact ⟨i + 1, j + 1, e, f, by omega, he, hf, hrelated⟩

/-- Valid edits can only fail by an overlap. -/
theorem applyBatch_eq_error_iff {source : String} {edits : List Edit}
    (hvalid : ∀ e ∈ edits, e.check source.toList = .ok ()) {error : EditError} :
    applyBatch source edits = .error error ↔ firstOverlap (sorted edits) = some error := by
  rw [applyBatch, forM_check_eq_ok_iff.2 hvalid]
  cases firstOverlap (sorted edits) with
  | none => exact iff_of_false (by rintro ⟨⟩) (by rintro ⟨⟩)
  | some found =>
    show Except.error found = .error error ↔ some found = some error
    rw [Except.error.injEq, Option.some_inj]

/-- **Comparing neighbours finds every overlap.** Valid edits are turned down for an overlap exactly
if two of them, at different places of the list, do overlap; and then two such edits are named. -/
theorem applyBatch_overlap_iff (source : String) (edits : List Edit)
    (hvalid : ∀ e ∈ edits, e.check source.toList = .ok ()) :
    ((∃ a b c d, applyBatch source edits = .error (.overlap a b c d)) ↔
      ∃ (i j : Nat) (e f : Edit), i ≠ j ∧ edits[i]? = some e ∧ edits[j]? = some f ∧
        e.overlaps f = true) ∧
    ∀ error, applyBatch source edits = .error error →
      ∃ (i j : Nat) (e f : Edit), i ≠ j ∧ edits[i]? = some e ∧ edits[j]? = some f ∧
        e.overlaps f = true ∧ error = .overlap e.start e.stop f.start f.stop := by
  have hnamed : ∀ error, applyBatch source edits = .error error →
      RelatedPlaces (fun e f => e.overlaps f = true ∧
        error = .overlap e.start e.stop f.start f.stop) edits := by
    intro error herror
    exact (exists_of_firstOverlap ((applyBatch_eq_error_iff hvalid).1 herror)).perm
      (sorted_perm edits)
  refine ⟨⟨?_, ?_⟩, hnamed⟩
  · rintro ⟨a, b, c, d, herror⟩
    obtain ⟨i, j, e, f, hne, he, hf, hover, -⟩ := hnamed _ herror
    exact ⟨i, j, e, f, hne, he, hf, hover⟩
  · intro hover
    have hover : RelatedPlaces (fun e f => e.overlaps f = true) edits := hover
    have hclear : ¬edits.Pairwise fun e f => e.overlaps f = false := by
      intro hpairs
      refine relatedPlaces_iff.1 hover (hpairs.imp fun {e f} hef => ?_)
      rw [overlaps_comm f e, hef]
      exact ⟨Bool.false_ne_true, Bool.false_ne_true⟩
    cases hbatch : applyBatch source edits with
    | ok code => exact absurd (applyBatch_eq_ok_iff.1 hbatch).2.1 hclear
    | error error =>
      obtain ⟨i, j, e, f, -, -, -, -, rfl⟩ := hnamed error hbatch
      exact ⟨_, _, _, _, rfl⟩

/-- A long replacement with insertions at its start and inside it. Once sorted, the insertion at
byte 4 is no neighbour of the replacement. -/
def reachingFar : List Edit :=
  [replacement 0 5 "x" "hello", insertion 4 "b", insertion 0 "c", insertion 3 "a"]

theorem applyBatch_overlap_iff_reachingFar :
    (∀ e ∈ reachingFar, e.check "hello".toList = .ok ()) ∧
      ∃ a b c d, applyBatch "hello" reachingFar = .error (.overlap a b c d) := by
  have hvalid : ∀ e ∈ reachingFar, e.check "hello".toList = .ok () := by decide
  exact ⟨hvalid, (applyBatch_overlap_iff "hello" reachingFar hvalid).1.2
    ⟨0, 1, _, _, Nat.zero_ne_one, rfl, rfl, by decide⟩⟩

end Edit

end Graft
