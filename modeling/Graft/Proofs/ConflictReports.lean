import Graft.Proofs.Merging

set_option autoImplicit false

/-!
# What conflicts say

A conflict says which name is bound already and how: as a default, as a namespace or as an export.
The name is always bound by a statement of the module. How it is bound is right for a default or a
namespace that is refused because of another one. A default that is refused because its name is
taken is reported as if an export had taken the name, which is wrong if only a namespace has it.
-/

namespace Graft

/-! ## Ways to bind a name -/

namespace ExistingImport

/-- Whether a statement binds a name in the given way. -/
def bindsAs (i : ExistingImport) (name : String) : SpecifierKind → Bool
  | .byDefault => i.defaultName == some name
  | .asNamespace => i.namespaceName == some name
  | .byName => i.named.any fun s => s.localName == name

theorem binds_iff_bindsAs {i : ExistingImport} {name : String} :
    i.binds name = true ↔ ∃ kind, i.bindsAs name kind = true := by
  rw [binds, Bool.or_eq_true, Bool.or_eq_true]
  constructor
  · rintro ((h | h) | h)
    · exact ⟨.byDefault, h⟩
    · exact ⟨.asNamespace, h⟩
    · exact ⟨.byName, h⟩
  · rintro ⟨kind, h⟩
    cases kind with
    | byDefault => exact .inl (.inl h)
    | asNamespace => exact .inl (.inr h)
    | byName => exact .inr h

end ExistingImport

/-- Some statement binds the name that a conflict gives, in the way that it gives. -/
def ImportConflict.Truthful (targets : List ExistingImport) (c : ImportConflict) : Prop :=
  ∃ i ∈ targets, i.bindsAs c.existing c.kind = true

/-- The requested default has a name that a namespace has and no export, in a module without a
default. -/
def ImportSpec.MeetsNamespace (spec : ImportSpec) (targets : List ExistingImport) : Prop :=
  ∃ name, spec.defaultName = some name ∧ (∀ i ∈ targets, i.defaultName = none) ∧
    (∃ i ∈ targets, i.bindsAs name .asNamespace = true) ∧
    ∀ i ∈ targets, i.bindsAs name .byName = false

/-! ## Which conflicts there are -/

/-- A default is refused because of another one, or because its name is taken, and a namespace
because of another one. -/
theorem ImportSpec.mem_refusals_iff {spec : ImportSpec} {v : ImportView}
    {c : ImportConflict} : c ∈ spec.refusals v ↔
    (∃ name present, spec.defaultName = some name ∧ v.defaultName = some present ∧ present ≠ name ∧
      c = ⟨spec.path, .byDefault, present, name⟩) ∨
    (∃ name, spec.defaultName = some name ∧ v.defaultName = none ∧ name ∈ v.locals ∧
      c = ⟨spec.path, .byName, name, name⟩) ∨
    ∃ name present, spec.namespaceName = some name ∧ v.namespaceName = some present ∧
      present ≠ name ∧ c = ⟨spec.path, .asNamespace, present, name⟩ := by
  rw [refusals, List.mem_append, ← or_assoc]
  refine or_congr ?_ ?_
  · cases spec.defaultName with
    | none => simp
    | some name =>
      cases v.defaultName with
      | none => by_cases h : name ∈ v.locals <;> simp [h]
      | some present => by_cases h : present = name <;> simp [h]
  · cases spec.namespaceName with
    | none => simp
    | some name =>
      cases v.namespaceName with
      | none => simp
      | some present => by_cases h : present = name <;> simp [h]

section Reports

variable {spec : ImportSpec} {targets : List ExistingImport} {c : ImportConflict}

/-- The name that a conflict gives is bound. -/
theorem exists_binds_of_mem_refusals (h : c ∈ spec.refusals (.of targets)) :
    ∃ i ∈ targets, i.binds c.existing = true := by
  rcases ImportSpec.mem_refusals_iff.1 h with ⟨name, present, -, hpresent, -, rfl⟩ |
    ⟨name, -, -, htaken, rfl⟩ |
    ⟨name, present, -, hpresent, -, rfl⟩
  · obtain ⟨i, hi, hname⟩ := List.exists_of_findSome?_eq_some hpresent
    exact ⟨i, hi, ExistingImport.binds_iff_bindsAs.2 ⟨.byDefault, beq_iff_eq.2 hname⟩⟩
  · exact ImportView.mem_locals.1 htaken
  · obtain ⟨i, hi, hname⟩ := List.exists_of_findSome?_eq_some hpresent
    exact ⟨i, hi, ExistingImport.binds_iff_bindsAs.2 ⟨.asNamespace, beq_iff_eq.2 hname⟩⟩

/-- A name that is taken, in a module without a default, is taken by an export or by a namespace. -/
theorem bindsAs_of_taken {name : String} (hnone : (ImportView.of targets).defaultName = none)
    (htaken : name ∈ (ImportView.of targets).locals) :
    (∃ i ∈ targets, i.bindsAs name .byName = true) ∨
      ∃ i ∈ targets, i.bindsAs name .asNamespace = true := by
  obtain ⟨i, hi, hbinds⟩ := ImportView.mem_locals.1 htaken
  obtain ⟨kind, hkind⟩ := ExistingImport.binds_iff_bindsAs.1 hbinds
  cases kind with
  | byDefault =>
    have habsent : i.defaultName = none := List.findSome?_eq_none_iff.1 hnone i hi
    simp [ExistingImport.bindsAs, habsent] at hkind
  | asNamespace => exact .inr ⟨i, hi, hkind⟩
  | byName => exact .inl ⟨i, hi, hkind⟩

/-- All conflicts of a request are right unless its default meets a namespace. -/
theorem refusals_truthful_iff : (∀ c ∈ spec.refusals (.of targets), c.Truthful targets) ↔
    ¬spec.MeetsNamespace targets := by
  constructor
  · rintro htrue ⟨name, hname, hnone, ⟨i, hi, hspace⟩, hfree⟩
    have htaken : name ∈ (ImportView.of targets).locals :=
      ImportView.mem_locals.2 ⟨i, hi, ExistingImport.binds_iff_bindsAs.2 ⟨_, hspace⟩⟩
    have hconflict : ⟨spec.path, .byName, name, name⟩ ∈ spec.refusals (.of targets) :=
      ImportSpec.mem_refusals_iff.2
        (.inr (.inl ⟨name, hname, List.findSome?_eq_none_iff.2 hnone, htaken, rfl⟩))
    obtain ⟨j, hj, hbinds⟩ := htrue _ hconflict
    rw [hfree j hj] at hbinds
    cases hbinds
  · intro hmeets c hc
    rcases ImportSpec.mem_refusals_iff.1 hc with ⟨name, present, -, hpresent, -, rfl⟩ |
      ⟨name, hname, hnone, htaken, rfl⟩ | ⟨name, present, -, hpresent, -, rfl⟩
    · obtain ⟨i, hi, hfirst⟩ := List.exists_of_findSome?_eq_some hpresent
      exact ⟨i, hi, beq_iff_eq.2 hfirst⟩
    · by_contra hfalse
      have hfree : ∀ i ∈ targets, i.bindsAs name .byName = false :=
        fun i hi => Bool.eq_false_iff.2 fun hbinds => hfalse ⟨i, hi, hbinds⟩
      refine hmeets ⟨name, hname, List.findSome?_eq_none_iff.1 hnone, ?_, hfree⟩
      exact (bindsAs_of_taken hnone htaken).resolve_left hfalse
    · obtain ⟨i, hi, hfirst⟩ := List.exists_of_findSome?_eq_some hpresent
      exact ⟨i, hi, beq_iff_eq.2 hfirst⟩

end Reports

/-- **What conflicts say.** Every conflict is about the module of the request and about its default
or its namespace, and the name that it gives is bound by a statement of that module. All conflicts
are right about how it is bound if and only if the requested default does not meet a namespace. -/
theorem resolveModule_conflicts_truthful_iff (spec : ImportSpec) (existing : List ExistingImport) :
    let targets := spec.targets existing
    let conflicts := (resolveModule spec existing).conflicts
    (∀ c ∈ conflicts, c.path = spec.path ∧ (∃ i ∈ targets, i.binds c.existing = true) ∧
      (c.kind ≠ .asNamespace ∧ spec.defaultName = some c.requested ∨
        c.kind = .asNamespace ∧ spec.namespaceName = some c.requested)) ∧
    ((∀ c ∈ conflicts, c.Truthful targets) ↔ ¬spec.MeetsNamespace targets) := by
  intro targets conflicts
  have hconflicts : conflicts = spec.refusals (.of targets) := resolveModule_conflicts spec existing
  rw [hconflicts]
  refine ⟨fun c hc => ?_, refusals_truthful_iff⟩
  have hbound := exists_binds_of_mem_refusals hc
  rcases ImportSpec.mem_refusals_iff.1 hc with ⟨name, present, hname, -, -, rfl⟩ |
    ⟨name, hname, -, -, rfl⟩ |
    ⟨name, present, hname, -, -, rfl⟩
  · exact ⟨rfl, hbound, .inl ⟨SpecifierKind.noConfusion, hname⟩⟩
  · exact ⟨rfl, hbound, .inl ⟨SpecifierKind.noConfusion, hname⟩⟩
  · exact ⟨rfl, hbound, .inr ⟨rfl, hname⟩⟩

/-- A default and a namespace that are refused because of others. -/
theorem resolveModule_conflicts_truthful_iff_bothRefused :
    let spec : ImportSpec := { path := "m", defaultName := some "a", namespaceName := some "n" }
    let existing : List ExistingImport :=
      [{ path := "m", start := 0, stop := 18, defaultName := some "b", clauseStart := some 7 },
        { path := "m", start := 19, stop := 42, namespaceName := some "k", clauseStart := some 26 }]
    let conflict : ImportConflict := ⟨"m", .asNamespace, "k", "n"⟩
    (resolveModule spec existing).conflicts = [⟨"m", .byDefault, "b", "a"⟩, conflict] ∧
      (∃ i ∈ spec.targets existing, i.binds conflict.existing = true) ∧
      ¬spec.MeetsNamespace (spec.targets existing) ∧ conflict.Truthful (spec.targets existing) := by
  intro spec existing conflict
  obtain ⟨hbound, htrue⟩ := resolveModule_conflicts_truthful_iff spec existing
  have hconflicts : (resolveModule spec existing).conflicts =
      [⟨"m", .byDefault, "b", "a"⟩, conflict] := by decide
  have hmem : conflict ∈ (resolveModule spec existing).conflicts :=
    hconflicts ▸ List.mem_cons_of_mem _ List.mem_cons_self
  have hmeets : ¬spec.MeetsNamespace (spec.targets existing) := by
    rintro ⟨-, -, hnone, -⟩
    exact absurd (hnone _ List.mem_cons_self) (by decide)
  exact ⟨hconflicts, (hbound conflict hmem).2.1, hmeets, htrue.2 hmeets conflict hmem⟩

/-- A default with the name of a namespace is reported as if an export had the name. -/
theorem not_truthful_of_meetsNamespace :
    let spec : ImportSpec := { path := "m", defaultName := some "foo" }
    let existing : List ExistingImport :=
      [{ path := "m", start := 0, stop := 25, namespaceName := some "foo", clauseStart := some 7 }]
    spec.MeetsNamespace (spec.targets existing) ∧
      (resolveModule spec existing).conflicts = [⟨"m", .byName, "foo", "foo"⟩] ∧
      ¬ImportConflict.Truthful (spec.targets existing) ⟨"m", .byName, "foo", "foo"⟩ := by
  refine ⟨⟨"foo", rfl, by decide, by decide, by decide⟩, by decide, ?_⟩
  unfold ImportConflict.Truthful
  decide

end Graft
