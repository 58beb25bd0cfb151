import Graft.Proofs.Grouping
import Graft.Proofs.Merging

set_option autoImplicit false

/-!
# Names bound by merged requests

After a request has been merged, the names that it adds are bound beside those that were bound
before. A default and exports never take a name that a statement of the module binds; a namespace
may, and one name may be asked for in two parts. Merging the same request again adds nothing and
reports the same conflicts, wherever the statements have moved to in the meantime.
-/

namespace Graft

/-! ## Names that are bound twice -/

/-- What is added binds no name that a statement binds, and no name twice. -/
structure NoDoubleBinding (targets : List ExistingImport) (added : List Specifier) : Prop where
  free : ∀ s ∈ added, ∀ i ∈ targets, i.binds s.name = false
  distinct : (added.map (·.name)).Nodup

namespace ImportSpec

variable {spec : ImportSpec} {v : ImportView} {name : String}

theorem map_name_additions (spec : ImportSpec) (v : ImportView) : (spec.additions v).map (·.name) =
    (spec.newDefault v).toList ++ (spec.newNamespace v).toList ++ spec.newNames v := by
  simp [additions, Function.comp_def, Specifier.name]

theorem byDefault_mem_additions :
    .byDefault name ∈ spec.additions v ↔ spec.newDefault v = some name := by
  simp [additions]

theorem asNamespace_mem_additions :
    .asNamespace name ∈ spec.additions v ↔ spec.newNamespace v = some name := by
  simp [additions]

theorem byName_mem_additions : .byName name ∈ spec.additions v ↔ name ∈ spec.newNames v := by
  simp [additions]

theorem additions_nodup (spec : ImportSpec) (v : ImportView) : (spec.additions v).Nodup := by
  have hnames : ((spec.newNames v).map Specifier.byName).Nodup :=
    (nodup_eraseDups _).map fun a b hab => Specifier.byName.inj hab
  rw [additions, ← Option.toList_map, ← Option.toList_map]
  refine List.nodup_append'.2
    ⟨List.nodup_append'.2 ⟨Option.toList_nodup _, Option.toList_nodup _, ?_⟩, hnames, ?_⟩
  · intro s hs hs'
    obtain ⟨name, -, rfl⟩ := Option.map_eq_some_iff.1 (Option.mem_toList.1 hs)
    simp at hs'
  · intro s hs hs'
    obtain ⟨name, -, rfl⟩ := List.mem_map.1 hs'
    simp at hs

/-- A name is bound twice by a namespace whose name is not free, or by a name that is asked for in
two parts. -/
theorem noDoubleBinding_iff (spec : ImportSpec) (targets : List ExistingImport) :
    let added := spec.additions (.of targets)
    NoDoubleBinding targets added ↔
      (∀ name, .asNamespace name ∈ added →
        (∀ i ∈ targets, i.binds name = false) ∧ name ∉ spec.named) ∧
        ∀ name, .byDefault name ∈ added → name ∉ spec.named ∧ .asNamespace name ∉ added := by
  intro added
  have hfree : ∀ name, (∀ i ∈ targets, i.binds name = false) ↔
      name ∉ (ImportView.of targets).locals := by
    intro name
    rw [ImportView.mem_locals]
    simp
  simp only [added, asNamespace_mem_additions, byDefault_mem_additions, hfree]
  constructor
  · rintro ⟨hclear, hdistinct⟩
    rw [map_name_additions, List.nodup_append', List.nodup_append'] at hdistinct
    obtain ⟨⟨-, -, hparts⟩, -, hnames⟩ := hdistinct
    refine ⟨fun name hname => ?_, fun name hname => ?_⟩
    · have hlocal := (hfree name).1 (hclear (.asNamespace name) (asNamespace_mem_additions.2 hname))
      refine ⟨hlocal, fun hmem => ?_⟩
      exact hnames (List.mem_append_right _ (by simp [hname])) (mem_newNames.2 ⟨hmem, hlocal⟩)
    · have hlocal := (newDefault_eq_some_iff.1 hname).2.2
      refine ⟨fun hmem => ?_, fun hspace => ?_⟩
      · exact hnames (List.mem_append_left _ (by simp [hname])) (mem_newNames.2 ⟨hmem, hlocal⟩)
      · exact hparts (by simp [hname]) (by simp [hspace] : name ∈ _)
  · rintro ⟨hspace, hdefault⟩
    refine ⟨fun s hs => (hfree s.name).2 ?_, ?_⟩
    · cases s with
      | byDefault name => exact (newDefault_eq_some_iff.1 (byDefault_mem_additions.1 hs)).2.2
      | asNamespace name => exact (hspace name (asNamespace_mem_additions.1 hs)).1
      | byName name => exact (mem_newNames.1 (byName_mem_additions.1 hs)).2
    · rw [map_name_additions, List.nodup_append', List.nodup_append']
      refine ⟨⟨Option.toList_nodup _, Option.toList_nodup _, ?_⟩, nodup_eraseDups _, ?_⟩
      · intro name hname hname'
        exact (hdefault name (Option.mem_toList.1 hname)).2 (Option.mem_toList.1 hname')
      · intro name hname hname'
        have hnamed := (mem_newNames.1 hname').1
        rcases List.mem_append.1 hname with h | h
        · exact (hdefault name (Option.mem_toList.1 h)).1 hnamed
        · exact (hspace name (Option.mem_toList.1 h)).2 hnamed

end ImportSpec

/-- Every edit of a request makes a name that is added the default of a statement, or puts the names
that are added into one. -/
theorem resolveModule_edits_add {spec : ImportSpec} {existing : List ExistingImport} {e : Edit}
    (he : e ∈ (resolveModule spec existing).edits) : ∃ i ∈ spec.targets existing,
      (∃ name, .byDefault name ∈ spec.additions (.of (spec.targets existing)) ∧
        i.defaultEdit? name = some e) ∨
        i.namesEdit? (spec.newNames (.of (spec.targets existing))) = some e := by
  rw [resolveModule_edits] at he
  rcases List.mem_append.1 he with he | he
  · rcases resolveDefault_adds spec (spec.targets existing) with ⟨-, hedits, -⟩ |
      ⟨name, -, hnew, hadds⟩
    · simp [hedits] at he
    · rcases hadds with ⟨f, hedits, -, i, hi, hf⟩ | ⟨hedits, -⟩
      · rw [hedits, List.mem_singleton] at he
        exact ⟨i, hi, .inl ⟨name, ImportSpec.byDefault_mem_additions.2 hnew, he ▸ hf⟩⟩
      · simp [hedits] at he
  · rcases resolveNamed_adds spec (spec.targets existing) with ⟨f, hedits, -, i, hi, hf⟩ |
      ⟨hedits, -⟩
    · rw [hedits, List.mem_singleton] at he
      exact ⟨i, hi, .inr (he ▸ hf)⟩
    · simp [hedits] at he

/-- **Which names a request binds twice.** The names that are bound afterwards are those from before
and those that are added. No specifier is added twice, and no default and no export takes a name
that is bound. So no name is bound twice exactly if a namespace that is added has a name that is
bound nowhere and is not asked for as an export too, and a default that is added has a name that is
not asked for as an export or added as a namespace too. -/
theorem resolveModule_doubleBinding (spec : ImportSpec) (existing : List ExistingImport) :
    let targets := spec.targets existing
    let added := spec.additions (.of targets)
    ((spec.targets (spec.merged existing)).flatMap (·.locals)).Perm
        (targets.flatMap (·.locals) ++ added.map (·.name)) ∧
      (∀ e ∈ (resolveModule spec existing).edits, ∃ i ∈ targets,
        (∃ name, .byDefault name ∈ added ∧ i.defaultEdit? name = some e) ∨
          i.namesEdit? (spec.newNames (.of targets)) = some e) ∧
      added.Nodup ∧
      (∀ s ∈ added, (∀ name, s ≠ .asNamespace name) → ∀ i ∈ targets, i.binds s.name = false) ∧
      (NoDoubleBinding targets added ↔
        (∀ name, .asNamespace name ∈ added →
          (∀ i ∈ targets, i.binds name = false) ∧ name ∉ spec.named) ∧
          ∀ name, .byDefault name ∈ added → name ∉ spec.named ∧ .asNamespace name ∉ added) := by
  intro targets added
  refine ⟨?_, fun e he => resolveModule_edits_add he, spec.additions_nodup _, ?_,
    spec.noDoubleBinding_iff targets⟩
  · have hperm := (spec.gains_merged existing).locals_perm
    rw [← ImportSpec.map_name_additions] at hperm
    exact hperm
  · intro s hs hkind i hi
    have hlocal : s.name ∉ (ImportView.of targets).locals := by
      cases s with
      | byDefault name =>
        exact (ImportSpec.newDefault_eq_some_iff.1 (ImportSpec.byDefault_mem_additions.1 hs)).2.2
      | asNamespace name => exact absurd rfl (hkind name)
      | byName name => exact (ImportSpec.mem_newNames.1 (ImportSpec.byName_mem_additions.1 hs)).2
    rw [← Bool.not_eq_true]
    exact fun hbinds => hlocal (ImportView.mem_locals.2 ⟨i, hi, hbinds⟩)

/-- One name as a default and as an export, and a namespace with the name of an export of the
file. -/
theorem not_noDoubleBinding_of_shared :
    (let spec : ImportSpec := { path := "m", defaultName := some "foo", named := ["foo"] }
     (resolveModule spec []).newStatements = [spec] ∧
     ¬NoDoubleBinding [] (spec.additions (.of []))) ∧
    (let spec : ImportSpec := { path := "m", namespaceName := some "ns" }
     let existing : List ExistingImport :=
       [{ path := "m", start := 0, stop := 23, named := [⟨"ns", none⟩], clauseStart := some 7,
          braces := some (7, 13)
          lastNamedEnd := some 11 }]
     (resolveModule spec existing).newStatements = [spec] ∧
       ¬NoDoubleBinding (spec.targets existing)
         (spec.additions (.of (spec.targets existing)))) := by
  refine ⟨⟨by decide, fun h => ?_⟩, by decide, fun h => ?_⟩
  · exact absurd h.distinct (by decide)
  · exact absurd (h.free (.asNamespace "ns") (by decide) _ List.mem_cons_self) (by decide)

/-! ## Merging again -/

/-- What an import binds, wherever it stands. -/
structure ImportBindings where
  path : String
  defaultName : Option String
  namespaceName : Option String
  named : List NamedSpecifier
  /-- Whether more can be added. -/
  isMergeTarget : Bool
  deriving DecidableEq

def ExistingImport.bindings (i : ExistingImport) : ImportBindings :=
  ⟨i.path, i.defaultName, i.namespaceName, i.named, i.isMergeTarget⟩

/-- The view does not depend on where statements stand. -/
theorem ImportView.of_congr {spec : ImportSpec} {imports imports' : List ExistingImport}
    (h : imports'.map (·.bindings) = imports.map (·.bindings)) :
    of (spec.targets imports') = of (spec.targets imports) := by
  -- The view, read off what the imports bind.
  have hview : ∀ l : List ExistingImport, of (spec.targets l) =
      let targets := (l.map (·.bindings)).filter fun b => b.path == spec.path && b.isMergeTarget
      ⟨targets.findSome? (·.defaultName), targets.findSome? (·.namespaceName),
        targets.flatMap fun b =>
        b.defaultName.toList ++ b.namespaceName.toList ++ b.named.map (·.localName)⟩ := by
    intro l
    simp only [spec.targets_eq_filter, List.filter_map, List.findSome?_map, List.flatMap_map]
    rfl
  rw [hview, hview, h]

theorem ImportView.Gains.subset {v v' : ImportView} {d n : Option String} {l : List String}
    (h : v.Gains d n l v') {name : String}
    (hname : name ∈ v.locals ∨ d = some name ∨ name ∈ l) : name ∈ v'.locals := by
  rw [h.locals_perm.mem_iff]
  rcases hname with hname | rfl | hname
  · exact List.mem_append_left _ hname
  · simp
  · simp [hname]

namespace ImportSpec

section Again

variable {spec : ImportSpec} {v v' : ImportView}
  (h : v.Gains (spec.newDefault v) (spec.newNamespace v) (spec.newNames v) v')

include h

/-- A default that could be added has been added, unless its name was taken. -/
theorem newDefault_again : spec.newDefault v' = none := by
  rw [Option.eq_none_iff_forall_ne_some]
  intro name hname
  obtain ⟨hrequested, hnone, hfree⟩ := newDefault_eq_some_iff.1 hname
  rw [h.defaultName_eq, Option.or_eq_none_iff] at hnone
  have hadded : spec.newDefault v = some name :=
    newDefault_eq_some_iff.2 ⟨hrequested, hnone.1, fun hmem => hfree (h.subset (.inl hmem))⟩
  rw [hnone.2] at hadded
  cases hadded

theorem newNamespace_again : spec.newNamespace v' = none := by
  rw [Option.eq_none_iff_forall_ne_some]
  intro name hname
  obtain ⟨hrequested, hnone⟩ := newNamespace_eq_some_iff.1 hname
  rw [h.namespaceName_eq, Option.or_eq_none_iff] at hnone
  have hadded : spec.newNamespace v = some name := newNamespace_eq_some_iff.2 ⟨hrequested, hnone.1⟩
  rw [hnone.2] at hadded
  cases hadded

theorem newNames_again : spec.newNames v' = [] := by
  refine List.eq_nil_iff_forall_not_mem.2 fun name hname => ?_
  obtain ⟨hrequested, hfree⟩ := mem_newNames.1 hname
  by_cases hbound : name ∈ v.locals
  · exact hfree (h.subset (.inl hbound))
  · exact hfree (h.subset (.inr (.inr (mem_newNames.2 ⟨hrequested, hbound⟩))))

/-- What is refused was not added, so it is refused again, for the same reason. -/
theorem refusals_again : spec.refusals v' = spec.refusals v := by
  unfold refusals
  congr 1
  · cases hrequested : spec.defaultName with
    | none => rfl
    | some name =>
      simp only [Option.toList_some, List.flatMap_singleton, h.defaultName_eq]
      cases hpresent : v.defaultName with
      | some present => rfl
      | none =>
        rw [Option.none_or]
        by_cases hbound : name ∈ v.locals
        · have hnot : spec.newDefault v = none := by simp [newDefault, hrequested, hbound]
          simp [hnot, hbound, h.subset (.inl hbound)]
        · have hadded : spec.newDefault v = some name :=
            newDefault_eq_some_iff.2 ⟨hrequested, hpresent, hbound⟩
          simp [hadded, hbound]
  · cases hrequested : spec.namespaceName with
    | none => rfl
    | some name =>
      simp only [Option.toList_some, List.flatMap_singleton, h.namespaceName_eq]
      cases hpresent : v.namespaceName with
      | some present => rfl
      | none =>
        have hadded : spec.newNamespace v = some name :=
          newNamespace_eq_some_iff.2 ⟨hrequested, hpresent⟩
        simp [hadded]

end Again

/-- Edits do not change which modules statements are about. -/
theorem map_path_foldl_lookmap {f : Edit → ExistingImport → Option ExistingImport}
    (h : ∀ e a, ∀ b ∈ f e a, a.path = b.path) (edits : List Edit) (imports : List ExistingImport) :
    (edits.foldl (fun l e => l.lookmap (f e)) imports).map (·.path) = imports.map (·.path) := by
  induction edits generalizing imports with
  | nil => rfl
  | cons e edits ih => rw [List.foldl_cons, ih, List.lookmap_map_eq (f e) _ (h e)]

theorem map_path_merged (spec : ImportSpec) (existing : List ExistingImport) :
    (spec.merged existing).map (·.path) =
    existing.map (·.path) ++ (resolveModule spec existing).newStatements.map (·.path) := by
  rw [merged, List.map_append, List.map_map]
  refine congrArg (· ++ _) ((map_path_foldl_lookmap ?_ _ _).trans (map_path_foldl_lookmap ?_ _ _))
  · intro e a b hb
    rw [Option.mem_def, Option.ite_none_right_eq_some, Option.some_inj] at hb
    rw [← hb.2]
    rfl
  · intro e a b hb
    obtain ⟨name, -, hb⟩ := Option.bind_eq_some_iff.1 hb
    rw [Option.ite_none_right_eq_some, Option.some_inj] at hb
    rw [← hb.2]
    rfl

theorem isBare_iff {spec : ImportSpec} {imports : List ExistingImport} :
    spec.isBare imports = true ↔ spec.isEmpty = true ∧ spec.path ∉ imports.map (·.path) := by
  rw [isBare, Bool.and_eq_true, List.isEmpty_iff, List.filter_eq_nil_iff]
  refine and_congr_right fun _ => ?_
  rw [List.mem_map, not_exists]
  refine forall_congr' fun i => ?_
  rw [beq_iff_eq, not_and]

/-- A module that is asked for alone is imported afterwards. -/
theorem isBare_again {spec : ImportSpec} {existing imports : List ExistingImport}
    (h : imports.map (·.path) = (spec.merged existing).map (·.path)) :
    spec.isBare imports = false := by
  rw [← Bool.not_eq_true, isBare_iff, h, map_path_merged, List.mem_append, not_or]
  rintro ⟨hempty, habsent, hnew⟩
  rw [resolveModule_newStatements, isBare_iff.2 ⟨hempty, habsent⟩, Bool.or_true, if_pos rfl] at hnew
  exact hnew (List.mem_map.2 ⟨spec.fresh existing, List.mem_append_left _ List.mem_cons_self, rfl⟩)

end ImportSpec

/-- **Merging a request again changes nothing.** After a request has been merged there are no edits
and no new statements for it, and what was reported the first time is reported again, whatever the
places of the statements are by then. -/
theorem resolveModule_again (spec : ImportSpec) (existing existing' : List ExistingImport)
    (h : existing'.map (·.bindings) = (spec.merged existing).map (·.bindings)) :
    (resolveModule spec existing').edits = [] ∧ (resolveModule spec existing').newStatements = [] ∧
      (resolveModule spec existing').conflicts = (resolveModule spec existing).conflicts := by
  have hgains := spec.gains_merged existing
  rw [← ImportView.of_congr h] at hgains
  have hpaths : existing'.map (·.path) = (spec.merged existing).map (·.path) := by
    have hpaths := congrArg (List.map (·.path)) h
    rwa [List.map_map, List.map_map] at hpaths
  obtain ⟨hdefaultEdits, hdefault⟩ :
    (resolveDefault spec.path (spec.targets existing') spec.defaultName).now.edits = [] ∧
      (resolveDefault spec.path (spec.targets existing') spec.defaultName).later = none := by
    rcases resolveDefault_adds spec (spec.targets existing') with ⟨-, hnone⟩ | ⟨name, -, hnew, -⟩
    · exact hnone
    · rw [ImportSpec.newDefault_again hgains] at hnew
      cases hnew
  obtain ⟨hnameEdits, hnames⟩ : (resolveNamed (spec.targets existing') spec.named).now.edits = [] ∧
      (resolveNamed (spec.targets existing') spec.named).later = [] := by
    have hmissing := missingNames_eq spec (spec.targets existing')
    rw [ImportSpec.newNames_again hgains] at hmissing
    rcases resolveNamed_cases (spec.targets existing') spec.named with heq | ⟨hne, -⟩
    · rw [heq, hmissing]
      exact ⟨rfl, rfl⟩
    · exact absurd hmissing hne
  refine ⟨?_, ?_, ?_⟩
  · rw [resolveModule_edits, hdefaultEdits, hnameEdits]
    rfl
  · have hfresh : (spec.fresh existing').isEmpty = true := by
      simp [ImportSpec.fresh, ImportSpec.isEmpty, hdefault, hnames]
    rw [resolveModule_newStatements, hfresh, ImportSpec.isBare_again hpaths,
      ImportSpec.newNamespace_again hgains]
    rfl
  · rw [resolveModule_conflicts, resolveModule_conflicts, ImportSpec.refusals_again hgains]

/-- A request that is partly there, partly refused and partly added, in two ways; then the text has
moved. -/
theorem resolveModule_again_moved :
    let spec : ImportSpec :=
      { path := "m", defaultName := some "d", named := ["a", "c", "b", "c"],
        namespaceName := some "n" }
    let existing : List ExistingImport :=
      [{ path := "m", start := 0, stop := 22, named := [⟨"x", some "a"⟩], clauseStart := some 7,
         braces := some (7, 17)
         lastNamedEnd := some 15 },
       { path := "m", start := 30, stop := 50, namespaceName := some "k", clauseStart := some 37 }]
    let existing' : List ExistingImport :=
      [{ path := "m", start := 0, stop := 31, defaultName := some "d"
         named := [⟨"x", some "a"⟩, ⟨"c", none⟩, ⟨"b", none⟩],
         clauseStart := some 7, defaultEnd := some 8
         braces := some (10, 26), lastNamedEnd := some 24 },
       { path := "m", start := 39, stop := 59, namespaceName := some "k", clauseStart := some 46 }]
    existing'.map (·.bindings) = (spec.merged existing).map (·.bindings) ∧
      (resolveModule spec existing).conflicts = [⟨"m", .asNamespace, "k", "n"⟩] ∧
      (resolveModule spec existing').edits = [] ∧
      (resolveModule spec existing').newStatements = [] ∧
      (resolveModule spec existing').conflicts = (resolveModule spec existing).conflicts := by
  intro spec existing existing'
  have hsame : existing'.map (·.bindings) = (spec.merged existing).map (·.bindings) := by
    decide +kernel
  exact ⟨hsame, by decide +kernel, resolveModule_again spec existing existing' hsame⟩

end Graft
