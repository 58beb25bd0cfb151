import Graft.Proofs.Acceptance

set_option autoImplicit false

/-!
# Edits of imports

Merged imports are insertions into statements of the file, and all new statements are one insertion.
An insertion is left out exactly if an accepted sketch removes the text around its place.
-/

namespace Graft

/-! ## Merging into statements -/

/-- Where a statement can take more. -/
def ExistingImport.mergeOffsets (i : ExistingImport) : List Nat :=
  i.clauseStart.toList ++ i.defaultEnd.toList ++ i.lastNamedEnd.toList ++
    i.braces.toList.map fun b => b.2 - 1

/-- An insertion into one of some statements. -/
def MergesInto (targets : List ExistingImport) (e : Edit) : Prop :=
  ∃ i ∈ targets, ∃ offset ∈ i.mergeOffsets, ∃ text, e = Edit.insertion offset text

theorem MergesInto.mono {targets targets' : List ExistingImport} (h : targets ⊆ targets') {e : Edit}
    (he : MergesInto targets e) : MergesInto targets' e := by
  obtain ⟨i, hi, rest⟩ := he
  exact ⟨i, h hi, rest⟩

theorem mergesInto_resolveDefault {path : String} {targets : List ExistingImport}
    {requested : Option String} {e : Edit}
    (he : e ∈ (resolveDefault path targets requested).now.edits) : MergesInto targets e := by
  unfold resolveDefault at he
  repeat' split at he
  all_goals try exact absurd he List.not_mem_nil
  rename_i offset hoffset
  obtain ⟨i, hi, hstart⟩ := List.exists_of_findSome?_eq_some hoffset
  refine ⟨i, hi, offset, ?_, _, List.mem_singleton.1 he⟩
  rw [Option.ite_none_right_eq_some] at hstart
  simp [ExistingImport.mergeOffsets, hstart.2]

theorem resolveNamespace_edits (path : String) (targets : List ExistingImport)
    (requested : Option String) : (resolveNamespace path targets requested).now.edits = [] := by
  unfold resolveNamespace
  repeat' split
  all_goals rfl

theorem mergesInto_resolveNamed {targets : List ExistingImport} {requested : List String} {e : Edit}
    (he : e ∈ (resolveNamed targets requested).now.edits) : MergesInto targets e := by
  unfold resolveNamed at he
  split at he
  · exact absurd he List.not_mem_nil
  · split at he
    · rename_i lastNamedEnd start stop hfound
      obtain ⟨i, hi, hbraces⟩ := List.exists_of_findSome?_eq_some hfound
      obtain ⟨b, hb, hpair⟩ := Option.map_eq_some_iff.1 hbraces
      obtain ⟨hlast, rfl⟩ := Prod.mk.inj hpair
      have he := List.mem_singleton.1 he
      cases lastNamedEnd with
      | some offset =>
        refine ⟨i, hi, offset, ?_, _, he⟩
        simp [ExistingImport.mergeOffsets, hlast]
      | none =>
        refine ⟨i, hi, stop - 1, ?_, _, he⟩
        simp [ExistingImport.mergeOffsets, hb]
    · dsimp only at he
      split at he
      · rename_i offset hoffset
        obtain ⟨i, hi, hend⟩ := Option.bind_eq_some_iff.1 hoffset
        refine ⟨i, List.mem_of_find?_eq_some hi, offset, ?_, _, List.mem_singleton.1 he⟩
        simp [ExistingImport.mergeOffsets, hend]
      · exact absurd he List.not_mem_nil

theorem mergesInto_resolveModule {spec : ImportSpec} {existing : List ExistingImport} {e : Edit}
    (he : e ∈ (resolveModule spec existing).edits) : MergesInto existing e := by
  let targets := (existing.filter fun i => i.path == spec.path).filter (·.isMergeTarget)
  have hedits : (resolveModule spec existing).edits =
      (resolveDefault spec.path targets spec.defaultName).now.edits ++
      (resolveNamespace spec.path targets spec.namespaceName).now.edits ++
      (resolveNamed targets spec.named).now.edits ++ [] := rfl
  have hsub : targets ⊆ existing := fun i hi => List.mem_of_mem_filter (List.mem_of_mem_filter hi)
  rw [hedits, List.append_nil, resolveNamespace_edits, List.append_nil, List.mem_append] at he
  rcases he with he | he
  · exact (mergesInto_resolveDefault he).mono hsub
  · exact (mergesInto_resolveNamed he).mono hsub

/-! ## What an accepted sketch removes -/

/-- Whether no sketch removes the text around the place of an insertion. -/
def Sketch.spare (accepted : List Sketch) (e : Edit) : Bool :=
  accepted.all fun s => s.removed.all fun r => !(r.start < e.start && e.start < r.stop)

theorem Sketch.spare_perm {accepted accepted' : List Sketch} (h : accepted.Perm accepted') :
    spare accepted = spare accepted' := funext fun _ => h.all_eq

theorem Sketch.removals_draft (source : String) (seq : Nat) (label : String) (s : Sketch) :
    (s.draft source seq label).removals = s.removed.toList.filter fun r => r.start != r.stop := by
  rw [Draft.removals_eq, ranges_draft, List.filter_append,
    List.filter_eq_nil_iff.2 ?_, List.nil_append]
  intro r hr
  obtain ⟨i, -, rfl⟩ := List.mem_map.1 hr
  simp

theorem ByteRange.invalidates_point {r : ByteRange} {e : Edit} (he : e.isInsertion = true) :
    r.invalidates e.range = (decide (r.start < e.start) && decide (e.start < r.stop)) := by
  have hpoint : e.range.isEmpty = true := by
    have := Edit.isInsertion_iff.1 he
    simp [isEmpty, Edit.range, this]
  rw [invalidates, if_pos hpoint]
  rfl

/-- An insertion is blocked by a draft exactly if the draft removes the text around its place. -/
theorem find?_removals_eq_none_iff (source : String) (accepted : List Numbered) {e : Edit}
    (he : e.isInsertion = true) :
    ((accepted.map (·.draft source)).find? fun d => d.removals.any fun removal =>
      removal.invalidates e.range) = none ↔ Sketch.spare (accepted.map (·.sketch)) e = true := by
  rw [List.find?_eq_none, Sketch.spare, List.all_map, List.all_eq_true, List.forall_mem_map]
  refine forall₂_congr fun n _ => ?_
  rw [Numbered.draft, Sketch.removals_draft, Function.comp_apply]
  cases n.sketch.removed with
  | none => simp
  | some r =>
    simp only [Option.toList_some, Option.all_some, List.any_filter, List.any_cons, List.any_nil,
      Bool.or_false, ByteRange.invalidates_point he, Bool.and_eq_true, bne_iff_ne, ne_eq,
      decide_eq_true_eq, Bool.not_eq_true', Bool.and_eq_false_iff, decide_eq_false_iff_not]
    omega

/-- Whether an error is of the kinds that imports can come to. -/
def GenerationError.aboutImports : GenerationError → Bool
  | importConflict _ | rangeConflict _ _ _ _ => true
  | _ => false

theorem GenerationError.isFatal_of_aboutImports {e : GenerationError} (h : e.aboutImports = true) :
    e.isFatal = false := by
  cases e with
  | importConflict | rangeConflict => rfl
  | parseFailure | targetNotFound | textNotFound | duplicateDeclaration | invalidEdit |
    syntaxRegression => cases h

namespace Workspace

/-! ## Collecting -/

/-- From a collection to a larger one: some edits are added, without those that are blocked, and
errors of imports. -/
structure ImportEdits.Extends (accepted : List Sketch) (out : ImportEdits) (edits : List Edit)
    (out' : ImportEdits) : Prop where
  edits_eq : out'.edits = out.edits ++ edits.filter (Sketch.spare accepted)
  errors_eq : ∃ more, out'.errors = out.errors ++ more ∧ ∀ e ∈ more, e.aboutImports = true

namespace ImportEdits.Extends

variable {accepted : List Sketch} {out out' out'' : ImportEdits} {edits edits' : List Edit}

theorem refl (accepted : List Sketch) (out : ImportEdits) : Extends accepted out [] out :=
  ⟨(List.append_nil _).symm, [], (List.append_nil _).symm, fun _ h => absurd h List.not_mem_nil⟩

theorem trans (h : Extends accepted out edits out') (h' : Extends accepted out' edits' out'') :
    Extends accepted out (edits ++ edits') out'' := by
  obtain ⟨more, hmore, habout⟩ := h.errors_eq
  obtain ⟨more', hmore', habout'⟩ := h'.errors_eq
  refine ⟨?_, more ++ more', ?_, ?_⟩
  · rw [h'.edits_eq, h.edits_eq, List.filter_append, List.append_assoc]
  · rw [hmore', hmore, List.append_assoc]
  · intro e he
    rcases List.mem_append.1 he with he | he
    · exact habout e he
    · exact habout' e he

theorem conflicts (accepted : List Sketch) (out : ImportEdits) (conflicts : List ImportConflict) :
    Extends accepted out [] { out with errors := out.errors ++ conflicts.map .importConflict } := by
  refine ⟨(List.append_nil _).symm, _, rfl, ?_⟩
  intro e he
  obtain ⟨c, -, rfl⟩ := List.mem_map.1 he
  rfl

theorem add (source : String) (accepted : List Numbered) (label : String) (out : ImportEdits)
    {e : Edit} (he : e.isInsertion = true) : Extends (accepted.map (·.sketch)) out [e]
      (out.add (accepted.map (·.draft source)) label e) := by
  have hiff := find?_removals_eq_none_iff source accepted he
  unfold ImportEdits.add unblocked
  cases hfound : (accepted.map (·.draft source)).find? fun d =>
      d.removals.any fun removal => removal.invalidates e.range with
  | none =>
    refine ⟨?_, [], (List.append_nil _).symm, fun _ h => absurd h List.not_mem_nil⟩
    rw [List.filter_cons_of_pos (hiff.1 hfound), List.filter_nil]
  | some other =>
    have hspare : ¬ Sketch.spare (accepted.map (·.sketch)) e = true := fun h => by
      simp [hiff.2 h] at hfound
    refine ⟨?_, [_], rfl, ?_⟩
    · rw [List.filter_cons_of_neg hspare, List.filter_nil, List.append_nil]
    · intro error herror
      rw [List.mem_singleton.1 herror]
      rfl

theorem foldl_add (source : String) (accepted : List Numbered) (label : String) (edits : List Edit)
    (hedits : ∀ e ∈ edits, e.isInsertion = true) (out : ImportEdits) :
    Extends (accepted.map (·.sketch)) out edits
      (edits.foldl (ImportEdits.add (accepted.map (·.draft source)) label) out) := by
  induction edits generalizing out with
  | nil => exact refl _ out
  | cons e edits ih =>
    exact (add source accepted label out (hedits e List.mem_cons_self)).trans
      (ih (fun f hf => hedits f (List.mem_cons_of_mem e hf)) _)

end ImportEdits.Extends

/-- The insertions that merge requested imports into statements of the file. -/
def mergeEdits (w : Workspace) (specs : List ImportSpec) : List Edit :=
  (groupByModule specs).1.flatMap fun spec => (resolveModule spec w.document.imports).edits

/-- The statements that requested imports need beside those of the file. -/
def newStatements (w : Workspace) (specs : List ImportSpec) : List ImportSpec :=
  (groupByModule specs).1.flatMap fun spec => (resolveModule spec w.document.imports).newStatements

/-- The insertion of new statements. -/
def importBlock? (w : Workspace) (specs : List ImportSpec) : Option Edit :=
  if (w.newStatements specs).isEmpty then none
  else
    let existing := w.document.imports
    let placement := w.document.importPlacement existing
    let block := renderStatements (w.newStatements specs) (.ofImports existing) placement
      (String.ofList w.eol)
    some { Edit.insertion placement.offset block with order := importBlockOrder }

theorem mergesInto_of_mem_mergeEdits {w : Workspace} {specs : List ImportSpec} {e : Edit}
    (he : e ∈ w.mergeEdits specs) : MergesInto w.document.imports e := by
  obtain ⟨spec, -, he⟩ := List.mem_flatMap.1 he
  exact mergesInto_resolveModule he

theorem importBlock?_eq_some {w : Workspace} {specs : List ImportSpec} {e : Edit}
    (h : w.importBlock? specs = some e) :
    ∃ text, e = { Edit.insertion (w.document.importPlacement w.document.imports).offset text with
      order := importBlockOrder } := by
  unfold importBlock? at h
  split at h
  · cases h
  · exact ⟨_, (Option.some.inj h).symm⟩

theorem foldl_mergeModule (source : String) (existing : List ExistingImport)
    (accepted : List Numbered) (specs : List ImportSpec)
    (gathered : ImportEdits × List ImportSpec) :
    ImportEdits.Extends (accepted.map (·.sketch)) gathered.1
        (specs.flatMap fun spec => (resolveModule spec existing).edits)
        (specs.foldl (mergeModule existing (accepted.map (·.draft source))) gathered).1 ∧
      (specs.foldl (mergeModule existing (accepted.map (·.draft source))) gathered).2 =
        gathered.2 ++ specs.flatMap fun spec => (resolveModule spec existing).newStatements := by
  induction specs generalizing gathered with
  | nil => exact ⟨.refl _ _, (List.append_nil _).symm⟩
  | cons spec specs ih =>
    have hinsert : ∀ e ∈ (resolveModule spec existing).edits, e.isInsertion = true := by
      intro e he
      obtain ⟨i, -, offset, -, text, rfl⟩ := mergesInto_resolveModule he
      exact Edit.isInsertion_iff.2 rfl
    obtain ⟨hrest, hstatements⟩ :=
      ih (mergeModule existing (accepted.map (·.draft source)) gathered spec)
    refine ⟨?_, ?_⟩
    · exact ((ImportEdits.Extends.conflicts _ gathered.1 _).trans
        (.foldl_add source accepted _ _ hinsert _)).trans hrest
    · rw [List.foldl_cons, hstatements, List.flatMap_cons, ← List.append_assoc]
      rfl

/-- **What imports come to**: insertions into statements of the file and one block of new ones,
without those whose place an accepted sketch removes. -/
theorem importEdits_extends (w : Workspace) (specs : List ImportSpec) (accepted : List Numbered) :
    ImportEdits.Extends (accepted.map (·.sketch)) {}
      (w.mergeEdits specs ++ (w.importBlock? specs).toList)
      (w.importEdits specs (accepted.map (·.draft w.document.source))) := by
  cases specs with
  | nil => exact .refl _ _
  | cons spec specs =>
    -- Conflicts between requests are there from the start, then come the modules, and last the
    -- block.
    let start : ImportEdits × List ImportSpec :=
      ({ errors := (groupByModule (spec :: specs)).2.map .importConflict }, [])
    let drafts := accepted.map (·.draft w.document.source)
    let gathered :=
      (groupByModule (spec :: specs)).1.foldl (mergeModule w.document.imports drafts) start
    obtain ⟨hmerges, hstatements⟩ : ImportEdits.Extends (accepted.map (·.sketch)) start.1
        (w.mergeEdits (spec :: specs)) gathered.1 ∧ gathered.2 = w.newStatements (spec :: specs) :=
      foldl_mergeModule w.document.source w.document.imports accepted _ start
    have hstart := (ImportEdits.Extends.conflicts (accepted.map (·.sketch)) {} _).trans hmerges
    have hdef : w.importEdits (spec :: specs) drafts = match w.importBlock? (spec :: specs) with
        | none => gathered.1
        | some e => gathered.1.add drafts "new import statements" e := by
      unfold importEdits importBlock?
      rw [← hstatements]
      show (if gathered.2.isEmpty then gathered.1 else _) = _
      split <;> rfl
    rw [hdef]
    cases hblock : w.importBlock? (spec :: specs) with
    | none => simpa using hstart
    | some e =>
      obtain ⟨text, rfl⟩ := importBlock?_eq_some hblock
      exact hstart.trans (.add w.document.source accepted _ _ (Edit.isInsertion_iff.2 rfl))

end Workspace

end Graft
