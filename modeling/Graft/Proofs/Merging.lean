import Graft.Proofs.ImportEdits
import Graft.Proofs.Specifiers
import Mathlib.Data.List.Lookmap
import Mathlib.Data.List.Perm.Basic

set_option autoImplicit false

/-!
# Merged requests

What a request for a module adds depends on three things about the statements that it is merged
into: the first default, the first namespace and the names that are bound. `ImportSpec.merged` is
the list of imports afterwards: edits of the resolution go into the statements they are anchored in,
and new statements go to the end. The same three things are known of that list
(`ImportSpec.gains_merged`), so merging the request once more can be followed without looking at any
statement.
-/

namespace Graft

/-! ## Lists with one element changed -/

section Lookmap

variable {α : Type} {f : α → Option α}

theorem filter_lookmap {p : α → Bool} (h : ∀ a b, f a = some b → p a = true ∧ p b = true)
    (l : List α) : (l.lookmap f).filter p = (l.filter p).lookmap f := by
  induction l with
  | nil => rfl
  | cons a l ih =>
    cases hfa : f a with
    | none =>
      rw [List.lookmap_cons_none f l hfa]
      by_cases hp : p a = true
      · rw [List.filter_cons_of_pos hp, List.filter_cons_of_pos hp,
          List.lookmap_cons_none f _ hfa, ih]
      · rw [List.filter_cons_of_neg hp, List.filter_cons_of_neg hp, ih]
    | some b =>
      obtain ⟨ha, hb⟩ := h a b hfa
      rw [List.lookmap_cons_some f l hfa, List.filter_cons_of_pos hb, List.filter_cons_of_pos ha,
        List.lookmap_cons_some f _ hfa]

/-- The first element that a function changes is the only one that is changed. -/
theorem exists_lookmap_eq {l : List α} (h : ∃ a ∈ l, ∃ b, f a = some b) :
    ∃ front a b back, l = front ++ a :: back ∧ f a = some b ∧ l.lookmap f = front ++ b :: back := by
  induction l with
  | nil =>
    obtain ⟨a, ha, -⟩ := h
    exact absurd ha List.not_mem_nil
  | cons a l ih =>
    cases hfa : f a with
    | some b => exact ⟨[], a, b, l, rfl, hfa, List.lookmap_cons_some f l hfa⟩
    | none =>
      have hrest : ∃ a ∈ l, ∃ b, f a = some b := by
        obtain ⟨c, hc, b, hb⟩ := h
        rcases List.mem_cons.1 hc with rfl | hc
        · rw [hfa] at hb
          cases hb
        · exact ⟨c, hc, b, hb⟩
      obtain ⟨front, c, b, back, rfl, hb, heq⟩ := ih hrest
      exact ⟨a :: front, c, b, back, rfl, hb,
        by rw [List.lookmap_cons_none f _ hfa, heq, List.cons_append]⟩

/-- Every element is still there, or what it was changed into. -/
theorem mem_lookmap {l : List α} {a : α} (h : a ∈ l) :
    a ∈ l.lookmap f ∨ ∃ b ∈ l.lookmap f, f a = some b := by
  by_cases hchanged : ∃ a ∈ l, ∃ b, f a = some b
  · obtain ⟨front, c, b, back, rfl, hb, heq⟩ := exists_lookmap_eq hchanged
    rw [heq]
    rcases List.mem_append.1 h with h | h
    · exact .inl (List.mem_append_left _ h)
    · rcases List.mem_cons.1 h with rfl | h
      · exact .inr ⟨b, List.mem_append_right _ List.mem_cons_self, hb⟩
      · exact .inl (List.mem_append_right _ (List.mem_cons_of_mem b h))
  · have hsame : l.lookmap f = l := List.lookmap_of_forall_not f fun a ha =>
      Option.eq_none_iff_forall_ne_some.2 fun b hb => hchanged ⟨a, ha, b, hb⟩
    exact .inl (hsame.symm ▸ h)

theorem findSome?_middle {β : Type} (g : α → Option β) (front back : List α) (a : α) :
    (front ++ a :: back).findSome? g = (front.findSome? g).or ((g a).or (back.findSome? g)) := by
  rw [List.findSome?_append, List.findSome?_cons]
  cases g a <;> rfl

end Lookmap

/-! ## What a request adds -/

/-- The names that a statement binds. -/
def ExistingImport.locals (i : ExistingImport) : List String :=
  i.defaultName.toList ++ i.namespaceName.toList ++ i.named.map (·.localName)

theorem ExistingImport.binds_iff {i : ExistingImport} {name : String} :
    i.binds name = true ↔ name ∈ i.locals := by
  simp [binds, locals, or_assoc]

/-- What of some statements decides about a request. -/
structure ImportView where
  /-- The first default. -/
  defaultName : Option String
  /-- The first namespace. -/
  namespaceName : Option String
  /-- All names that are bound. -/
  locals : List String

def ImportView.of (targets : List ExistingImport) : ImportView :=
  ⟨targets.findSome? (·.defaultName), targets.findSome? (·.namespaceName),
    targets.flatMap (·.locals)⟩

namespace ImportView

variable {targets : List ExistingImport} {name : String}

@[simp] theorem of_defaultName : (of targets).defaultName = targets.findSome? (·.defaultName) := rfl

@[simp] theorem of_namespaceName :
    (of targets).namespaceName = targets.findSome? (·.namespaceName) := rfl

theorem mem_locals : name ∈ (of targets).locals ↔ ∃ i ∈ targets, i.binds name = true := by
  simp only [ExistingImport.binds_iff]
  exact List.mem_flatMap

theorem any_binds (targets : List ExistingImport) (name : String) :
    (targets.any fun i => i.binds name) = (of targets).locals.contains name := by
  rw [Bool.eq_iff_iff, List.any_eq_true, List.contains_iff_mem, mem_locals]

end ImportView

namespace ImportSpec

/-- The requested default, if there is none and its name is free. -/
def newDefault (spec : ImportSpec) (v : ImportView) : Option String :=
  spec.defaultName.filter fun name => v.defaultName.isNone && !v.locals.contains name

/-- The requested namespace, if there is none. -/
def newNamespace (spec : ImportSpec) (v : ImportView) : Option String :=
  spec.namespaceName.filter fun _ => v.namespaceName.isNone

/-- The requested names that are free, each once and in the order of the request. -/
def newNames (spec : ImportSpec) (v : ImportView) : List String :=
  (spec.named.filter fun name => !v.locals.contains name).eraseDups

/-- What a request adds. -/
def additions (spec : ImportSpec) (v : ImportView) : List Specifier :=
  (spec.newDefault v).toList.map .byDefault ++ (spec.newNamespace v).toList.map .asNamespace ++
    (spec.newNames v).map .byName

/-- What a request is refused. -/
def refusals (spec : ImportSpec) (v : ImportView) : List ImportConflict :=
  (spec.defaultName.toList.flatMap fun name => match v.defaultName with
    | some present => if present = name then [] else [⟨spec.path, .byDefault, present, name⟩]
    | none => if v.locals.contains name then [⟨spec.path, .byName, name, name⟩] else []) ++
  (spec.namespaceName.toList.flatMap fun name => match v.namespaceName with
    | some present => if present = name then [] else [⟨spec.path, .asNamespace, present, name⟩]
    | none => [])

variable {spec : ImportSpec} {v : ImportView} {name : String}

theorem newDefault_eq_some_iff : spec.newDefault v = some name ↔
    spec.defaultName = some name ∧ v.defaultName = none ∧ name ∉ v.locals := by
  simp [newDefault, Option.filter_eq_some_iff]

theorem newNamespace_eq_some_iff : spec.newNamespace v = some name ↔
    spec.namespaceName = some name ∧ v.namespaceName = none := by
  simp [newNamespace, Option.filter_eq_some_iff]

theorem mem_newNames : name ∈ spec.newNames v ↔ name ∈ spec.named ∧ name ∉ v.locals := by
  simp [newNames, List.mem_eraseDups]

end ImportSpec

/-! ## One kind at a time -/

section Kinds

variable (spec : ImportSpec) (targets : List ExistingImport)

/-- A default that is added becomes that of a statement, or else waits for a new one. -/
theorem resolveDefault_adds :
    (spec.newDefault (.of targets) = none ∧
      (resolveDefault spec.path targets spec.defaultName).now.edits = [] ∧
      (resolveDefault spec.path targets spec.defaultName).later = none) ∨
    ∃ name, spec.defaultName = some name ∧ spec.newDefault (.of targets) = some name ∧
      ((∃ e, (resolveDefault spec.path targets spec.defaultName).now.edits = [e] ∧
        (resolveDefault spec.path targets spec.defaultName).later = none ∧
        ∃ i ∈ targets, i.defaultEdit? name = some e) ∨
      ((resolveDefault spec.path targets spec.defaultName).now.edits = [] ∧
        (resolveDefault spec.path targets spec.defaultName).later = some name)) := by
  unfold ImportSpec.newDefault
  cases spec.defaultName with
  | none => exact .inl ⟨rfl, rfl, rfl⟩
  | some name =>
    rcases resolveDefault_cases spec.path targets name with ⟨hsome, h⟩ |
      ⟨kind, present, -, hkind, h⟩ |
      ⟨hnone, hfree, h⟩
    · exact .inl ⟨by simp [hsome], by rw [h], by rw [h]⟩
    · refine .inl ⟨?_, by rw [h], by rw [h]⟩
      rcases hkind with ⟨hsome, -⟩ | ⟨hnone, hbound⟩
      · simp [hsome]
      · simp [ImportView.mem_locals.2 hbound]
    · have hmem : name ∉ (ImportView.of targets).locals := by
        rw [ImportView.mem_locals]
        rintro ⟨i, hi, hbinds⟩
        simp [hfree i hi] at hbinds
      refine .inr ⟨name, rfl, by simp [hnone, hmem], ?_⟩
      rcases h with ⟨offset, ⟨i, hi, hdefault, hstart⟩, h⟩ | h
      · refine .inl ⟨_, by rw [h], by rw [h], i, hi, ?_⟩
        simp [ExistingImport.defaultEdit?, hdefault, hstart]
      · exact .inr ⟨by rw [h], by rw [h]⟩

theorem missingNames_eq : missingNames targets spec.named = spec.newNames (.of targets) := by
  -- What is collected from a list of names, when some have been collected before.
  have hrun : ∀ (requested missing : List String), requested.foldl (fun missing name =>
      if missing.contains name || targets.any fun i => i.binds name then missing
        else missing ++ [name]) missing =
      missing ++
        ((requested.filter fun name => !(ImportView.of targets).locals.contains name).filter
          fun name =>
        !missing.contains name).eraseDups := by
    intro requested
    induction requested with
    | nil => simp
    | cons name requested ih =>
      intro missing
      rw [List.foldl_cons, ih, ImportView.any_binds]
      cases hbound : (ImportView.of targets).locals.contains name with
      | true =>
        rw [Bool.or_true, if_pos rfl, List.filter_cons_of_neg (by simp only [hbound]; decide)]
      | false =>
        rw [Bool.or_false, List.filter_cons_of_pos (by simp only [hbound]; decide)]
        cases hmem : missing.contains name with
        | true => rw [if_pos rfl, List.filter_cons_of_neg (by simp only [hmem]; decide)]
        | false =>
          rw [if_neg (by decide), List.filter_cons_of_pos (by simp only [hmem]; decide),
            List.eraseDups_cons, List.append_assoc, List.singleton_append]
          simp only [List.filter_filter]
          congr 3
          refine List.filter_congr fun other _ => ?_
          simp only [List.contains_append, List.contains_cons, List.contains_nil, Bool.or_false,
            Bool.not_or, Bool.and_assoc, Bool.and_left_comm]
  rw [missingNames, hrun]
  simp [ImportSpec.newNames]

/-- Names that are added go into a statement, or else all wait for a new one. -/
theorem resolveNamed_adds :
    (∃ e, (resolveNamed targets spec.named).now.edits = [e] ∧
      (resolveNamed targets spec.named).later = [] ∧
      ∃ i ∈ targets, i.namesEdit? (spec.newNames (.of targets)) = some e) ∨
    ((resolveNamed targets spec.named).now.edits = [] ∧
      (resolveNamed targets spec.named).later = spec.newNames (.of targets)) := by
  rw [← missingNames_eq]
  rcases resolveNamed_cases targets spec.named with h | ⟨-, e, h, hi⟩
  · exact .inr ⟨by rw [h], by rw [h]⟩
  · exact .inl ⟨e, by rw [h], by rw [h], hi⟩

/-- A namespace that is added always waits for a new statement. -/
theorem resolveNamespace_later : (resolveNamespace spec.path targets spec.namespaceName).later =
    (spec.newNamespace (.of targets)).map fun name =>
      { path := spec.path, namespaceName := some name } := by
  unfold ImportSpec.newNamespace resolveNamespace
  cases spec.namespaceName with
  | none => rfl
  | some name =>
    dsimp only
    split
    · rename_i present hpresent
      split <;> simp [hpresent]
    · rename_i hnone
      simp [hnone]

theorem resolveDefault_conflicts :
    (resolveDefault spec.path targets spec.defaultName).now.conflicts =
    spec.defaultName.toList.flatMap fun name => match (ImportView.of targets).defaultName with
      | some present => if present = name then [] else [⟨spec.path, .byDefault, present, name⟩]
      | none =>
        if (ImportView.of targets).locals.contains name then [⟨spec.path, .byName, name, name⟩]
        else [] := by
  unfold resolveDefault
  cases spec.defaultName with
  | none => rfl
  | some name =>
    simp only [ImportView.any_binds, ImportView.of_defaultName, Option.toList_some,
      List.flatMap_singleton]
    cases targets.findSome? (·.defaultName) with
    | some present => by_cases heq : present = name <;> simp [heq]
    | none =>
      dsimp only
      split
      · rfl
      · split <;> rfl

theorem resolveNamespace_conflicts :
    (resolveNamespace spec.path targets spec.namespaceName).now.conflicts =
    spec.namespaceName.toList.flatMap fun name => match (ImportView.of targets).namespaceName with
      | some present => if present = name then [] else [⟨spec.path, .asNamespace, present, name⟩]
      | none => [] := by
  unfold resolveNamespace
  cases spec.namespaceName with
  | none => rfl
  | some name =>
    simp only [ImportView.of_namespaceName, Option.toList_some, List.flatMap_singleton]
    cases targets.findSome? (·.namespaceName) with
    | some present => by_cases heq : present = name <;> simp [heq]
    | none => rfl

end Kinds

/-! ## All together -/

section Module

variable (spec : ImportSpec) (existing : List ExistingImport)

theorem resolveModule_edits : (resolveModule spec existing).edits =
    (resolveDefault spec.path (spec.targets existing) spec.defaultName).now.edits ++
      (resolveNamed (spec.targets existing) spec.named).now.edits := by
  have hedits : (resolveModule spec existing).edits =
      (resolveDefault spec.path (spec.targets existing) spec.defaultName).now.edits ++
      (resolveNamespace spec.path (spec.targets existing) spec.namespaceName).now.edits ++
      (resolveNamed (spec.targets existing) spec.named).now.edits ++ [] := rfl
  rw [hedits, resolveNamespace_edits, List.append_nil, List.append_nil]

/-- **What is reported depends on the view alone.** -/
theorem resolveModule_conflicts :
    (resolveModule spec existing).conflicts = spec.refusals (.of (spec.targets existing)) := by
  have hconflicts : (resolveModule spec existing).conflicts =
      (resolveDefault spec.path (spec.targets existing) spec.defaultName).now.conflicts ++
      (resolveNamespace spec.path (spec.targets existing) spec.namespaceName).now.conflicts ++
      (resolveNamed (spec.targets existing) spec.named).now.conflicts ++ [] := rfl
  have hnamed : (resolveNamed (spec.targets existing) spec.named).now.conflicts = [] :=
    List.map_eq_nil_iff.1 (rejected_resolveNamed _ _)
  rw [hconflicts, hnamed, List.append_nil, List.append_nil, resolveDefault_conflicts,
    resolveNamespace_conflicts, ImportSpec.refusals]

/-- The statement for what statements of the file cannot take. -/
def ImportSpec.fresh : ImportSpec :=
  { path := spec.path
    defaultName := (resolveDefault spec.path (spec.targets existing) spec.defaultName).later
    named := (resolveNamed (spec.targets existing) spec.named).later }

/-- Whether a request is for the module alone, which is not imported yet. -/
def ImportSpec.isBare : Bool :=
  spec.isEmpty && (existing.filter fun i => i.path == spec.path).isEmpty

theorem resolveModule_newStatements : (resolveModule spec existing).newStatements =
    (if !(spec.fresh existing).isEmpty || spec.isBare existing then [spec.fresh existing]
      else []) ++ (spec.newNamespace (.of (spec.targets existing))).toList.map
        fun name => { path := spec.path, namespaceName := some name } := by
  have hstatements : (resolveModule spec existing).newStatements =
      (resolveDefault spec.path (spec.targets existing) spec.defaultName).now.newStatements ++
      (resolveNamespace spec.path (spec.targets existing) spec.namespaceName).now.newStatements ++
      (resolveNamed (spec.targets existing) spec.named).now.newStatements ++
      ((if !(spec.fresh existing).isEmpty || spec.isBare existing then [spec.fresh existing]
        else []) ++
        (resolveNamespace spec.path (spec.targets existing) spec.namespaceName).later.toList) := rfl
  have hdefault :
      (resolveDefault spec.path (spec.targets existing) spec.defaultName).now.newStatements =
        [] := by
    unfold resolveDefault
    repeat' split
    all_goals rfl
  have hnamespace :
      (resolveNamespace spec.path (spec.targets existing) spec.namespaceName).now.newStatements =
        [] := by
    unfold resolveNamespace
    repeat' split
    all_goals rfl
  have hnamed : (resolveNamed (spec.targets existing) spec.named).now.newStatements = [] := by
    rcases resolveNamed_cases (spec.targets existing) spec.named with h | ⟨-, e, h, -⟩ <;> rw [h]
  rw [hstatements, hdefault, hnamespace, hnamed, resolveNamespace_later, Option.toList_map]
  rfl

end Module

/-! ## The imports afterwards -/

namespace ExistingImport

def withDefault (i : ExistingImport) (name : String) : ExistingImport :=
  { i with defaultName := some name }

def withNames (i : ExistingImport) (names : List String) : ExistingImport :=
  { i with named := i.named ++ names.map fun name => ⟨name, none⟩ }

/-- The import that a new statement is; more can be added to it if it has any specifiers. -/
def ofStatement (s : ImportSpec) : ExistingImport :=
  { path := s.path
    start := 0
    stop := 0
    defaultName := s.defaultName
    namespaceName := s.namespaceName
    named := s.named.map fun name => ⟨name, none⟩
    clauseStart := if s.isEmpty then none else some 0 }

end ExistingImport

namespace ImportSpec

/-- Whether a statement imports from the module of a request and can take more. -/
def admits (spec : ImportSpec) (i : ExistingImport) : Bool := i.path == spec.path && i.isMergeTarget

/-- The first statement that an edit of the requested default is anchored in gets that default. -/
def gainDefault (spec : ImportSpec) (imports : List ExistingImport)
    (e : Edit) : List ExistingImport :=
  imports.lookmap fun i => spec.defaultName.bind fun name =>
    if spec.admits i ∧ i.defaultEdit? name = some e then some (i.withDefault name) else none

/-- The first statement that an edit of some names is anchored in gets these names. -/
def gainNames (spec : ImportSpec) (names : List String) (imports : List ExistingImport) (e : Edit) :
    List ExistingImport :=
  imports.lookmap fun i =>
    if spec.admits i ∧ i.namesEdit? names = some e then some (i.withNames names) else none

/-- The imports of a file after a request has been merged into them. -/
def merged (spec : ImportSpec) (existing : List ExistingImport) : List ExistingImport :=
  let targets := spec.targets existing
  let defaultEdits := (resolveDefault spec.path targets spec.defaultName).now.edits
  let nameEdits := (resolveNamed targets spec.named).now.edits
  nameEdits.foldl (spec.gainNames (spec.newNames (.of targets)))
    (defaultEdits.foldl spec.gainDefault existing) ++
    (resolveModule spec existing).newStatements.map .ofStatement

theorem targets_eq_filter (spec : ImportSpec) (existing : List ExistingImport) :
    spec.targets existing = existing.filter spec.admits := by
  rw [targets, List.filter_filter]
  exact List.filter_congr fun i _ => Bool.and_comm _ _

theorem targets_append (spec : ImportSpec) (l l' : List ExistingImport) :
    spec.targets (l ++ l') = spec.targets l ++ spec.targets l' := by
  simp only [targets_eq_filter, List.filter_append]

end ImportSpec

/-- From a view to a larger one: with a default, a namespace and names more. -/
structure ImportView.Gains (v : ImportView) (defaultName namespaceName : Option String)
    (names : List String) (v' : ImportView) : Prop where
  defaultName_eq : v'.defaultName = v.defaultName.or defaultName
  namespaceName_eq : v'.namespaceName = v.namespaceName.or namespaceName
  locals_perm : v'.locals.Perm (v.locals ++ (defaultName.toList ++ namespaceName.toList ++ names))

namespace ImportView.Gains

variable {v v' v'' : ImportView} {d d' n n' : Option String} {l l' : List String}

theorem refl (v : ImportView) : v.Gains none none [] v :=
  ⟨(Option.or_none).symm, (Option.or_none).symm, by simp⟩

theorem trans (h : v.Gains d n l v') (h' : v'.Gains d' n' l' v'') (hd : d = none ∨ d' = none)
    (hn : n = none ∨ n' = none) : v.Gains (d.or d') (n.or n') (l ++ l') v'' where
  defaultName_eq := by rw [h'.defaultName_eq, h.defaultName_eq, Option.or_assoc]
  namespaceName_eq := by rw [h'.namespaceName_eq, h.namespaceName_eq, Option.or_assoc]
  locals_perm := by
    have hsplit : ∀ {x y : Option String}, x = none ∨ y = none →
        (x.or y).toList = x.toList ++ y.toList := by
      rintro x y (rfl | rfl)
      · simp
      · simp
    refine h'.locals_perm.trans ((h.locals_perm.append_right _).trans ?_)
    rw [hsplit hd, hsplit hn, List.append_assoc]
    refine List.Perm.append_left _ (List.perm_iff_count.2 fun name => ?_)
    simp only [List.count_append]
    omega

/-- One statement gets a default, where there is none, or names. -/
theorem of_replace {front back : List ExistingImport} {a b : ExistingImport}
    (hdefault : b.defaultName = a.defaultName.or d)
    (hfree : d = none ∨ (of (front ++ a :: back)).defaultName = none)
    (hnamespace : b.namespaceName = a.namespaceName)
    (hlocals : b.locals.Perm (a.locals ++ (d.toList ++ l))) :
    (of (front ++ a :: back)).Gains d none l (of (front ++ b :: back)) where
  defaultName_eq := by
    simp only [of_defaultName, findSome?_middle] at hfree ⊢
    rcases hfree with rfl | hnone
    · rw [hdefault, Option.or_none, Option.or_none]
    · rw [Option.or_eq_none_iff, Option.or_eq_none_iff] at hnone
      obtain ⟨hfront, ha, hback⟩ := hnone
      simp only [hdefault, hfront, ha, hback, Option.none_or, Option.or_none]
  namespaceName_eq := by
    simp only [of_namespaceName, findSome?_middle, hnamespace, Option.or_none]
  locals_perm := by
    refine List.perm_iff_count.2 fun name => ?_
    have hcount := hlocals.count_eq name
    simp only [of, List.flatMap_append, List.flatMap_cons, List.count_append, Option.toList_none,
      List.count_nil] at hcount ⊢
    omega

/-- A statement is added at the end. -/
theorem of_append (targets : List ExistingImport) (i : ExistingImport) :
    (of targets).Gains i.defaultName i.namespaceName (i.named.map (·.localName))
      (of (targets ++ [i])) where
  defaultName_eq := by simp
  namespaceName_eq := by simp
  locals_perm := by
    simp only [of, List.flatMap_append, List.flatMap_singleton, ExistingImport.locals]
    exact List.Perm.refl _

end ImportView.Gains

section Merged

variable {spec : ImportSpec}

theorem mem_targets {existing : List ExistingImport} {i : ExistingImport} :
    i ∈ spec.targets existing ↔ i ∈ existing ∧ spec.admits i = true := by
  rw [spec.targets_eq_filter, List.mem_filter]

/-- The view after one statement has been changed. -/
theorem gains_lookmap {existing : List ExistingImport}
    {f : ExistingImport → Option ExistingImport} {d : Option String} {names : List String}
    (hadmits : ∀ a b, f a = some b → spec.admits a = true ∧ spec.admits b = true)
    (hchanged : ∃ a ∈ spec.targets existing, ∃ b, f a = some b)
    (hfree : d = none ∨ (ImportView.of (spec.targets existing)).defaultName = none)
    (hgain : ∀ a ∈ spec.targets existing, ∀ b, f a = some b → b.defaultName = a.defaultName.or d ∧
      b.namespaceName = a.namespaceName ∧ b.locals.Perm (a.locals ++ (d.toList ++ names))) :
    (ImportView.of (spec.targets existing)).Gains d none names
      (.of (spec.targets (existing.lookmap f))) := by
  rw [spec.targets_eq_filter (existing.lookmap f), filter_lookmap hadmits, ← spec.targets_eq_filter]
  obtain ⟨front, a, b, back, htargets, hb, heq⟩ := exists_lookmap_eq hchanged
  rw [heq]
  rw [htargets] at hfree hgain ⊢
  obtain ⟨hdefault, hnamespace, hlocals⟩ :=
    hgain a (List.mem_append_right _ List.mem_cons_self) b hb
  exact .of_replace hdefault hfree hnamespace hlocals

/-- The view after an edit of the requested default. -/
theorem gains_gainDefault {existing : List ExistingImport} {name : String}
    (hname : spec.defaultName = some name)
    (hnone : (ImportView.of (spec.targets existing)).defaultName = none) {e : Edit}
    (he : ∃ i ∈ spec.targets existing, i.defaultEdit? name = some e) :
    (ImportView.of (spec.targets existing)).Gains (some name) none []
      (.of (spec.targets (spec.gainDefault existing e))) := by
  obtain ⟨i, hi, hedit⟩ := he
  have hsome : ∀ a b, (spec.defaultName.bind fun name =>
      if spec.admits a ∧ a.defaultEdit? name = some e then some (a.withDefault name) else none) =
        some b ↔
      (spec.admits a = true ∧ a.defaultEdit? name = some e) ∧ a.withDefault name = b := by
    intro a b
    rw [hname, Option.bind_some, Option.ite_none_right_eq_some, Option.some_inj]
  refine gains_lookmap ?_ ⟨i, hi, _, (hsome i _).2 ⟨⟨(mem_targets.1 hi).2, hedit⟩, rfl⟩⟩
    (.inr hnone) ?_
  · intro a b hab
    obtain ⟨⟨ha, -⟩, rfl⟩ := (hsome a b).1 hab
    exact ⟨ha, ha⟩
  · intro a ha b hab
    obtain ⟨-, rfl⟩ := (hsome a b).1 hab
    have habsent : a.defaultName = none := List.findSome?_eq_none_iff.1 hnone a ha
    refine ⟨by rw [habsent]; rfl, rfl, List.perm_iff_count.2 fun other => ?_⟩
    simp only [ExistingImport.locals, ExistingImport.withDefault, habsent, List.count_append,
      Option.toList_none, List.count_nil]
    omega

/-- The view after an edit of requested names. -/
theorem gains_gainNames {existing : List ExistingImport} {names : List String} {e : Edit}
    (he : ∃ i ∈ spec.targets existing, i.namesEdit? names = some e) :
    (ImportView.of (spec.targets existing)).Gains none none names
      (.of (spec.targets (spec.gainNames names existing e))) := by
  obtain ⟨i, hi, hedit⟩ := he
  refine gains_lookmap ?_ ⟨i, hi, i.withNames names, by simp [(mem_targets.1 hi).2, hedit]⟩
    (.inl rfl) ?_
  · intro a b hab
    rw [Option.ite_none_right_eq_some, Option.some_inj] at hab
    obtain ⟨⟨ha, -⟩, rfl⟩ := hab
    exact ⟨ha, ha⟩
  · intro a _ b hab
    rw [Option.ite_none_right_eq_some, Option.some_inj] at hab
    obtain ⟨-, rfl⟩ := hab
    refine ⟨(Option.or_none).symm, rfl, ?_⟩
    simp [ExistingImport.locals, ExistingImport.withNames,
      NamedSpecifier.localName, Function.comp_def]

/-- The view after a new statement. -/
theorem gains_ofStatement (existing : List ExistingImport) {s : ImportSpec}
    (hpath : s.path = spec.path) :
    (ImportView.of (spec.targets existing)).Gains s.defaultName s.namespaceName s.named
      (.of (spec.targets (existing ++ [.ofStatement s]))) := by
  rw [spec.targets_append]
  cases hempty : s.isEmpty with
  | false =>
    have htargets : spec.targets [.ofStatement s] = [.ofStatement s] := by
      simp [spec.targets_eq_filter, ImportSpec.admits, ExistingImport.ofStatement,
        ExistingImport.isMergeTarget, hpath, hempty]
    have h := ImportView.Gains.of_append (spec.targets existing) (.ofStatement s)
    rw [htargets]
    simpa [ExistingImport.ofStatement, NamedSpecifier.localName, Function.comp_def] using h
  | true =>
    have htargets : spec.targets [.ofStatement s] = [] := by
      simp [spec.targets_eq_filter, ImportSpec.admits, ExistingImport.ofStatement,
        ExistingImport.isMergeTarget, hempty]
    simp only [ImportSpec.isEmpty, Bool.and_eq_true, Option.isNone_iff_eq_none,
      List.isEmpty_iff] at hempty
    rw [htargets, List.append_nil, hempty.1.1, hempty.1.2, hempty.2]
    exact .refl _

/-- A default that is put into one statement does not stop names from going into another. -/
theorem exists_namesEdit_gainDefault {existing : List ExistingImport}
    (hnone : (ImportView.of (spec.targets existing)).defaultName = none) {names : List String}
    {e : Edit} (he : ∃ i ∈ spec.targets existing, i.namesEdit? names = some e) (e' : Edit) :
    ∃ i ∈ spec.targets (spec.gainDefault existing e'), i.namesEdit? names = some e := by
  obtain ⟨i, hi, hedit⟩ := he
  obtain ⟨hmem, hadmits⟩ := mem_targets.1 hi
  rcases mem_lookmap (f := fun i => spec.defaultName.bind fun name =>
    if spec.admits i ∧ i.defaultEdit? name = some e' then some (i.withDefault name) else none)
      hmem with h | ⟨b, h, hb⟩
  · exact ⟨i, mem_targets.2 ⟨h, hadmits⟩, hedit⟩
  · obtain ⟨name, -, hb⟩ := Option.bind_eq_some_iff.1 hb
    rw [Option.ite_none_right_eq_some, Option.some_inj] at hb
    obtain ⟨-, rfl⟩ := hb
    refine ⟨_, mem_targets.2 ⟨h, hadmits⟩, ?_⟩
    -- The statement has no default, so it takes the names into its braces, whose place is the same.
    have habsent : i.defaultName = none := List.findSome?_eq_none_iff.1 hnone i hi
    rw [← hedit]
    simp only [ExistingImport.namesEdit?, ExistingImport.withDefault]
    cases hbraces : i.braces with
    | some b => rfl
    | none => simp [ExistingImport.namesEdit?, hbraces, habsent] at hedit

/-- The edit of the requested default, if there is one. -/
theorem gains_defaultEdits (spec : ImportSpec) (existing : List ExistingImport) :
    let v := ImportView.of (spec.targets existing)
    let r := resolveDefault spec.path (spec.targets existing) spec.defaultName
    let imports := r.now.edits.foldl spec.gainDefault existing
    ∃ now, spec.newDefault v = now.or r.later ∧ (now = none ∨ r.later = none) ∧
      v.Gains now none [] (.of (spec.targets imports)) ∧
      ∀ names e, (∃ i ∈ spec.targets existing, i.namesEdit? names = some e) →
        ∃ i ∈ spec.targets imports, i.namesEdit? names = some e := by
  intro v r imports
  have hsame : r.now.edits = [] → imports = existing := fun h => by
    show r.now.edits.foldl spec.gainDefault existing = existing
    rw [h]
    rfl
  rcases resolveDefault_adds spec (spec.targets existing) with ⟨hnew, hedits, hlater⟩ |
    ⟨name, hname, hnew, hadds⟩
  · refine ⟨none, by rw [hnew, hlater]; rfl, .inl rfl, ?_⟩
    rw [hsame hedits]
    exact ⟨.refl v, fun names e he => he⟩
  · rcases hadds with ⟨e, hedits, hlater, he⟩ | ⟨hedits, hlater⟩
    · have hnone : v.defaultName = none := (ImportSpec.newDefault_eq_some_iff.1 hnew).2.1
      have himports : imports = spec.gainDefault existing e := by
        show r.now.edits.foldl spec.gainDefault existing = _
        rw [hedits]
        rfl
      refine ⟨some name, by rw [hnew, hlater]; rfl, .inr hlater, ?_⟩
      rw [himports]
      exact ⟨gains_gainDefault hname hnone he,
        fun names e' he' => exists_namesEdit_gainDefault hnone he' e⟩
    · refine ⟨none, by rw [hnew, hlater]; rfl, .inl rfl, ?_⟩
      rw [hsame hedits]
      exact ⟨.refl v, fun names e he => he⟩

/-- The edit of requested names, if there is one. -/
theorem gains_nameEdits (spec : ImportSpec) (existing imports : List ExistingImport)
    (hkeeps : ∀ names e, (∃ i ∈ spec.targets existing, i.namesEdit? names = some e) →
      ∃ i ∈ spec.targets imports, i.namesEdit? names = some e) :
    let names := spec.newNames (.of (spec.targets existing))
    let r := resolveNamed (spec.targets existing) spec.named
    ∃ now, names = now ++ r.later ∧ (ImportView.of (spec.targets imports)).Gains none none now
      (.of (spec.targets (r.now.edits.foldl (spec.gainNames names) imports))) := by
  intro names r
  rcases resolveNamed_adds spec (spec.targets existing) with ⟨e, hedits, hlater, he⟩ |
    ⟨hedits, hlater⟩
  · refine ⟨names, by rw [hlater, List.append_nil], ?_⟩
    rw [hedits]
    exact gains_gainNames (hkeeps names e he)
  · refine ⟨[], by rw [hlater]; rfl, ?_⟩
    rw [hedits]
    exact .refl _

/-- New statements. -/
theorem gains_newStatements (spec : ImportSpec) (existing imports : List ExistingImport) :
    (ImportView.of (spec.targets imports)).Gains (spec.fresh existing).defaultName
      (spec.newNamespace (.of (spec.targets existing))) (spec.fresh existing).named
      (.of (spec.targets
        (imports ++ (resolveModule spec existing).newStatements.map .ofStatement))) := by
  rw [resolveModule_newStatements, List.map_append, ← List.append_assoc]
  generalize hpushed :
    (if !(spec.fresh existing).isEmpty || spec.isBare existing then [spec.fresh existing]
    else []) = pushed
  have hfresh : (ImportView.of (spec.targets imports)).Gains (spec.fresh existing).defaultName none
      (spec.fresh existing).named (.of (spec.targets (imports ++ pushed.map .ofStatement))) := by
    by_cases hneeded : (!(spec.fresh existing).isEmpty || spec.isBare existing) = true
    · rw [if_pos hneeded] at hpushed
      rw [← hpushed]
      exact gains_ofStatement (s := spec.fresh existing) imports rfl
    · -- Without need for a statement there is nothing that would be in it.
      rw [if_neg hneeded] at hpushed
      rw [Bool.or_eq_true, not_or, Bool.not_eq_true', Bool.not_eq_false] at hneeded
      have hempty := hneeded.1
      simp only [ImportSpec.isEmpty, Bool.and_eq_true, Option.isNone_iff_eq_none,
        List.isEmpty_iff] at hempty
      rw [← hpushed, hempty.1.1, hempty.2, List.map_nil, List.append_nil]
      exact .refl _
  cases spec.newNamespace (.of (spec.targets existing)) with
  | none =>
    rw [Option.toList_none, List.map_nil, List.map_nil, List.append_nil]
    exact hfresh
  | some name =>
    let statement : ImportSpec := { path := spec.path, namespaceName := some name }
    have hpath : statement.path = spec.path := rfl
    have h := hfresh.trans (gains_ofStatement (imports ++ pushed.map .ofStatement) hpath)
      (.inr rfl) (.inl rfl)
    rw [Option.or_none, Option.none_or, List.append_nil] at h
    exact h

end Merged

/-- **The view of the imports after a request**: what the request adds is there, and nothing else
has changed. -/
theorem ImportSpec.gains_merged (spec : ImportSpec) (existing : List ExistingImport) :
    let v := ImportView.of (spec.targets existing)
    v.Gains (spec.newDefault v) (spec.newNamespace v) (spec.newNames v)
      (.of (spec.targets (spec.merged existing))) := by
  intro v
  obtain ⟨default, hdefault, hone, hfirst, hkeeps⟩ := gains_defaultEdits spec existing
  obtain ⟨names, hnames, hsecond⟩ := gains_nameEdits spec existing _ hkeeps
  have hall := (hfirst.trans hsecond (.inr rfl) (.inl rfl)).trans
    (gains_newStatements spec existing _) (by rw [Option.or_none]; exact hone) (.inl rfl)
  have hdefault' : (default.or none).or (spec.fresh existing).defaultName = spec.newDefault v := by
    rw [Option.or_none, hdefault]
    rfl
  have hnames' : [] ++ names ++ (spec.fresh existing).named = spec.newNames v := by
    rw [List.nil_append, hnames]
    rfl
  rw [hdefault', hnames', Option.none_or, Option.none_or] at hall
  exact hall

end Graft
