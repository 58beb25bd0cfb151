import Graft.Import.Resolve
import Mathlib.Data.List.Induction
import Mathlib.Data.List.Nodup

set_option autoImplicit false

/-!
# Requests by module

Requests are joined one after the other into a list that has one entry for each module. Here that
list is described by all requests together: which modules there are, what was asked for first, and
what came too late. From this it can be seen that a list with one entry for each module is left as
it is, and that a request that is made again adds nothing.
-/

namespace Graft

/-! ## Elements that are there already -/

section Lists

variable {α : Type}

theorem eraseDups_append_singleton [BEq α] [LawfulBEq α] (l : List α) (a : α) :
    (l ++ [a]).eraseDups = if a ∈ l then l.eraseDups else l.eraseDups ++ [a] := by
  rw [List.eraseDups_append, List.removeAll]
  by_cases h : a ∈ l
  · simp [h]
  · simp [h, List.eraseDups_cons]

theorem nodup_eraseDups [BEq α] [LawfulBEq α] (l : List α) : l.eraseDups.Nodup := by
  induction l using List.reverseRecOn with
  | nil => exact List.nodup_nil
  | append_singleton l a ih =>
    rw [eraseDups_append_singleton]
    split
    · exact ih
    · rename_i ha
      exact List.nodup_append'.2 ⟨ih, List.nodup_singleton a, by simpa using ha⟩

theorem eraseDups_of_nodup [BEq α] [LawfulBEq α] {l : List α} (h : l.Nodup) : l.eraseDups = l := by
  induction l using List.reverseRecOn with
  | nil => rfl
  | append_singleton l a ih =>
    obtain ⟨hl, -, hdisjoint⟩ := List.nodup_append'.1 h
    rw [eraseDups_append_singleton, if_neg fun ha => hdisjoint ha (List.mem_singleton_self a),
      ih hl]

/-- Elements that are there already make no difference. -/
theorem eraseDups_append_of_subset [BEq α] [LawfulBEq α] {l m : List α} (h : m ⊆ l) (l' : List α) :
    (l ++ (m ++ l')).eraseDups = (l ++ l').eraseDups := by
  have hnone : (m ++ l').removeAll l = l'.removeAll l := by
    rw [List.removeAll, List.filter_append, List.filter_eq_nil_iff.2 ?_,
      List.nil_append, List.removeAll]
    intro a ha
    simp [h ha]
  rw [List.eraseDups_append, List.eraseDups_append, hnone]

/-- The first of something is found without what comes later, if that is there already. -/
theorem findSome?_append_of_mem {β : Type} {f : α → Option β} {l : List α} {a : α} (h : a ∈ l)
    (l' : List α) : (l ++ a :: l').findSome? f = (l ++ l').findSome? f := by
  rw [List.findSome?_append, List.findSome?_append, List.findSome?_cons]
  cases hfa : f a with
  | none => rfl
  | some b =>
    have hsome : (l.findSome? f).isSome = true :=
      List.findSome?_isSome_iff.2 ⟨a, h, by rw [hfa]; rfl⟩
    obtain ⟨first, hfirst⟩ := Option.isSome_iff_exists.1 hsome
    rw [hfirst, Option.some_or, Option.some_or]

end Lists

/-! ## What requests come to -/

/-- The modules that are asked for, in the order in which they first appear. -/
def modulesOf (specs : List ImportSpec) : List String := (specs.map (·.path)).eraseDups

namespace ImportSpec

/-- The requests for a module. -/
def about (specs : List ImportSpec) (path : String) : List ImportSpec :=
  specs.filter fun s => s.path == path

/-- What the requests for a module come to: the first default, the first namespace, and every name
once, in the order in which names first appear. -/
def combined (specs : List ImportSpec) (path : String) : ImportSpec :=
  { path
    defaultName := (about specs path).findSome? (·.defaultName)
    named := ((about specs path).flatMap (·.named)).eraseDups
    namespaceName := (about specs path).findSome? (·.namespaceName) }

end ImportSpec

/-- The conflict of a name with the first one for the same place, if the two differ. -/
def disagreement (path : String) (kind : SpecifierKind) :
    Option String → Option String → List ImportConflict
  | some first, some name => if first = name then [] else [⟨path, kind, first, name⟩]
  | _, _ => []

/-- What a request asks for too late: a default and a namespace that differ from the first ones for
its module. -/
def ImportSpec.overruled (specs : List ImportSpec) (spec : ImportSpec) : List ImportConflict :=
  disagreement spec.path .byDefault (combined specs spec.path).defaultName spec.defaultName ++
    disagreement spec.path .asNamespace (combined specs spec.path).namespaceName spec.namespaceName

theorem modulesOf_append_singleton (specs : List ImportSpec) (spec : ImportSpec) :
    modulesOf (specs ++ [spec]) =
    if spec.path ∈ modulesOf specs then modulesOf specs else modulesOf specs ++ [spec.path] := by
  simp only [modulesOf, List.map_append, List.map_singleton,
    eraseDups_append_singleton, List.mem_eraseDups]

/-- A request that is made again asks for no other module. -/
theorem modulesOf_insert {specs : List ImportSpec} {spec : ImportSpec} (h : spec ∈ specs)
    (more : List ImportSpec) : modulesOf (specs ++ spec :: more) = modulesOf (specs ++ more) := by
  rw [modulesOf, modulesOf, List.map_append, List.map_append, List.map_cons,
    ← List.singleton_append, eraseDups_append_of_subset]
  intro path hpath
  rw [List.mem_singleton.1 hpath]
  exact List.mem_map_of_mem h

namespace ImportSpec

variable {specs : List ImportSpec} {spec : ImportSpec} {path : String}

theorem about_append (specs more : List ImportSpec) (path : String) :
    about (specs ++ more) path = about specs path ++ about more path := List.filter_append _ _

theorem about_cons_self (spec : ImportSpec) (specs : List ImportSpec) :
    about (spec :: specs) spec.path = spec :: about specs spec.path :=
  List.filter_cons_of_pos (beq_self_eq_true _)

theorem about_cons_of_ne (h : spec.path ≠ path) (specs : List ImportSpec) :
    about (spec :: specs) path = about specs path :=
  List.filter_cons_of_neg (mt eq_of_beq h)

theorem mem_about : spec ∈ about specs path ↔ spec ∈ specs ∧ spec.path = path := by
  rw [about, List.mem_filter, beq_iff_eq]

theorem about_eq_nil (h : path ∉ modulesOf specs) : about specs path = [] := by
  refine List.eq_nil_iff_forall_not_mem.2 fun s hs => h ?_
  obtain ⟨hmem, rfl⟩ := mem_about.1 hs
  exact List.mem_eraseDups.2 (List.mem_map_of_mem hmem)

/-- Requests for other modules have no part in it. -/
theorem combined_append_of_ne (h : spec.path ≠ path) :
    combined (specs ++ [spec]) path = combined specs path := by
  rw [combined, about_append, about_cons_of_ne h, about, about, List.filter_nil, List.append_nil]
  rfl

/-- A further request comes last. -/
theorem combined_append_self : combined (specs ++ [spec]) spec.path =
    { path := spec.path
      defaultName := (combined specs spec.path).defaultName.or spec.defaultName
      named := ((about specs spec.path).flatMap (·.named) ++ spec.named).eraseDups
      namespaceName := (combined specs spec.path).namespaceName.or spec.namespaceName } := by
  simp [combined, about, List.findSome?_append]

/-- What is asked for first stays first, so an earlier request is overruled or not whatever comes
behind it. -/
theorem overruled_append (h : spec ∈ specs) (more : List ImportSpec) :
    overruled (specs ++ more) spec = overruled specs spec := by
  have hplace : ∀ (place : ImportSpec → Option String) (kind : SpecifierKind),
      disagreement spec.path kind ((about (specs ++ more) spec.path).findSome? place) (place spec) =
        disagreement spec.path kind ((about specs spec.path).findSome? place) (place spec) := by
    intro place kind
    rw [about_append, List.findSome?_append]
    cases hname : place spec with
    | none => simp [disagreement]
    | some name =>
      have hsome : ((about specs spec.path).findSome? place).isSome = true :=
        List.findSome?_isSome_iff.2 ⟨spec, mem_about.2 ⟨h, rfl⟩, by rw [hname]; rfl⟩
      obtain ⟨first, hfirst⟩ := Option.isSome_iff_exists.1 hsome
      rw [hfirst, Option.some_or]
  rw [overruled, overruled]
  exact congrArg₂ (· ++ ·) (hplace (·.defaultName) .byDefault)
    (hplace (·.namespaceName) .asNamespace)

/-- A request that is made again changes nothing in what the requests for a module come to. -/
theorem combined_insert (h : spec ∈ specs) (more : List ImportSpec) :
    combined (specs ++ spec :: more) path = combined (specs ++ more) path := by
  by_cases hpath : spec.path = path
  · subst hpath
    have hmem := mem_about.2 ⟨h, rfl⟩
    have hnames : spec.named ⊆ (about specs spec.path).flatMap (·.named) :=
      fun name hname => List.mem_flatMap.2 ⟨spec, hmem, hname⟩
    rw [combined, combined, about_append, about_cons_self, about_append,
      findSome?_append_of_mem hmem, findSome?_append_of_mem hmem, List.flatMap_append,
      List.flatMap_cons, eraseDups_append_of_subset hnames, List.flatMap_append]
  · rw [combined, combined, about_append, about_cons_of_ne hpath, about_append]

end ImportSpec

/-! ## One request -/

theorem claimPlace_eq (path : String) (kind : SpecifierKind) (place requested : Option String) :
    claimPlace path kind place requested =
      (place.or requested, disagreement path kind (place.or requested) requested) := by
  cases requested with
  | none => cases place <;> rfl
  | some name =>
    cases place with
    | none => simp [claimPlace, disagreement]
    | some first => by_cases h : first = name <;> simp [claimPlace, disagreement, h]

theorem addName_eraseDups (l : List String) (name : String) :
    addName l.eraseDups name = (l ++ [name]).eraseDups := by
  rw [addName, eraseDups_append_singleton]
  simp only [List.contains_iff_mem, List.mem_eraseDups]

theorem foldl_addName_eraseDups (names l : List String) :
    names.foldl addName l.eraseDups = (l ++ names).eraseDups := by
  induction names generalizing l with
  | nil => rw [List.foldl_nil, List.append_nil]
  | cons name names ih =>
    rw [List.foldl_cons, addName_eraseDups, ih, List.append_assoc, List.singleton_append]

section Step

variable {specs : List ImportSpec} {spec : ImportSpec}

open ImportSpec

/-- A request is joined with what the ones before it for its module come to. -/
theorem joinSpec_combined (specs : List ImportSpec) (spec : ImportSpec) :
    joinSpec (combined specs spec.path) spec =
    (combined (specs ++ [spec]) spec.path, overruled (specs ++ [spec]) spec) := by
  simp only [joinSpec, claimPlace_eq, overruled, combined_append_self]
  rw [combined, foldl_addName_eraseDups]

/-- Where there is an entry for the module of a request, the request is joined with it. -/
theorem addSpec_middle {entry : ImportSpec} (h : entry.path = spec.path) {front : List ImportSpec}
    (hfront : ∀ e ∈ front, e.path ≠ spec.path) (back : List ImportSpec) :
    addSpec spec (front ++ entry :: back) =
      (front ++ (joinSpec entry spec).1 :: back, (joinSpec entry spec).2) := by
  induction front with
  | nil => rw [List.nil_append, addSpec, if_pos (beq_iff_eq.2 h), List.nil_append]
  | cons e front ih =>
    have hne : ¬(e.path == spec.path) = true := mt eq_of_beq (hfront e List.mem_cons_self)
    rw [List.cons_append, addSpec, if_neg hne, ih fun e he => hfront e (List.mem_cons_of_mem _ he)]
    rfl

/-- Where there is none, the request becomes the last entry. -/
theorem addSpec_new {entries : List ImportSpec} (h : ∀ e ∈ entries, e.path ≠ spec.path) :
    addSpec spec entries = (entries ++ [{ spec with named := spec.named.eraseDups }], []) := by
  induction entries with
  | nil => rw [addSpec, ← List.eraseDups_nil, foldl_addName_eraseDups]; rfl
  | cons e entries ih =>
    have hne : ¬(e.path == spec.path) = true := mt eq_of_beq (h e List.mem_cons_self)
    rw [addSpec, if_neg hne, ih fun e he => h e (List.mem_cons_of_mem _ he)]
    rfl

/-- **One request more**: the list for all requests so far becomes the list for all of them. -/
theorem addSpec_combined (specs : List ImportSpec) (spec : ImportSpec) :
    addSpec spec ((modulesOf specs).map (combined specs)) =
      ((modulesOf (specs ++ [spec])).map (combined (specs ++ [spec])),
        overruled (specs ++ [spec]) spec) := by
  have hothers : ∀ paths : List String, spec.path ∉ paths →
      paths.map (combined specs) = paths.map (combined (specs ++ [spec])) := by
    intro paths hnot
    refine List.map_congr_left fun path hpath => (combined_append_of_ne ?_).symm
    rintro rfl
    exact hnot hpath
  have hpaths : ∀ paths : List String, spec.path ∉ paths →
      ∀ e ∈ paths.map (combined specs), e.path ≠ spec.path := by
    rintro paths hnot _ he heq
    obtain ⟨path, hpath, rfl⟩ := List.mem_map.1 he
    exact hnot (heq ▸ hpath)
  by_cases hmem : spec.path ∈ modulesOf specs
  · rw [modulesOf_append_singleton, if_pos hmem]
    have hnodup : (modulesOf specs).Nodup := nodup_eraseDups _
    obtain ⟨front, back, heq⟩ := List.append_of_mem hmem
    rw [heq] at hnodup ⊢
    obtain ⟨-, hback, hdisjoint⟩ := List.nodup_append'.1 hnodup
    have hfront : spec.path ∉ front := fun hin => hdisjoint hin List.mem_cons_self
    have hentry : (combined specs spec.path).path = spec.path := rfl
    rw [List.map_append, List.map_cons, addSpec_middle hentry (hpaths front hfront),
      joinSpec_combined, hothers front hfront, hothers back (List.nodup_cons.1 hback).1,
      List.map_append, List.map_cons]
  · have hnone := about_eq_nil hmem
    have hself : combined (specs ++ [spec]) spec.path =
        { spec with named := spec.named.eraseDups } := by
      rw [combined_append_self, combined, hnone]
      rfl
    have hlate : overruled (specs ++ [spec]) spec = [] := by
      rw [overruled, hself]
      cases spec.defaultName <;> cases spec.namespaceName <;> simp [disagreement]
    rw [modulesOf_append_singleton, if_neg hmem, addSpec_new (hpaths _ hmem), hlate, hothers _ hmem,
      List.map_append, List.map_singleton, hself]

end Step

/-! ## All requests -/

theorem groupByModule_append_singleton (specs : List ImportSpec) (spec : ImportSpec) :
    groupByModule (specs ++ [spec]) = ((addSpec spec (groupByModule specs).1).1,
      (groupByModule specs).2 ++ (addSpec spec (groupByModule specs).1).2) := by
  rw [groupByModule, List.foldl_append]
  rfl

open ImportSpec in
/-- The list that is built request by request is the one that all requests together describe. -/
theorem groupByModule_eq (specs : List ImportSpec) :
    groupByModule specs =
      ((modulesOf specs).map (combined specs), specs.flatMap (overruled specs)) := by
  induction specs using List.reverseRecOn with
  | nil => rfl
  | append_singleton specs spec ih =>
    have hearlier : specs.flatMap (overruled (specs ++ [spec])) = specs.flatMap (overruled specs) :=
      List.flatMap_congr fun s hs => overruled_append hs [spec]
    rw [groupByModule_append_singleton, ih, addSpec_combined, List.flatMap_append, hearlier,
      List.flatMap_singleton]

theorem groupByModule_paths (specs : List ImportSpec) :
    (groupByModule specs).1.map (·.path) = modulesOf specs := by
  rw [groupByModule_eq, List.map_map]
  exact List.map_id _

/-- A list with one entry for each module, each name once in it, is its own grouping. -/
theorem groupByModule_of_grouped {entries : List ImportSpec} (hpaths : (entries.map (·.path)).Nodup)
    (hnames : ∀ e ∈ entries, e.named.Nodup) : groupByModule entries = (entries, []) := by
  have habout : ∀ e ∈ entries, ImportSpec.about entries e.path = [e] := by
    intro e he
    obtain ⟨front, back, rfl⟩ := List.append_of_mem he
    rw [List.map_append, List.map_cons, List.nodup_append', List.nodup_cons] at hpaths
    obtain ⟨-, ⟨hback, -⟩, hfront⟩ := hpaths
    have hnone : ∀ others : List ImportSpec, e.path ∉ others.map (·.path) →
        ImportSpec.about others e.path = [] :=
      fun others hnot => ImportSpec.about_eq_nil fun hin => hnot (List.mem_eraseDups.1 hin)
    rw [ImportSpec.about_append, ImportSpec.about_cons_self, hnone back hback,
      hnone front fun hin => hfront hin List.mem_cons_self, List.nil_append]
  have hcombined : ∀ e ∈ entries, ImportSpec.combined entries e.path = e := by
    intro e he
    simp [ImportSpec.combined, habout e he, eraseDups_of_nodup (hnames e he)]
  have hlate : ∀ e ∈ entries, ImportSpec.overruled entries e = [] := by
    intro e he
    rw [ImportSpec.overruled, hcombined e he]
    cases e.defaultName <;> cases e.namespaceName <;> simp [disagreement]
  rw [groupByModule_eq, modulesOf, eraseDups_of_nodup hpaths, List.map_map,
    List.flatMap_eq_nil_iff.2 hlate]
  refine congrArg (·, []) ((List.map_congr_left hcombined).trans (List.map_id _))

/-- **What requests are grouped into.** There is one entry for each module, in the order in which
modules first appear, with the first default, the first namespace and every name once. What is
reported, request by request, are the defaults and namespaces that differ from the first ones. So
grouping again changes nothing and reports nothing, and a request that is made again changes
nothing, wherever it is put behind the first time. -/
theorem groupByModule_onePerModule (specs : List ImportSpec) :
    groupByModule specs =
        ((modulesOf specs).map (ImportSpec.combined specs),
          specs.flatMap (ImportSpec.overruled specs)) ∧
      groupByModule (groupByModule specs).1 = ((groupByModule specs).1, []) ∧
      ∀ front back spec, specs = front ++ back → spec ∈ front →
        (groupByModule (front ++ spec :: back)).1 = (groupByModule specs).1 := by
  refine ⟨groupByModule_eq specs, ?_, ?_⟩
  · refine groupByModule_of_grouped ?_ ?_
    · rw [groupByModule_paths]
      exact nodup_eraseDups _
    · rw [groupByModule_eq]
      refine List.forall_mem_map.2 fun path _ => nodup_eraseDups _
  · rintro front back spec rfl hmem
    rw [groupByModule_eq, groupByModule_eq, modulesOf_insert hmem]
    exact List.map_congr_left fun path _ => ImportSpec.combined_insert hmem back

/-- Five requests for two modules, with a default that comes too late; then the second one is made
again. -/
theorem groupByModule_onePerModule_fiveRequests :
    let first : ImportSpec := { path := "react", named := ["useState"] }
    let second : ImportSpec := { path := "./a", defaultName := some "A" }
    let rest : List ImportSpec :=
      [{ path := "react", named := ["useEffect", "useState"] },
        { path := "./a", defaultName := some "B" },
        { path := "./a", defaultName := some "A" }]
    let grouped : List ImportSpec :=
      [{ path := "react", named := ["useState", "useEffect"] },
        { path := "./a", defaultName := some "A" }]
    groupByModule (first :: second :: rest) = (grouped, [⟨"./a", .byDefault, "A", "B"⟩]) ∧
      groupByModule grouped = (grouped, []) ∧
      second ∈ [first, second] ∧
      (groupByModule (first :: second :: second :: rest)).1 = grouped := by
  intro first second rest grouped
  obtain ⟨heq, hagain, hrepeated⟩ := groupByModule_onePerModule (first :: second :: rest)
  have hgrouped : groupByModule (first :: second :: rest) =
      (grouped, [⟨"./a", .byDefault, "A", "B"⟩]) :=
    heq.trans (by decide +kernel)
  have hmem : second ∈ [first, second] := List.mem_cons_of_mem _ List.mem_cons_self
  have hsame := hrepeated [first, second] rest second rfl hmem
  rw [hgrouped] at hagain hsame
  exact ⟨hgrouped, hagain, hmem, hsame⟩

end Graft
