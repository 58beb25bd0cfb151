import Graft.Proofs.Bindings
import Mathlib.Data.List.Flatten
import Mathlib.Data.List.Perm.Subperm

set_option autoImplicit false

/-!
# Binding patterns

A binding pattern is made of names, arrays and objects, with properties that may be renamed, default
values and rest elements, nested to any depth. `Document.Depicts` says how the grammar represents
one. The names that are collected from its node are the names that it binds in a recognised form,
from left to right (`Document.patternNames_of_depicts`), and none of them is taken from the key of a
property, a default value or a type (`Document.exists_bindingPlaces`). Only the word `undefined`,
which the grammar has a kind of its own for, is left out where a pattern has it as a name.
-/

namespace Graft

/-! ## Patterns and their nodes -/

/-- A binding pattern. Keys, default values and types bind nothing and are kept as the nodes that
they are. -/
inductive BindingPattern where
  /-- A name, with the kind of node that it is: a property that is bound under its own name has one
  of its own, and so has the word `undefined`. -/
  | name (kind x : String)
  | array (elements : List BindingPattern)
  | object (properties : List BindingPattern)
  /-- A property whose value is bound to a pattern. -/
  | property (key : Node) (target : BindingPattern)
  | defaulted (target : BindingPattern) (value : Node)
  | rest (target : BindingPattern)
  /-- A parameter, perhaps with a type and a default value. -/
  | parameter (target : BindingPattern) (type value : Option Node)

namespace BindingPattern

mutual

/-- The names that a pattern binds, from left to right, if `kinds` are the kinds of nodes that are
one. -/
def names (kinds : List String) : BindingPattern → List String
  | name kind x => if kind ∈ kinds then [x] else []
  | array elements => namesAll kinds elements
  | object properties => namesAll kinds properties
  | property _ target | defaulted target _ | rest target | parameter target _ _ =>
    target.names kinds

def namesAll (kinds : List String) : List BindingPattern → List String
  | [] => []
  | p :: ps => p.names kinds ++ namesAll kinds ps

end

mutual

theorem names_sublist {kinds kinds' : List String} (h : kinds ⊆ kinds') :
    (p : BindingPattern) → (p.names kinds).Sublist (p.names kinds')
  | name kind x => by
    rw [names, names]
    split
    · rename_i hkind
      rw [if_pos (h hkind)]
    · exact List.nil_sublist _
  | array elements | object elements => by
    rw [names, names]
    exact namesAll_sublist h elements
  | property _ target | defaulted target _ | rest target | parameter target _ _ => by
    rw [names, names]
    exact names_sublist h target

theorem namesAll_sublist {kinds kinds' : List String} (h : kinds ⊆ kinds') :
    (ps : List BindingPattern) → (namesAll kinds ps).Sublist (namesAll kinds' ps)
  | [] => .slnil
  | p :: ps => (names_sublist h p).append (namesAll_sublist h ps)

end

mutual

theorem length_names_append {kinds kinds' : List String}
    (h : kinds.Disjoint kinds') : (p : BindingPattern) →
    (p.names (kinds ++ kinds')).length = (p.names kinds).length + (p.names kinds').length
  | name kind x => by
    rw [names, names, names]
    by_cases hkind : kind ∈ kinds
    · have hother : kind ∉ kinds' := fun hmem => h hkind hmem
      simp [hkind, hother]
    · simp [hkind]
  | array elements | object elements => by
    rw [names, names, names]
    exact length_namesAll_append h elements
  | property _ target | defaulted target _ | rest target | parameter target _ _ => by
    rw [names, names, names]
    exact length_names_append h target

theorem length_namesAll_append {kinds kinds' : List String} (h : kinds.Disjoint kinds') :
    (ps : List BindingPattern) →
      (namesAll (kinds ++ kinds') ps).length =
        (namesAll kinds ps).length + (namesAll kinds' ps).length
  | [] => rfl
  | p :: ps => by
    simp only [namesAll, List.length_append, length_names_append h p, length_namesAll_append h ps]
    omega

end

/-- Names are left out if and only if one of them has a form that is overlooked. -/
theorem names_recognised_eq_iff (p : BindingPattern) :
    p.names BindingForms.recognised.names = p.names BindingForms.all.names ↔
      p.names BindingForms.overlooked.names = [] := by
  have hsub :=
    names_sublist
      (List.subset_append_left BindingForms.recognised.names BindingForms.overlooked.names) p
  have hdisjoint : BindingForms.recognised.names.Disjoint BindingForms.overlooked.names :=
    List.disjoint_left.2 (by decide)
  have hlength := length_names_append hdisjoint p
  rw [BindingForms.names_all]
  constructor
  · intro h
    rw [h] at hlength
    exact List.length_eq_zero_iff.1 (by omega)
  · intro h
    rw [h, List.length_nil, Nat.add_zero] at hlength
    exact hsub.eq_of_length hlength.symm

mutual

/-- What stands in a pattern but binds nothing: the keys of properties, default values and types. -/
def asides : BindingPattern → List Node
  | name _ _ => []
  | array elements => asidesAll elements
  | object properties => asidesAll properties
  | property key target => [key] ++ target.asides
  | defaulted target value => [value] ++ target.asides
  | rest target => target.asides
  | parameter target type value => (type.toList ++ value.toList) ++ target.asides

def asidesAll : List BindingPattern → List Node
  | [] => []
  | p :: ps => p.asides ++ asidesAll ps

end

end BindingPattern

def commentKinds : List String := ["comment", "html_comment"]

/-- The parts of an array, an object or a rest element: what is neither punctuation nor a
comment. -/
def Node.elements (n : Node) : List Node :=
  n.namedChildren.filter fun c => !commentKinds.contains c.kind

namespace Document

mutual

/-- A node represents a pattern, by its kind and by the parts that its children play. -/
def Depicts (d : Document) : Node → BindingPattern → Prop
  | n, .name kind x => kind ∈ BindingForms.all.names ∧ n.kind = kind ∧ d.text n = x
  | n, .array elements => n.kind = "array_pattern" ∧ DepictsAll d n.elements elements
  | n, .object properties => n.kind = "object_pattern" ∧ DepictsAll d n.elements properties
  | n, .property key target =>
    n.kind = "pair_pattern" ∧ n.child? "key" = some key ∧
      ∃ m, n.child? "value" = some m ∧ Depicts d m target
  | n, .defaulted target value =>
    n.kind ∈ ["assignment_pattern", "object_assignment_pattern"] ∧ n.child? "right" = some value ∧
      ∃ m, n.child? "left" = some m ∧ Depicts d m target
  | n, .rest target => n.kind = "rest_pattern" ∧ ∃ m, n.elements = [m] ∧ Depicts d m target
  | n, .parameter target type value =>
    n.kind ∈ ["required_parameter", "optional_parameter"] ∧ n.child? "type" = type ∧
      n.child? "value" = value ∧ ∃ m, n.child? "pattern" = some m ∧ Depicts d m target

/-- Nodes represent patterns, one by one. -/
def DepictsAll (d : Document) : List Node → List BindingPattern → Prop
  | [], [] => True
  | n :: ns, p :: ps => Depicts d n p ∧ DepictsAll d ns ps
  | _, _ => False

end

/-! ## Names from left to right -/

variable {d : Document} {n m : Node}

/-- A node with one binding part has the names of that part. -/
theorem patternNames_of_field {field : String} (hkind : Node.bindingField? n.kind = some field)
    (hpart : n.child? field = some m) : d.patternNames n = d.patternNames m := by
  have hparts : n.bindingParts = [m] := by simp [Node.bindingParts, hkind, hpart]
  have hname : n.kind ∉ BindingForms.recognised.names := fun h => by
    rw [Node.bindingParts_of_name (BindingForms.mem_names_all h)] at hparts
    cases hparts
  rw [patternNames_eq, if_neg hname, hparts, List.flatMap_singleton]

theorem patternNames_comment (h : n.kind ∈ commentKinds) : d.patternNames n = [] := by
  simp only [commentKinds, List.mem_cons, List.not_mem_nil, or_false] at h
  rw [patternNames_eq]
  rcases h with h | h <;> simp [h, BindingForms.recognised, Node.bindingParts, Node.bindingField?]

theorem flatMap_patternNames_elements (n : Node) :
    n.elements.flatMap d.patternNames = n.namedChildren.flatMap d.patternNames := by
  rw [Node.elements]
  induction n.namedChildren with
  | nil => rfl
  | cons c cs ih =>
    rw [List.filter_cons, List.flatMap_cons, ← ih]
    split
    · rw [List.flatMap_cons]
    · rename_i h
      rw [patternNames_comment (by simpa using h), List.nil_append]

/-- A node with several parts has their names. -/
theorem patternNames_of_elements
    (hkind : n.kind ∈ ["array_pattern", "object_pattern", "rest_pattern"]) :
    d.patternNames n = n.elements.flatMap d.patternNames := by
  have hparts : n.bindingParts = n.namedChildren := by
    have hfield : Node.bindingField? n.kind = none := by
      simp only [List.mem_cons, List.not_mem_nil, or_false] at hkind
      rcases hkind with h | h | h <;> rw [h] <;> rfl
    rw [Node.bindingParts, hfield, if_pos hkind]
  have hname : n.kind ∉ BindingForms.recognised.names := by
    simp only [List.mem_cons, List.not_mem_nil, or_false] at hkind
    rcases hkind with h | h | h <;> simp [h, BindingForms.recognised]
  rw [patternNames_eq, if_neg hname, hparts, flatMap_patternNames_elements]

mutual

/-- **The names of a node are those that its pattern binds in a recognised form.** -/
theorem patternNames_of_depicts : (p : BindingPattern) → {n : Node} → d.Depicts n p →
    d.patternNames n = p.names BindingForms.recognised.names
  | .name kind x, n, ⟨hform, hkind, htext⟩ => by
    rw [patternNames_eq, hkind, htext, BindingPattern.names,
      Node.bindingParts_of_name (hkind ▸ hform), List.flatMap_nil]
  | .array elements, n, ⟨hkind, hall⟩ | .object elements, n, ⟨hkind, hall⟩ => by
    rw [patternNames_of_elements (by simp [hkind]), patternNames_of_depictsAll elements hall,
      BindingPattern.names]
  | .property key target, n, ⟨hkind, hkey, m, hm, h⟩ => by
    rw [patternNames_of_field (by rw [hkind]; rfl) hm, patternNames_of_depicts target h,
      BindingPattern.names]
  | .defaulted target value, n, ⟨hkind, hvalue, m, hm, h⟩ => by
    have hfield : Node.bindingField? n.kind = some "left" := by
      simp only [List.mem_cons, List.not_mem_nil, or_false] at hkind
      rcases hkind with h | h <;> rw [h] <;> rfl
    rw [patternNames_of_field hfield hm, patternNames_of_depicts target h, BindingPattern.names]
  | .rest target, n, ⟨hkind, m, hm, h⟩ => by
    rw [patternNames_of_elements (by simp [hkind]), hm, List.flatMap_singleton,
      patternNames_of_depicts target h, BindingPattern.names]
  | .parameter target type value, n, ⟨hkind, htype, hvalue, m, hm, h⟩ => by
    have hfield : Node.bindingField? n.kind = some "pattern" := by
      simp only [List.mem_cons, List.not_mem_nil, or_false] at hkind
      rcases hkind with h | h <;> rw [h] <;> rfl
    rw [patternNames_of_field hfield hm, patternNames_of_depicts target h, BindingPattern.names]

theorem patternNames_of_depictsAll :
    (ps : List BindingPattern) → {ns : List Node} → d.DepictsAll ns ps →
    ns.flatMap d.patternNames = BindingPattern.namesAll BindingForms.recognised.names ps
  | [], [], _ => rfl
  | p :: ps, n :: ns, ⟨h, hall⟩ => by
    rw [List.flatMap_cons, patternNames_of_depicts p h, patternNames_of_depictsAll ps hall,
      BindingPattern.namesAll]

end

end Document

/-! ## Places of names -/

theorem Node.mem_child?_spec {n m : Node} {field : String} (h : m ∈ (n.child? field).toList) :
    m ∈ n.children ∧ m.field = some field := by
  have hfound := Option.mem_toList.1 h
  exact ⟨List.mem_of_find?_eq_some hfound, by simpa using List.find?_some hfound⟩

/-- Children that play different parts are different children. -/
theorem Node.subperm_children (n : Node) (fields : List String) (h : fields.Nodup) :
    (fields.flatMap fun field => (n.child? field).toList).Subperm n.children := by
  refine List.Nodup.subperm (List.nodup_flatMap.2 ⟨?_, ?_⟩) ?_
  · intro field _
    cases n.child? field <;> simp
  · refine h.imp fun hne m hm hm' => hne ?_
    exact Option.some_inj.1 ((mem_child?_spec hm).2.symm.trans (mem_child?_spec hm').2)
  · intro m hm
    obtain ⟨field, -, hm⟩ := List.mem_flatMap.1 hm
    exact (mem_child?_spec hm).1

theorem subperm_flatMap_preorder {ms ns : List Node} (h : ms.Subperm ns) :
    (ms.flatMap Node.preorder).Subperm (ns.flatMap Node.preorder) := by
  obtain ⟨ls, hperm, hsub⟩ := h
  exact ⟨ls.flatMap Node.preorder, hperm.flatMap_right _, hsub.flatMap _⟩

theorem Node.elements_sublist (n : Node) : (n.elements.flatMap preorder).Sublist n.preorder := by
  rw [preorder_eq_cons]
  exact .cons n ((List.filter_sublist.trans List.filter_sublist).flatMap _)

namespace Document

/-- Nodes of some kinds among given ones, in their order. They spell the names and lie outside the
trees of `asides`. -/
structure BindingPlaces (d : Document) (kinds : List String) (nodes : List Node)
    (names : List String) (asides : List Node) (places : List Node) : Prop where
  inOrder : places.Sublist nodes
  identifiers : ∀ k ∈ places, k.kind ∈ kinds
  spelled : places.map d.text = names
  apart : (places ++ asides.flatMap Node.preorder).Subperm nodes

namespace BindingPlaces

variable {d : Document} {nodes nodes' asides asides' places places' : List Node}
  {kinds names names' : List String}

theorem nil : BindingPlaces d kinds [] [] [] [] :=
  ⟨.slnil, fun _ hk => absurd hk List.not_mem_nil, rfl, .refl _⟩

theorem none (n : Node) : BindingPlaces d kinds n.preorder [] [] [] :=
  ⟨List.nil_sublist _, fun _ hk => absurd hk List.not_mem_nil, rfl, (List.nil_sublist _).subperm⟩

theorem single {n : Node} (hkind : n.kind ∈ kinds) :
    BindingPlaces d kinds n.preorder [d.text n] [] [n] where
  inOrder := List.singleton_sublist.2 n.mem_preorder_self
  identifiers _ hk := List.mem_singleton.1 hk ▸ hkind
  spelled := rfl
  apart := by
    rw [List.flatMap_nil, List.append_nil]
    exact (List.singleton_sublist.2 n.mem_preorder_self).subperm

theorem append (h : BindingPlaces d kinds nodes names asides places)
    (h' : BindingPlaces d kinds nodes' names' asides' places') :
    BindingPlaces d kinds (nodes ++ nodes') (names ++ names') (asides ++ asides')
      (places ++ places') where
  inOrder := h.inOrder.append h'.inOrder
  identifiers k hk := (List.mem_append.1 hk).elim (h.identifiers k) (h'.identifiers k)
  spelled := by rw [List.map_append, h.spelled, h'.spelled]
  apart := by
    have hperm : (places ++ places' ++ (asides ++ asides').flatMap Node.preorder).Perm
        (places ++ asides.flatMap Node.preorder ++ (places' ++ asides'.flatMap Node.preorder)) := by
      rw [List.flatMap_append, List.append_assoc, List.append_assoc]
      refine .append_left places ?_
      rw [← List.append_assoc, ← List.append_assoc]
      exact .append_right _ List.perm_append_comm
    exact hperm.subperm.trans (h.apart.append h'.apart)

theorem mono (h : BindingPlaces d kinds nodes names asides places) (hsub : nodes.Sublist nodes') :
    BindingPlaces d kinds nodes' names asides places :=
  ⟨h.inOrder.trans hsub, h.identifiers, h.spelled, h.apart.trans hsub.subperm⟩

/-- The names of a node are those of one child, and other children stand aside. -/
theorem beside {n m : Node} (h : BindingPlaces d kinds m.preorder names asides places)
    {others : List Node} (hothers : (others ++ [m]).Subperm n.children) :
    BindingPlaces d kinds n.preorder names (others ++ asides) places where
  inOrder := by
    have hm : m ∈ n.children := hothers.subset (by simp)
    exact h.inOrder.trans
      ((List.sublist_flatten_of_mem (List.mem_map_of_mem hm)).trans
        (n.preorder_eq_cons ▸ .cons _ (.refl _)))
  identifiers := h.identifiers
  spelled := h.spelled
  apart := by
    have hperm : (places ++ (others ++ asides).flatMap Node.preorder).Perm
        (others.flatMap Node.preorder ++ (places ++ asides.flatMap Node.preorder)) := by
      rw [List.flatMap_append, ← List.append_assoc, ← List.append_assoc]
      exact .append_right _ List.perm_append_comm
    have hbelow : (others.flatMap Node.preorder ++ m.preorder).Subperm n.preorder := by
      have h := subperm_flatMap_preorder hothers
      rw [List.flatMap_append, List.flatMap_singleton] at h
      exact h.trans (n.preorder_eq_cons ▸ (List.sublist_cons_self _ _).subperm)
    exact hperm.subperm.trans (((List.subperm_append_left _).2 h.apart).trans hbelow)

/-- If all nodes are different, no name stands in the tree of an aside. -/
theorem not_mem_preorder (h : BindingPlaces d kinds nodes names asides places)
    (hnodup : nodes.Nodup) {k aside : Node} (hk : k ∈ places)
    (haside : aside ∈ asides) : k ∉ aside.preorder := by
  obtain ⟨rest, hperm, hsub⟩ := h.apart
  have hdisjoint := (List.nodup_append.1 (hperm.nodup_iff.1 (hnodup.sublist hsub))).2.2
  intro hmem
  exact hdisjoint k hk k (List.mem_flatMap.2 ⟨aside, haside, hmem⟩) rfl

end BindingPlaces

variable {d : Document}

mutual

/-- **The names of a pattern stand outside its keys, default values and types.** -/
theorem exists_bindingPlaces (kinds : List String) :
    (p : BindingPattern) → {n : Node} → d.Depicts n p →
    ∃ places, d.BindingPlaces kinds n.preorder (p.names kinds) p.asides places
  | .name kind x, n, ⟨_, hkind, htext⟩ => by
    rw [BindingPattern.names, BindingPattern.asides, ← htext, ← hkind]
    split
    · rename_i hmem
      exact ⟨_, .single hmem⟩
    · exact ⟨_, .none n⟩
  | .array elements, n, ⟨_, hall⟩ | .object elements, n, ⟨_, hall⟩ => by
    obtain ⟨places, h⟩ := exists_bindingPlaces_all kinds elements hall
    rw [BindingPattern.names, BindingPattern.asides]
    exact ⟨places, h.mono n.elements_sublist⟩
  | .property key target, n, ⟨_, hkey, m, hm, h⟩ => by
    obtain ⟨places, h⟩ := exists_bindingPlaces kinds target h
    rw [BindingPattern.names, BindingPattern.asides]
    exact ⟨places,
      h.beside (by simpa [hkey, hm] using n.subperm_children ["key", "value"] (by decide))⟩
  | .defaulted target value, n, ⟨_, hvalue, m, hm, h⟩ => by
    obtain ⟨places, h⟩ := exists_bindingPlaces kinds target h
    rw [BindingPattern.names, BindingPattern.asides]
    exact ⟨places,
      h.beside (by simpa [hvalue, hm] using n.subperm_children ["right", "left"] (by decide))⟩
  | .rest target, n, ⟨_, m, hm, h⟩ => by
    obtain ⟨places, h⟩ := exists_bindingPlaces kinds target h
    have hsub := n.elements_sublist
    rw [hm, List.flatMap_singleton] at hsub
    rw [BindingPattern.names, BindingPattern.asides]
    exact ⟨places, h.mono hsub⟩
  | .parameter target type value, n, ⟨_, htype, hvalue, m, hm, h⟩ => by
    obtain ⟨places, h⟩ := exists_bindingPlaces kinds target h
    rw [BindingPattern.names, BindingPattern.asides]
    refine ⟨places, h.beside ?_⟩
    simpa [htype, hvalue, hm] using n.subperm_children ["type", "value", "pattern"] (by decide)

theorem exists_bindingPlaces_all (kinds : List String) :
    (ps : List BindingPattern) → {ns : List Node} → d.DepictsAll ns ps →
      ∃ places, d.BindingPlaces kinds (ns.flatMap Node.preorder)
        (BindingPattern.namesAll kinds ps) (BindingPattern.asidesAll ps) places
  | [], [], _ => ⟨[], .nil⟩
  | p :: ps, n :: ns, ⟨h, hall⟩ => by
    obtain ⟨places, h⟩ := exists_bindingPlaces kinds p h
    obtain ⟨places', hall⟩ := exists_bindingPlaces_all kinds ps hall
    exact ⟨places ++ places', h.append hall⟩

end

/-- **Which names of a pattern are collected.** For a node that represents a binding pattern, these
are the names that the pattern binds in a recognised form. They are all names that it binds if and
only if none is the word `undefined`. They are read off identifiers of its tree, in the order of
traversal. A name is not among them if all identifiers with that name are in keys of properties, in
default values or in types; nodes are told apart by their numbers there. -/
theorem patternNames_binds (d : Document) (n : Node) (p : BindingPattern) (h : d.Depicts n p) :
    d.patternNames n = p.names BindingForms.recognised.names ∧
      (d.patternNames n = p.names BindingForms.all.names ↔
        p.names BindingForms.overlooked.names = []) ∧
      (∃ places : List Node, places.Sublist n.preorder ∧
        (∀ k ∈ places, k.kind ∈ BindingForms.recognised.names) ∧
        places.map d.text = d.patternNames n) ∧
      ((n.preorder.map Node.id).Nodup → ∀ x,
        (∀ k ∈ n.preorder, k.kind ∈ BindingForms.recognised.names → d.text k = x →
          ∃ aside ∈ p.asides, k ∈ aside.preorder) → x ∉ d.patternNames n) := by
  have hnames := patternNames_of_depicts p h
  obtain ⟨places, hplaces⟩ := exists_bindingPlaces BindingForms.recognised.names p h
  rw [hnames]
  refine ⟨rfl, p.names_recognised_eq_iff,
    ⟨places, hplaces.inOrder, hplaces.identifiers, hplaces.spelled⟩, fun hids x haside hx => ?_⟩
  rw [← hplaces.spelled] at hx
  obtain ⟨k, hk, htext⟩ := List.mem_map.1 hx
  obtain ⟨aside, hmem, hbelow⟩ :=
    haside k (hplaces.inOrder.subset hk) (hplaces.identifiers k hk) htext
  exact hplaces.not_mem_preorder hids.of_map hk hmem hbelow

def keyNode : Node :=
  .mk { id := 6, kind := "property_identifier", field := some "key", start := 16, stop := 17 } []

def elementDefault : Node :=
  .mk { id := 13, kind := "identifier", field := some "right", start := 24, stop := 25 } []

def propertyDefault : Node :=
  .mk { id := 23, kind := "identifier", field := some "right", start := 38, stop := 39 } []

def typeNode : Node :=
  .mk { id := 25, kind := "type_annotation", field := some "type", start := 41, stop := 44 }
    [.mk { id := 26, kind := ":", named := false, start := 41, stop := 42 } [],
      .mk { id := 27, kind := "type_identifier", start := 43, stop := 44 } []]

def parameterDefault : Node :=
  .mk { id := 29, kind := "identifier", field := some "value", start := 47, stop := 48 } []

def parameterNode : Node :=
  .mk { kind := "required_parameter", start := 11, stop := 48 }
    [.mk { id := 1, kind := "object_pattern", field := some "pattern", start := 11, stop := 41 }
      [.mk { id := 2, kind := "\x7b", named := false, start := 11, stop := 12 } [],
        .mk { id := 3, kind := "shorthand_property_identifier_pattern",
              start := 13, stop := 14 } [],
        .mk { id := 4, kind := ",", named := false, start := 14, stop := 15 } [],
        .mk { id := 5, kind := "pair_pattern", start := 16, stop := 32 }
          [keyNode,
            .mk { id := 7, kind := ":", named := false, start := 17, stop := 18 } [],
            .mk { id := 8, kind := "array_pattern", field := some "value", start := 19, stop := 32 }
              [.mk { id := 9, kind := "[", named := false, start := 19, stop := 20 } [],
                .mk { id := 10, kind := "assignment_pattern", start := 20, stop := 25 }
                  [.mk { id := 11, kind := "identifier", field := some "left",
                         start := 20, stop := 21 } [],
                    .mk { id := 12, kind := "=", named := false, start := 22, stop := 23 } [],
                    elementDefault],
                .mk { id := 14, kind := ",", named := false, start := 25, stop := 26 } [],
                .mk { id := 15, kind := "rest_pattern", start := 27, stop := 31 }
                  [.mk { id := 16, kind := "...", named := false, start := 27, stop := 30 } [],
                    .mk { id := 17, kind := "identifier", start := 30, stop := 31 } []],
                .mk { id := 18, kind := "]", named := false, start := 31, stop := 32 } []]],
        .mk { id := 19, kind := ",", named := false, start := 32, stop := 33 } [],
        .mk { id := 20, kind := "object_assignment_pattern", start := 34, stop := 39 }
          [.mk { id := 21, kind := "shorthand_property_identifier_pattern", field := some "left",
                 start := 34, stop := 35 } [],
            .mk { id := 22, kind := "=", named := false, start := 36, stop := 37 } [],
            propertyDefault],
        .mk { id := 24, kind := "\x7d", named := false, start := 40, stop := 41 } []],
      typeNode,
      .mk { id := 28, kind := "=", named := false, start := 45, stop := 46 } [],
      parameterDefault]

/-- A function whose parameter has names at several depths. -/
def nestedParameter : Document where
  source := "function f(\x7b a, k: [b = c, ...r], s = t \x7d: T = u) \x7b\x7d"
  root := parameterNode

def parameterPattern : BindingPattern :=
  .parameter
    (.object [.name "shorthand_property_identifier_pattern" "a",
      .property keyNode
        (.array [.defaulted (.name "identifier" "b") elementDefault,
          .rest (.name "identifier" "r")]),
      .defaulted (.name "shorthand_property_identifier_pattern" "s") propertyDefault])
    (some typeNode) (some parameterDefault)

theorem depicts_parameterNode : nestedParameter.Depicts parameterNode parameterPattern :=
  ⟨by decide, rfl, rfl, _, rfl, rfl,
    ⟨by decide, rfl, by decide +kernel⟩,
    ⟨rfl, rfl, _, rfl, rfl, ⟨by decide, rfl, _, rfl, by decide, rfl, by decide +kernel⟩,
      ⟨rfl, _, rfl, by decide, rfl, by decide +kernel⟩, trivial⟩,
    ⟨by decide, rfl, _, rfl, by decide, rfl, by decide +kernel⟩, trivial⟩

theorem patternNames_binds_parameterNode :
    nestedParameter.Depicts parameterNode parameterPattern ∧
      nestedParameter.patternNames parameterNode = ["a", "b", "r", "s"] ∧
      "c" ∉ nestedParameter.patternNames parameterNode := by
  obtain ⟨hnames, -, -, haside⟩ :=
    patternNames_binds nestedParameter parameterNode parameterPattern depicts_parameterNode
  have hids : (parameterNode.preorder.map Node.id).Nodup := by decide +kernel
  refine ⟨depicts_parameterNode, hnames, haside hids "c" fun k hk hkind htext => ?_⟩
  -- There is one identifier of this name.
  have hid : ∀ k ∈ parameterNode.preorder, k.kind ∈ BindingForms.recognised.names →
      nestedParameter.text k = "c" → k.id = elementDefault.id := by decide +kernel
  have hmem : elementDefault ∈ parameterNode.preorder := List.mem_of_getElem? (i := 13) rfl
  obtain rfl := List.inj_on_of_nodup_map hids hk hmem (hid k hk hkind htext)
  exact ⟨elementDefault, List.mem_of_getElem? (i := 3) rfl, Node.mem_preorder_self _⟩

def threeElements : Node :=
  .mk { kind := "array_pattern", start := 13, stop := 30 }
    [.mk { id := 1, kind := "[", named := false, start := 13, stop := 14 } [],
      .mk { id := 2, kind := "identifier", start := 14, stop := 15 } [],
      .mk { id := 3, kind := ",", named := false, start := 15, stop := 16 } [],
      .mk { id := 4, kind := "undefined", start := 17, stop := 26 } [],
      .mk { id := 5, kind := ",", named := false, start := 26, stop := 27 } [],
      .mk { id := 6, kind := "identifier", start := 28, stop := 29 } [],
      .mk { id := 7, kind := "]", named := false, start := 29, stop := 30 } []]

/-- A component whose parameter is an array with a name that is overlooked. -/
def undefinedElement : Document where
  source := "function App([a, undefined, b]) \x7b\n  return null;\n\x7d\n"
  root := threeElements

def threeNames : BindingPattern :=
  .array [.name "identifier" "a", .name "undefined" "undefined", .name "identifier" "b"]

theorem patternNames_undefinedElement :
    undefinedElement.Depicts threeElements threeNames ∧
      threeNames.names BindingForms.all.names = ["a", "undefined", "b"] ∧
      undefinedElement.patternNames threeElements = ["a", "b"] := by
  have hdepicts : undefinedElement.Depicts threeElements threeNames :=
    ⟨rfl, ⟨by decide, rfl, by decide +kernel⟩, ⟨by decide, rfl, by decide +kernel⟩,
      ⟨by decide, rfl, by decide +kernel⟩, trivial⟩
  exact ⟨hdepicts, rfl, patternNames_of_depicts threeNames hdepicts⟩

end Document

end Graft
