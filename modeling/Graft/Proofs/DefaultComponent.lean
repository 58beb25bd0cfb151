import Graft.Parse.Tree
import Graft.Proofs.Traversal

set_option autoImplicit false

/-!
# The default component

In a file without exports the default component is the first function with a capital name. It is
found by way of its name: every declaration with such a name is looked up again, and counts if the
look-up leads back to it. Nothing is lost this way, also where several declarations share a name
(`Document.defaultComponent_first`).
-/

namespace Graft

/-! ## Numbers of nodes -/

namespace Node

mutual

/-- Nodes are numbered in the order of traversal. -/
theorem numbered_spec (next : Nat) : (n : Node) →
    (n.numbered next).1.preorder.map id = List.range' next n.size ∧
      (n.numbered next).2 = next + n.size
  | mk l cs => by
    obtain ⟨hids, hnext⟩ := numberedAll_spec (next + 1) cs
    constructor
    · simp only [numbered, preorder, size, List.map_cons, hids, Nat.add_comm 1, List.range'_succ]
      rfl
    · simp only [numbered, size, hnext]
      omega

theorem numberedAll_spec (next : Nat) : (ns : List Node) →
    (preorderAll (numberedAll next ns).1).map id = List.range' next (sizeAll ns) ∧
      (numberedAll next ns).2 = next + sizeAll ns
  | [] => ⟨rfl, rfl⟩
  | n :: ns => by
    obtain ⟨hids, hnext⟩ := numbered_spec next n
    obtain ⟨hids', hnext'⟩ := numberedAll_spec (next + n.size) ns
    constructor
    · simp only [numberedAll, preorderAll, sizeAll, List.map_append, hids, hids', hnext,
        List.range'_append_1]
    · simp only [numberedAll, sizeAll, hnext', hnext]
      omega

end

end Node

/-- No two nodes have the same number. -/
def Document.Numbered (d : Document) : Prop := (d.root.preorder.map Node.id).Nodup

instance (d : Document) : Decidable d.Numbered := inferInstanceAs (Decidable (List.Nodup _))

/-- **The nodes of a parsed text have different numbers.** -/
theorem Parse.Parser.document_numbered (p : Parser) (text : String) :
    (p.document text).Numbered := by
  unfold Document.Numbered document tree Language.tree
  dsimp only
  split
  · rename_i root _ _
    rw [(root.numbered_spec 0).1]
    exact List.nodup_range'
  · decide

theorem Document.Numbered.eq_of_id {d : Document} (h : d.Numbered) {n m : Node}
    (hn : n ∈ d.root.preorder) (hm : m ∈ d.root.preorder) (hid : n.id = m.id) : n = m :=
  List.inj_on_of_nodup_map h hn hm hid

/-! ## Declarations of functions -/

/-- A value is a function, or a call that has it as its first argument. -/
def HoldsFunction (value function : Node) : Prop :=
  function.kind ∈ functionKinds ∧
    (value = function ∨ value.kind = "call_expression" ∧
      ∃ arguments, value.child? "arguments" = some arguments ∧
        arguments.namedChildren[0]? = some function)

theorem functionValue_eq_some_iff {value function : Node} :
    functionValue value = some function ↔ HoldsFunction value function := by
  unfold functionValue HoldsFunction
  by_cases hfunction : value.kind ∈ functionKinds
  · have hcall : value.kind ≠ "call_expression" := by
      intro hkind
      rw [hkind] at hfunction
      exact absurd hfunction (by decide)
    simp only [List.contains_iff_mem, hfunction, if_true, Option.some_inj,
      hcall, false_and, or_false]
    exact ⟨fun h => ⟨h ▸ hfunction, h⟩, And.right⟩
  · have hne : ∀ g : Node, g.kind ∈ functionKinds → value ≠ g := fun g hg h => hfunction (h ▸ hg)
    simp only [List.contains_iff_mem, hfunction, if_false]
    by_cases hcall : value.kind = "call_expression"
    · simp only [hcall, beq_self_eq_true, if_true, true_and]
      constructor
      · intro h
        obtain ⟨arguments, harguments, h⟩ := Option.bind_eq_some_iff.1 h
        obtain ⟨first, hfirst, h⟩ := Option.bind_eq_some_iff.1 h
        rw [Option.ite_none_right_eq_some, Option.some_inj] at h
        obtain ⟨hkind, rfl⟩ := h
        exact ⟨hkind, .inr ⟨arguments, harguments, hfirst⟩⟩
      · rintro ⟨hkind, hvalue | ⟨arguments, harguments, hfirst⟩⟩
        · exact absurd hvalue (hne function hkind)
        · simp [harguments, hfirst, hkind]
    · simp only [beq_iff_eq, hcall, if_false, false_and, or_false]
      exact ⟨fun h => (by cases h), fun h => absurd h.2 (hne function h.1)⟩

namespace Document

/-- A node declares a function or binds one to a name. -/
structure Declares (d : Document) (n : Node) (name : String) (f : FunctionMatch) : Prop where
  declaration : f.declaration = n
  named : ∃ ident, n.child? "name" = some ident ∧ d.text ident = name ∧
    (n.kind = "variable_declarator" → ident.kind = "identifier")
  function : n.kind = "function_declaration" ∧ f.function = n ∨
    n.kind = "variable_declarator" ∧ ∃ value, n.child? "value" = some value ∧
    HoldsFunction value f.function
  body : f.function.child? "body" = some f.body

theorem of?_eq_some_iff {declaration function : Node} {f : FunctionMatch} :
    FunctionMatch.of? declaration function = some f ↔
      f.declaration = declaration ∧ f.function = function ∧
      function.child? "body" = some f.body := by
  unfold FunctionMatch.of?
  rw [Option.map_eq_some_iff]
  constructor
  · rintro ⟨body, hbody, rfl⟩
    exact ⟨rfl, rfl, hbody⟩
  · rintro ⟨rfl, rfl, hbody⟩
    exact ⟨f.body, hbody, rfl⟩

theorem functionNamed_eq_some_iff {d : Document} {name : String} {n : Node} {f : FunctionMatch} :
    d.functionNamed name n = some f ↔ d.Declares n name f := by
  unfold functionNamed
  split
  · rename_i hkind
    constructor
    · intro h
      obtain ⟨ident, hident, h⟩ := Option.bind_eq_some_iff.1 h
      rw [Option.ite_none_right_eq_some, beq_iff_eq, of?_eq_some_iff] at h
      obtain ⟨hname, hdeclaration, hfunction, hbody⟩ := h
      refine ⟨hdeclaration, ⟨ident, hident, hname, ?_⟩, .inl ⟨hkind, hfunction⟩, hfunction ▸ hbody⟩
      intro hdeclarator
      rw [hkind] at hdeclarator
      exact absurd hdeclarator (by decide)
    · rintro ⟨hdeclaration, ⟨ident, hident, hname, -⟩, hfunction, hbody⟩
      rcases hfunction with ⟨-, hfunction⟩ | ⟨hdeclarator, -⟩
      · rw [hident]
        show (if d.text ident == name then FunctionMatch.of? n n else none) = some f
        rw [Option.ite_none_right_eq_some, beq_iff_eq, of?_eq_some_iff]
        exact ⟨hname, hdeclaration, hfunction, hfunction ▸ hbody⟩
      · rw [hkind] at hdeclarator
        exact absurd hdeclarator (by decide)
  · rename_i hkind
    constructor
    · intro h
      obtain ⟨ident, hident, h⟩ := Option.bind_eq_some_iff.1 h
      rw [Option.ite_none_left_eq_some] at h
      obtain ⟨hident', h⟩ := h
      obtain ⟨value, hvalue, h⟩ := Option.bind_eq_some_iff.1 h
      obtain ⟨function, hfunction, h⟩ := Option.bind_eq_some_iff.1 h
      obtain ⟨hdeclaration, rfl, hbody⟩ := of?_eq_some_iff.1 h
      simp only [Bool.or_eq_true, bne_iff_ne, not_or, not_not] at hident'
      exact ⟨hdeclaration, ⟨ident, hident, hident'.2, fun _ => hident'.1⟩,
        .inr ⟨hkind, value, hvalue, functionValue_eq_some_iff.1 hfunction⟩, hbody⟩
    · rintro ⟨hdeclaration, ⟨ident, hident, hname, hidentifier⟩, hfunction, hbody⟩
      rcases hfunction with ⟨hdeclared, -⟩ | ⟨-, value, hvalue, hholds⟩
      · rw [hkind] at hdeclared
        exact absurd hdeclared (by decide)
      · have hof : FunctionMatch.of? n f.function = some f :=
          of?_eq_some_iff.2 ⟨hdeclaration, rfl, hbody⟩
        simp [hident, hvalue, functionValue_eq_some_iff.2 hholds, hof, hidentifier hkind, hname]
  · rename_i hdeclared hdeclarator
    constructor
    · intro h
      cases h
    · rintro ⟨-, -, ⟨hkind, -⟩ | ⟨hkind, -⟩, -⟩
      · exact absurd hkind hdeclared
      · exact absurd hkind hdeclarator

/-! ## Capital names -/

/-- A node is a component: it declares a function, and the name starts with an upper case letter. -/
def IsComponent (d : Document) (n : Node) (f : FunctionMatch) : Prop :=
  ∃ name, startsUppercase name = true ∧ d.Declares n name f

theorem exists_declares_of_findFunction {d : Document} {name : String} {f : FunctionMatch}
    (h : d.findFunction name = some f) : ∃ n ∈ d.root.preorder, d.Declares n name f := by
  obtain ⟨n, hn, h⟩ := List.exists_of_findSome?_eq_some h
  exact ⟨n, Node.mem_preorder_of_mem_walk hn, functionNamed_eq_some_iff.1 h⟩

/-- A look-up finds a declaration if no declaration before it has the same name. -/
theorem findFunction_eq_some {d : Document} {name : String} {f : FunctionMatch}
    {before behind : List Node} {n : Node} (hsplit : d.root.preorder = before ++ n :: behind)
    (hn : d.Declares n name f) (hbefore : ∀ m ∈ before, ∀ g, ¬d.Declares m name g) :
    d.findFunction name = some f := by
  have hnone : ∀ m ∈ before, d.functionNamed name m = none := by
    intro m hm
    rw [Option.eq_none_iff_forall_not_mem]
    intro g hg
    exact hbefore m hm g (functionNamed_eq_some_iff.1 hg)
  rw [findFunction, Node.walk_eq_preorder, List.findSome?_eq_some_iff]
  exact ⟨before, n, behind, hsplit, functionNamed_eq_some_iff.2 hn, hnone⟩

/-- A look-up that leads back to a node shows that the node is a component. -/
theorem capitalFunction_eq_some_iff {d : Document} (hnumbered : d.Numbered) {n : Node}
    (hn : n ∈ d.root.preorder) {f : FunctionMatch} : d.capitalFunction n = some f ↔
      ∃ name, startsUppercase name = true ∧ d.Declares n name f ∧ d.findFunction name = some f := by
  unfold capitalFunction
  constructor
  · intro h
    rw [Option.ite_none_right_eq_some] at h
    obtain ⟨ident, hident, h⟩ := Option.bind_eq_some_iff.1 h.2
    rw [Option.ite_none_right_eq_some, Option.filter_eq_some_iff, beq_iff_eq] at h
    obtain ⟨hupper, hfound, hid⟩ := h
    obtain ⟨m, hm, hdeclares⟩ := exists_declares_of_findFunction hfound
    -- The declaration that is found has the number of this node.
    rw [hdeclares.declaration] at hid
    obtain rfl := hnumbered.eq_of_id hm hn hid
    exact ⟨d.text ident, hupper, hdeclares, hfound⟩
  · rintro ⟨name, hupper, hdeclares, hfound⟩
    obtain ⟨ident, hident, rfl, -⟩ := hdeclares.named
    have hkind : (n.kind == "function_declaration" || n.kind == "variable_declarator") = true := by
      rcases hdeclares.function with ⟨hkind, -⟩ | ⟨hkind, -⟩ <;> simp [hkind]
    rw [if_pos hkind]
    simp [hident, hupper, hfound, hdeclares.declaration]

/-- Without exports only capital names count. -/
theorem defaultComponent_of_no_exports {d : Document}
    (h : ∀ n ∈ d.root.preorder, n.kind ≠ "export_statement") :
    d.defaultComponent = d.root.preorder.findSome? d.capitalFunction := by
  have hexports : d.root.preorder.filter (fun n => n.kind == "export_statement") = [] := by
    rw [List.filter_eq_nil_iff]
    intro n hn
    simpa using h n hn
  simp only [defaultComponent, Node.walk_eq_preorder, hexports, List.findSome?_nil, Option.none_or]

/-- The first component of a traversal is found. -/
theorem findSome?_capitalFunction {d : Document} (hnumbered : d.Numbered)
    {before behind : List Node} {n : Node} {f : FunctionMatch}
    (hsplit : d.root.preorder = before ++ n :: behind) (hn : d.IsComponent n f)
    (hbefore : ∀ m ∈ before, ∀ g, ¬d.IsComponent m g) :
    d.root.preorder.findSome? d.capitalFunction = some f := by
  obtain ⟨name, hupper, hdeclares⟩ := hn
  have hmem : ∀ m ∈ before ++ [n], m ∈ d.root.preorder := by
    intro m hm
    rw [hsplit, List.append_cons]
    exact List.mem_append_left behind hm
  have hnone : ∀ m ∈ before, d.capitalFunction m = none := by
    intro m hm
    rw [Option.eq_none_iff_forall_not_mem]
    intro g hg
    obtain ⟨name, hupper, hdeclares, -⟩ :=
      (capitalFunction_eq_some_iff hnumbered (hmem m (List.mem_append_left _ hm))).1 hg
    exact hbefore m hm g ⟨name, hupper, hdeclares⟩
  -- A declaration of the same name further up would be a component itself.
  have hfound : d.findFunction name = some f :=
    findFunction_eq_some hsplit hdeclares fun m hm g hg => hbefore m hm g ⟨name, hupper, hg⟩
  rw [List.findSome?_eq_some_iff]
  refine ⟨before, n, behind, hsplit, ?_, hnone⟩
  exact (capitalFunction_eq_some_iff hnumbered (hmem n (by simp))).2
    ⟨name, hupper, hdeclares, hfound⟩

theorem findSome?_capitalFunction_eq_none {d : Document} (hnumbered : d.Numbered)
    (h : ∀ n ∈ d.root.preorder, ∀ f, ¬d.IsComponent n f) :
    d.root.preorder.findSome? d.capitalFunction = none := by
  rw [List.findSome?_eq_none_iff]
  intro n hn
  rw [Option.eq_none_iff_forall_not_mem]
  intro f hf
  obtain ⟨name, hupper, hdeclares, -⟩ := (capitalFunction_eq_some_iff hnumbered hn).1 hf
  exact h n hn f ⟨name, hupper, hdeclares⟩

/-- A function is declared by the first component of a traversal. -/
def FirstComponent (d : Document) (f : FunctionMatch) : Prop :=
  ∃ before n behind, d.root.preorder = before ++ n :: behind ∧ d.IsComponent n f ∧
    ∀ m ∈ before, ∀ g, ¬d.IsComponent m g

theorem exists_firstComponent {d : Document} {n : Node} {f : FunctionMatch}
    (hn : n ∈ d.root.preorder) (hf : d.IsComponent n f) : ∃ g, d.FirstComponent g := by
  classical
  have hsome : (d.root.preorder.find? fun n => decide (∃ f, d.IsComponent n f)).isSome = true := by
    rw [List.find?_isSome]
    exact ⟨n, hn, decide_eq_true ⟨f, hf⟩⟩
  obtain ⟨first, hfirst⟩ := Option.isSome_iff_exists.1 hsome
  obtain ⟨hcomponent, before, behind, hsplit, hbefore⟩ := List.find?_eq_some_iff_append.1 hfirst
  obtain ⟨g, hg⟩ := of_decide_eq_true hcomponent
  refine ⟨g, before, first, behind, hsplit, hg, ?_⟩
  intro m hm g' hg'
  have hnot := hbefore m hm
  simp only [Bool.not_eq_true', decide_eq_false_iff_not] at hnot
  exact hnot ⟨g', hg'⟩

/-- **The default component of a file without exports is the first function with a capital name.**
There is none exactly if no node is a component. -/
theorem defaultComponent_first (d : Document) (hnumbered : d.Numbered)
    (hexports : ∀ n ∈ d.root.preorder, n.kind ≠ "export_statement") :
    (∀ f, d.defaultComponent = some f ↔ d.FirstComponent f) ∧
      (d.defaultComponent = none ↔ ∀ n ∈ d.root.preorder, ∀ f, ¬d.IsComponent n f) := by
  rw [defaultComponent_of_no_exports hexports]
  have hfound : ∀ f, d.FirstComponent f → d.root.preorder.findSome? d.capitalFunction = some f := by
    rintro f ⟨before, n, behind, hsplit, hn, hbefore⟩
    exact findSome?_capitalFunction hnumbered hsplit hn hbefore
  by_cases hany : ∃ n ∈ d.root.preorder, ∃ f, d.IsComponent n f
  · obtain ⟨n, hn, f, hf⟩ := hany
    obtain ⟨g, hg⟩ := exists_firstComponent hn hf
    constructor
    · intro f'
      refine ⟨fun h => ?_, hfound f'⟩
      obtain rfl := Option.some_inj.1 ((hfound g hg).symm.trans h)
      exact hg
    · rw [hfound g hg]
      exact ⟨fun h => (by cases h), fun h => absurd hf (h n hn f)⟩
  · have hno : ∀ n ∈ d.root.preorder, ∀ f, ¬d.IsComponent n f :=
      fun n hn f hf => hany ⟨n, hn, f, hf⟩
    have hnone := findSome?_capitalFunction_eq_none hnumbered hno
    refine ⟨fun f => ⟨fun h => ?_, hfound f⟩, fun _ => hno, fun _ => hnone⟩
    rw [hnone] at h
    cases h

/-- Three declarations of one name, of which the first is no function. -/
def sharedName : Document where
  source := "const A = 1, A = () => 2;\nfunction A() \x7b\x7d\n"
  root := ((Node.mk { kind := "program", start := 0, stop := 42 } [
    .mk { kind := "lexical_declaration", start := 0, stop := 25 } [
      .mk { kind := "const", named := false, field := some "kind", start := 0, stop := 5 } [],
      .mk { kind := "variable_declarator", start := 6, stop := 11 } [
        .mk { kind := "identifier", field := some "name", start := 6, stop := 7 } [],
        .mk { kind := "=", named := false, start := 8, stop := 9 } [],
        .mk { kind := "number", field := some "value", start := 10, stop := 11 } []],
      .mk { kind := ",", named := false, start := 11, stop := 12 } [],
      .mk { kind := "variable_declarator", start := 13, stop := 24 } [
        .mk { kind := "identifier", field := some "name", start := 13, stop := 14 } [],
        .mk { kind := "=", named := false, start := 15, stop := 16 } [],
        .mk { kind := "arrow_function", field := some "value", start := 17, stop := 24 } [
          .mk { kind := "formal_parameters", field := some "parameters",
                start := 17, stop := 19 } [],
          .mk { kind := "=>", named := false, start := 20, stop := 22 } [],
          .mk { kind := "number", field := some "body", start := 23, stop := 24 } []]],
      .mk { kind := ";", named := false, start := 24, stop := 25 } []],
    .mk { kind := "function_declaration", start := 26, stop := 41 } [
      .mk { kind := "function", named := false, start := 26, stop := 34 } [],
      .mk { kind := "identifier", field := some "name", start := 35, stop := 36 } [],
      .mk { kind := "formal_parameters", field := some "parameters", start := 36, stop := 38 } [],
      .mk { kind := "statement_block", field := some "body", start := 39,
            stop := 41 } []]]).numbered 0).1

theorem defaultComponent_first_sharedName :
    sharedName.Numbered ∧ (∀ n ∈ sharedName.root.preorder, n.kind ≠ "export_statement") ∧
      ∃ f, sharedName.defaultComponent = some f ∧ f.declaration.start = 13 ∧
        sharedName.FirstComponent f := by
  have hnumbered : sharedName.Numbered := by decide +kernel
  have hexports : ∀ n ∈ sharedName.root.preorder, n.kind ≠ "export_statement" := by decide +kernel
  have hstart : sharedName.defaultComponent.map (·.declaration.start) = some 13 := by decide +kernel
  obtain ⟨f, hf, hstart⟩ := Option.map_eq_some_iff.1 hstart
  exact ⟨hnumbered, hexports, f, hf, hstart,
    ((defaultComponent_first sharedName hnumbered hexports).1 f).1 hf⟩

end Document

end Graft
