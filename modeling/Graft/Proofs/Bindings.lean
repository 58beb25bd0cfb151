import Graft.Proofs.Declarations

set_option autoImplicit false

/-!
# Names that a component binds

A name is bound at the top of a component by a parameter, by a declaration of variables with any
pattern, or by the declaration of a function or class. What is collected are exactly the names bound
in the forms that are recognised (`Document.mem_boundNames_iff`). Generator functions and abstract
classes are not among these, nor is the word `undefined` where a pattern has it as a name, so a
state variable of such a name is let through.
-/

namespace Graft

/-! ## Forms of bindings -/

/-- The kinds of nodes by which names are bound. -/
structure BindingForms where
  /-- The kinds of nodes that are a name in a pattern. -/
  names : List String
  /-- The kinds of statements that bind the name of what they declare. -/
  declarations : List String

namespace BindingForms

/-- The forms that variables, functions and classes can have. -/
def all : BindingForms where
  names := ["identifier", "shorthand_property_identifier_pattern", "undefined"]
  declarations := ["function_declaration", "class_declaration", "generator_function_declaration",
    "abstract_class_declaration"]

/-- The forms that are looked for. -/
def recognised : BindingForms where
  names := ["identifier", "shorthand_property_identifier_pattern"]
  declarations := ["function_declaration", "class_declaration"]

/-- The forms that are not looked for. -/
def overlooked : BindingForms where
  names := ["undefined"]
  declarations := ["generator_function_declaration", "abstract_class_declaration"]

theorem names_all : all.names = recognised.names ++ overlooked.names := rfl

theorem mem_names_all {kind : String} (h : kind ∈ recognised.names) : kind ∈ all.names :=
  List.mem_append_left overlooked.names h

theorem declarations_all :
    all.declarations = recognised.declarations ++ overlooked.declarations := rfl

end BindingForms

namespace Node

/-- The part of a pattern that binds, where there is one: the value of a property, what a default
value is given for, and what a parameter stands for. -/
def bindingField? : String → Option String
  | "pair_pattern" => some "value"
  | "assignment_pattern" | "object_assignment_pattern" => some "left"
  | "required_parameter" | "optional_parameter" => some "pattern"
  | _ => none

/-- The parts of a pattern in which names are bound. -/
def bindingParts (n : Node) : List Node :=
  match bindingField? n.kind with
  | some field => (n.child? field).toList
  | none => if n.kind ∈ ["array_pattern", "object_pattern", "rest_pattern"]
    then n.namedChildren else []

theorem mem_children_of_mem_bindingParts {n m : Node}
    (h : m ∈ n.bindingParts) : m ∈ n.children := by
  unfold bindingParts at h
  split at h
  · exact List.mem_of_find?_eq_some (Option.mem_toList.1 h)
  · split at h
    · exact List.mem_of_mem_filter h
    · exact absurd h List.not_mem_nil

theorem bindingParts_of_name {n : Node}
    (h : n.kind ∈ BindingForms.all.names) : n.bindingParts = [] := by
  simp only [BindingForms.all, List.mem_cons, List.not_mem_nil, or_false] at h
  rcases h with h | h | h <;> simp [bindingParts, bindingField?, h]

theorem size_pos (n : Node) : 0 < n.size := by
  obtain ⟨l, cs⟩ := n
  rw [size]
  omega

theorem size_lt_of_mem_children {n c : Node} (h : c ∈ n.children) : c.size < n.size := by
  have hbelow : c.preorder.Sublist (n.children.flatMap preorder) :=
    List.sublist_flatten_of_mem (List.mem_map_of_mem h)
  rw [← length_preorder c, ← length_preorder n, preorder_eq_cons n, List.length_cons]
  exact Nat.lt_succ_of_le hbelow.length_le

end Node

namespace Document

/-- A pattern binds a name; `names` are the kinds of nodes that are one. -/
inductive PatternBinds (d : Document) (names : List String) : Node → String → Prop
  | name {n : Node} (kind : n.kind ∈ names) : PatternBinds d names n (d.text n)
  | part {n m : Node} {x : String} (mem : m ∈ n.bindingParts) (binds : PatternBinds d names m x) :
    PatternBinds d names n x

/-- A statement binds a name where it stands. -/
def StatementBinds (d : Document) (forms : BindingForms) (statement : Node) (x : String) : Prop :=
  (statement.kind ∈ ["lexical_declaration", "variable_declaration"] ∧
    ∃ declarator ∈ statement.namedChildren, ∃ target, declarator.child? "name" = some target ∧
      d.PatternBinds forms.names target x) ∨
  (statement.kind ∈ forms.declarations ∧ ∃ name, statement.child? "name" =
    some name ∧ d.text name = x)

/-- A function binds a name by its parameters, or by its only parameter if there is no list of
them. -/
def ParametersBind (d : Document) (forms : BindingForms) (function : Node) (x : String) : Prop :=
  (∃ parameters, function.child? "parameters" = some parameters ∧
    ∃ parameter ∈ parameters.namedChildren, d.PatternBinds forms.names parameter x) ∨
  (function.child? "parameters" = none ∧
    ∃ parameter, function.child? "parameter" = some parameter ∧
      d.PatternBinds forms.names parameter x)

/-- A name is bound at the top of a component. -/
def BindsAtTop (d : Document) (forms : BindingForms) (f : FunctionMatch) (x : String) : Prop :=
  d.ParametersBind forms f.function x ∨
    ∃ statement ∈ f.body.namedChildren, d.StatementBinds forms statement x

/-! ## Names of a pattern -/

/-- One level of a pattern. -/
theorem patternNamesWithin_succ (d : Document) (fuel : Nat) (n : Node) :
    d.patternNamesWithin (fuel + 1) n = if n.kind ∈ BindingForms.recognised.names then [d.text n]
      else n.bindingParts.flatMap (d.patternNamesWithin fuel) := by
  rw [patternNamesWithin]
  split
  all_goals rename_i hkind
  case h_11 => simp_all [BindingForms.recognised, Node.bindingParts, Node.bindingField?]
  all_goals simp only [BindingForms.recognised, Node.bindingParts, Node.bindingField?, hkind]
  case h_3 => cases n.child? "value" <;> simp
  case h_4 | h_5 => cases n.child? "left" <;> simp
  case h_6 | h_7 => cases n.child? "pattern" <;> simp
  all_goals simp

/-- The size of a pattern is fuel enough. -/
theorem patternNamesWithin_of_size_le (d : Document) {n : Node} {fuel : Nat} (h : n.size ≤ fuel) :
    d.patternNamesWithin fuel n = d.patternNames n := by
  induction n using Node.children_induction generalizing fuel with
  | step n ih =>
    obtain ⟨size, hsize⟩ : ∃ size, n.size = size + 1 := Nat.exists_eq_add_one.2 n.size_pos
    obtain ⟨fuel, rfl⟩ : ∃ k, fuel = k + 1 := Nat.exists_eq_add_one.2 (by omega)
    have hparts : n.bindingParts.flatMap (d.patternNamesWithin fuel) =
        n.bindingParts.flatMap (d.patternNamesWithin size) := by
      refine List.flatMap_congr fun m hm => ?_
      have hchild := Node.mem_children_of_mem_bindingParts hm
      have hlt := Node.size_lt_of_mem_children hchild
      rw [ih m hchild (by omega), ih m hchild (by omega)]
    rw [patternNames, hsize, patternNamesWithin_succ, patternNamesWithin_succ, hparts]

/-- The names of a pattern are those of its parts, from left to right. -/
theorem patternNames_eq (d : Document) (n : Node) :
    d.patternNames n = if n.kind ∈ BindingForms.recognised.names then [d.text n]
      else n.bindingParts.flatMap d.patternNames := by
  obtain ⟨size, hsize⟩ : ∃ size, n.size = size + 1 := Nat.exists_eq_add_one.2 n.size_pos
  have hparts : n.bindingParts.flatMap (d.patternNamesWithin size) =
      n.bindingParts.flatMap d.patternNames :=
    List.flatMap_congr fun m hm => d.patternNamesWithin_of_size_le <| by
      have := Node.size_lt_of_mem_children (Node.mem_children_of_mem_bindingParts hm)
      omega
  rw [patternNames, hsize, patternNamesWithin_succ, hparts]

section

variable {d : Document} {n : Node} {x : String}

theorem mem_patternNames_iff :
    x ∈ d.patternNames n ↔ d.PatternBinds BindingForms.recognised.names n x := by
  constructor
  · intro h
    induction n using Node.children_induction with
    | step n ih =>
      rw [patternNames_eq] at h
      split at h
      · rename_i hkind
        rw [List.mem_singleton.1 h]
        exact .name hkind
      · obtain ⟨m, hm, hx⟩ := List.mem_flatMap.1 h
        exact .part hm (ih m (Node.mem_children_of_mem_bindingParts hm) hx)
  · intro h
    induction h with
    | name hkind => rw [patternNames_eq, if_pos hkind]; exact List.mem_singleton_self _
    | @part n m x hm _ ih =>
      -- A name has no parts.
      have hkind : n.kind ∉ BindingForms.recognised.names := fun hname => by
        rw [Node.bindingParts_of_name (BindingForms.mem_names_all hname)] at hm
        exact absurd hm List.not_mem_nil
      rw [patternNames_eq, if_neg hkind]
      exact List.mem_flatMap.2 ⟨m, hm, ih⟩

theorem patternBinds_append_iff {names names' : List String} :
    d.PatternBinds (names ++ names') n x ↔ d.PatternBinds names n x ∨
      d.PatternBinds names' n x := by
  constructor
  · intro h
    induction h with
    | name hkind => exact (List.mem_append.1 hkind).imp .name .name
    | part hm _ ih => exact ih.imp (.part hm) (.part hm)
  · rintro (h | h)
    all_goals induction h with
      | name hkind => exact .name (by simp [hkind])
      | part hm _ ih => exact .part hm ih

/-! ## Names of a component -/

theorem mem_declaredNames_iff :
    x ∈ d.declaredNames n ↔ d.StatementBinds .recognised n x := by
  unfold declaredNames StatementBinds
  split
  all_goals rename_i hkind
  case h_5 => simp_all [BindingForms.recognised]
  case h_1 | h_2 =>
    simp only [hkind, List.mem_flatMap, BindingForms.recognised, List.mem_cons, List.not_mem_nil,
      String.reduceEq, or_false, or_true, true_and, false_and]
    refine exists_congr fun declarator => and_congr_right fun _ => ?_
    cases declarator.child? "name" <;> simp [mem_patternNames_iff, BindingForms.recognised]
  case h_3 | h_4 => cases n.child? "name" <;> simp [hkind, BindingForms.recognised, eq_comm]

theorem mem_parameterNames_iff : x ∈ d.parameterNames n ↔ d.ParametersBind .recognised n x := by
  unfold parameterNames ParametersBind
  cases n.child? "parameters" with
  | some parameters => simp [mem_patternNames_iff]
  | none => cases n.child? "parameter" <;> simp [mem_patternNames_iff]

theorem statementBinds_all_iff :
    d.StatementBinds .all n x ↔ d.StatementBinds .recognised n x ∨
      d.StatementBinds .overlooked n x := by
  simp only [StatementBinds, BindingForms.names_all, BindingForms.declarations_all,
    patternBinds_append_iff, List.mem_append, and_or_left, or_and_right, exists_or]
  exact or_or_or_comm

theorem parametersBind_all_iff :
    d.ParametersBind .all n x ↔ d.ParametersBind .recognised n x ∨
      d.ParametersBind .overlooked n x := by
  simp only [ParametersBind, BindingForms.names_all, patternBinds_append_iff,
    and_or_left, exists_or]
  exact or_or_or_comm

end

section

variable {d : Document} {f : FunctionMatch} {x : String}

/-- **What is collected are the names that are bound in a form that is recognised.** -/
theorem mem_boundNames_iff (hblock : f.hasBlock = true) :
    x ∈ d.boundNames f ↔ d.BindsAtTop .recognised f x := by
  simp [boundNames, BindsAtTop, hblock, mem_parameterNames_iff, mem_declaredNames_iff]

theorem bindsAtTop_all_iff :
    d.BindsAtTop .all f x ↔ d.BindsAtTop .recognised f x ∨ d.BindsAtTop .overlooked f x := by
  simp only [BindsAtTop, parametersBind_all_iff, statementBinds_all_iff, and_or_left, exists_or]
  exact or_or_or_comm

/-- Nothing is missed if each name in a form that is not looked for is bound in another form as
well. -/
theorem boundNames_complete_iff (hblock : f.hasBlock = true) :
    (∀ x, d.BindsAtTop .all f x → x ∈ d.boundNames f) ↔
      ∀ x, d.BindsAtTop .overlooked f x → d.BindsAtTop .recognised f x := by
  simp only [mem_boundNames_iff hblock, bindsAtTop_all_iff, or_imp, imp_self, true_and]

end

end Document

/-! ## State variables of a name that is bound -/

namespace Workspace

variable {w : Workspace} {state : StateVariable} {f : FunctionMatch}

theorem sketchState_duplicate_iff (hfound : w.component? state.component = some f)
    (hblock : f.hasBlock = true) (declared : List (Nat × String)) (label : String) :
    (∃ name component, w.sketchState declared state label =
      .error (.duplicateDeclaration name component)) ↔
      ∃ x ∈ state.names, w.NameTaken declared f x := by
  constructor
  · rintro ⟨name, component, h⟩
    obtain ⟨f', hfound', -, hname, htaken⟩ := sketchState_duplicate h
    obtain rfl : f = f' := Option.some.inj (hfound.symm.trans hfound')
    exact ⟨name, hname, htaken⟩
  · rintro ⟨x, hx, htaken⟩
    exact exists_sketchState_duplicate hfound hblock hx htaken label

/-- A state variable whose names are free is declared at the start of the body. -/
theorem exists_sketchState_placed (hfound : w.component? state.component = some f)
    (hblock : f.hasBlock = true) {declared : List (Nat × String)}
    (hfree : ∀ x ∈ state.names, ¬w.NameTaken declared f x) (label : String) :
    ∃ s, w.sketchState declared state label = .ok s ∧ s.inserts = [w.placeState state f.body] := by
  obtain ⟨component, hresolve⟩ := exists_resolveComponent hfound hblock label
  have hnone : (state.names.find? fun candidate =>
      (w.document.boundNames f).contains candidate || declared.contains (f.body.start, candidate)) =
        none := by
    rw [List.find?_eq_none]
    intro x hx
    simpa [NameTaken] using hfree x hx
  unfold sketchState
  rw [StateVariable.names] at hnone
  rw [hresolve]
  simp only [bind, Except.bind, hnone]
  exact ⟨_, rfl, rfl⟩

/-- **A state variable is rejected for a name in a form that is recognised, and declared
otherwise.** -/
theorem sketchState_rejects_recognised (w : Workspace) (f : FunctionMatch)
    (hblock : f.hasBlock = true) :
    (∀ x, x ∈ w.document.boundNames f ↔ w.document.BindsAtTop .recognised f x) ∧
      ((∀ x, w.document.BindsAtTop .all f x → x ∈ w.document.boundNames f) ↔
        ∀ x, w.document.BindsAtTop .overlooked f x → w.document.BindsAtTop .recognised f x) ∧
      ∀ declared state label, w.component? state.component = some f →
        ((∃ name component, w.sketchState declared state label =
          .error (.duplicateDeclaration name component)) ↔
          ∃ x ∈ state.names, w.document.BindsAtTop .recognised f x ∨ (f.body.start, x) ∈ declared) ∧
        ((∃ s, w.sketchState declared state label = .ok s ∧
          s.inserts = [w.placeState state f.body]) ↔
          ∀ x ∈ state.names,
            ¬(w.document.BindsAtTop .recognised f x ∨ (f.body.start, x) ∈ declared)) := by
  refine ⟨fun x => Document.mem_boundNames_iff hblock, Document.boundNames_complete_iff hblock, ?_⟩
  intro declared state label hfound
  have hduplicate := sketchState_duplicate_iff hfound hblock declared label
  simp only [NameTaken, Document.mem_boundNames_iff hblock] at hduplicate
  refine ⟨hduplicate, ?_, ?_⟩
  · rintro ⟨s, hs, -⟩ x hx htaken
    obtain ⟨name, component, herror⟩ := hduplicate.2 ⟨x, hx, htaken⟩
    cases hs.symm.trans herror
  · intro hfree
    refine exists_sketchState_placed hfound hblock ?_ label
    simpa only [NameTaken, Document.mem_boundNames_iff hblock] using hfree

/-- A generator function in a body, `function* g() {}`. -/
def generatorNode : Node :=
  .mk { kind := "generator_function_declaration", start := 35, stop := 51 }
    [.mk { kind := "function", named := false, start := 35, stop := 43 } [],
      .mk { kind := "*", named := false, start := 43, stop := 44 } [],
      .mk { kind := "identifier", field := some "name", start := 45, stop := 46 } [],
      .mk { kind := "formal_parameters", field := some "parameters", start := 46, stop := 48 }
        [.mk { kind := "(", named := false, start := 46, stop := 47 } [],
          .mk { kind := ")", named := false, start := 47, stop := 48 } []],
      .mk { kind := "statement_block", field := some "body", start := 49, stop := 51 }
        [.mk { kind := "\x7b", named := false, start := 49, stop := 50 } [],
          .mk { kind := "\x7d", named := false, start := 50, stop := 51 } []]]

/-- The pattern `{ a: [b = 1, ...c] }`. -/
def nestedPattern : Node :=
  .mk { kind := "object_pattern", field := some "pattern", start := 11, stop := 31 }
    [.mk { kind := "\x7b", named := false, start := 11, stop := 12 } [],
      .mk { kind := "pair_pattern", start := 13, stop := 29 }
        [.mk { kind := "property_identifier", field := some "key", start := 13, stop := 14 } [],
          .mk { kind := ":", named := false, start := 14, stop := 15 } [],
          .mk { kind := "array_pattern", field := some "value", start := 16, stop := 29 }
            [.mk { kind := "[", named := false, start := 16, stop := 17 } [],
              .mk { kind := "assignment_pattern", start := 17, stop := 22 }
                [.mk { kind := "identifier", field := some "left", start := 17, stop := 18 } [],
                  .mk { kind := "=", named := false, start := 19, stop := 20 } [],
                  .mk { kind := "number", field := some "right", start := 21, stop := 22 } []],
              .mk { kind := ",", named := false, start := 22, stop := 23 } [],
              .mk { kind := "rest_pattern", start := 24, stop := 28 }
                [.mk { kind := "...", named := false, start := 24, stop := 27 } [],
                  .mk { kind := "identifier", start := 27, stop := 28 } []],
              .mk { kind := "]", named := false, start := 28, stop := 29 } []]],
      .mk { kind := "\x7d", named := false, start := 30, stop := 31 } []]

/-- A component with the pattern as its parameter and the generator function in its body. -/
def bindingComponent : FunctionMatch :=
  let body : Node := .mk { kind := "statement_block", field := some "body", start := 33,
                           stop := 53 }
    [.mk { kind := "\x7b", named := false, start := 33, stop := 34 } [],
      generatorNode,
      .mk { kind := "\x7d", named := false, start := 52, stop := 53 } []]
  let function : Node := .mk { kind := "function_declaration", start := 0, stop := 53 }
    [.mk { kind := "function", named := false, start := 0, stop := 8 } [],
      .mk { kind := "identifier", field := some "name", start := 9, stop := 10 } [],
      .mk { kind := "formal_parameters", field := some "parameters", start := 10, stop := 32 }
        [.mk { kind := "(", named := false, start := 10, stop := 11 } [],
          .mk { kind := "required_parameter", start := 11, stop := 31 } [nestedPattern],
          .mk { kind := ")", named := false, start := 31, stop := 32 } []],
      body]
  { declaration := function, function, body }

def bindingFile : Workspace where
  document :=
    { source := "function A(\x7b a: [b = 1, ...c] \x7d) \x7b function* g() \x7b\x7d \x7d"
      root := .mk { kind := "program", start := 0, stop := 53 } [bindingComponent.declaration] }
  options := { validateOutput := false }
  parse := .rootOnly

theorem sketchState_rejects_recognised_bindingFile :
    bindingComponent.hasBlock = true ∧
      (∀ x, bindingFile.document.BindsAtTop .recognised bindingComponent x ↔ x = "b" ∨ x = "c") ∧
      (∃ name component, bindingFile.sketchState [] (stateOf "a" "c") "" =
        .error (.duplicateDeclaration name component)) ∧
      ∃ s, bindingFile.sketchState [] (stateOf "a" "setA") "" = .ok s ∧
        s.inserts = [bindingFile.placeState (stateOf "a" "setA") bindingComponent.body] := by
  have hblock : bindingComponent.hasBlock = true := rfl
  have hbound : bindingFile.document.boundNames bindingComponent = ["b", "c"] := by decide +kernel
  obtain ⟨hmem, -, hsketch⟩ := sketchState_rejects_recognised bindingFile bindingComponent hblock
  have hrecognised (x : String) :
      bindingFile.document.BindsAtTop .recognised bindingComponent x ↔ x = "b" ∨ x = "c" := by
    simp [← hmem, hbound]
  refine ⟨hblock, hrecognised, (hsketch [] (stateOf "a" "c") "" rfl).1.2 ?_,
    (hsketch [] _ "" rfl).2.2 ?_⟩
  · exact ⟨"c", by decide, .inl ((hrecognised "c").2 (.inr rfl))⟩
  · simp [stateOf, StateVariable.names, hrecognised]

/-- The name of a generator function is not found, and a second declaration of it goes in. -/
theorem sketchState_ok_generator :
    bindingFile.document.BindsAtTop .all bindingComponent "g" ∧
      "g" ∉ bindingFile.document.boundNames bindingComponent ∧
      (bindingFile.sketchState [] (stateOf "g" "setG") "").map (·.inserts) =
        .ok [⟨34, "\n  const [g, setG] = useState(0);", .trailing⟩] := by
  have hg : bindingFile.document.StatementBinds .all generatorNode "g" :=
    .inr ⟨by decide, _, rfl, by decide +kernel⟩
  refine ⟨.inr ⟨generatorNode, ?_, hg⟩, by decide +kernel, by decide +kernel⟩
  exact List.mem_cons_self

end Workspace

end Graft
