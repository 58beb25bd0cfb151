import Graft.Proofs.Sketch
import Mathlib.Data.List.Flatten

set_option autoImplicit false

/-!
# What a search can find

Every way of looking for a node ends at a node of the tree: a walk with a cursor, the way down to a
span, and the searches for elements and components. Flawed nodes are collected without looking
everywhere, which loses none of them as long as a flaw is flagged in all nodes above it.
-/

namespace Graft

namespace Node

/-! ## Below a node -/

/-- What holds of a node if it holds of its children holds of every node. -/
@[elab_as_elim] theorem children_induction {motive : Node → Prop}
    (step : ∀ n, (∀ c ∈ n.children, motive c) → motive n) (n : Node) : motive n :=
  step n fun c hc =>
    have := sizeOf_lt_of_mem_children hc
    children_induction step c
termination_by sizeOf n

theorem preorderAll_eq_flatMap (ns : List Node) : preorderAll ns = ns.flatMap preorder := by
  induction ns with
  | nil => rfl
  | cons n ns ih => rw [preorderAll, ih, List.flatMap_cons]

theorem preorder_eq_cons (n : Node) : n.preorder = n :: n.children.flatMap preorder := by
  cases n with
  | mk l cs => rw [preorder, preorderAll_eq_flatMap, children_mk]

theorem mem_preorder_self (n : Node) : n ∈ n.preorder := by
  rw [preorder_eq_cons]
  exact List.mem_cons_self

theorem mem_preorder_iff {n m : Node} :
    m ∈ n.preorder ↔ m = n ∨ ∃ c ∈ n.children, m ∈ c.preorder := by
  rw [preorder_eq_cons, List.mem_cons, List.mem_flatMap]

theorem mem_preorder_of_mem_children {n c : Node} (h : c ∈ n.children) : c ∈ n.preorder :=
  mem_preorder_iff.2 (.inr ⟨c, h, c.mem_preorder_self⟩)

theorem mem_preorder_trans {n m k : Node} (hm : m ∈ n.preorder)
    (hk : k ∈ m.preorder) : k ∈ n.preorder := by
  induction n using children_induction with
  | step n ih =>
    rcases mem_preorder_iff.1 hm with rfl | ⟨c, hc, hm⟩
    · exact hk
    · exact mem_preorder_iff.2 (.inr ⟨c, hc, ih c hc hm⟩)

theorem mem_preorder_of_child? {n c : Node} {field : String}
    (h : n.child? field = some c) : c ∈ n.preorder :=
  mem_preorder_of_mem_children (List.mem_of_find?_eq_some h)

theorem mem_preorder_of_mem_namedChildren {n c : Node} (h : c ∈ n.namedChildren) : c ∈ n.preorder :=
  mem_preorder_of_mem_children (List.mem_of_mem_filter h)

end Node

/-- A text with nothing below the root of its tree. -/
def Document.rootOnly (source : String) : Document where
  source
  root := .mk { kind := "program", start := 0, stop := Text.byteLength source.toList } []

/-! ## Walking -/

namespace Cursor

/-- What is still to be visited: everything below the cursor, and everything to the right of the way
to it. -/
def pending (c : Cursor) : List Node :=
  c.node.preorder ++ c.above.flatMap fun crumb => crumb.right.flatMap Node.preorder

theorem pending_nextUp? (above : List Crumb) :
    (nextUp? above).elim [] pending = above.flatMap fun crumb =>
      crumb.right.flatMap Node.preorder := by
  induction above with
  | nil => rfl
  | cons crumb above ih =>
    obtain ⟨parent, right⟩ := crumb
    cases right with
    | nil => exact ih
    | cons next rest => simp [nextUp?, pending]

/-- One step of a walk visits the first pending node. -/
theorem pending_eq_cons (c : Cursor) : c.pending = c.node :: c.next?.elim [] pending := by
  -- The next node is the first child, or else the first node to the right of the way back.
  obtain ⟨node, above⟩ := c
  rw [pending, Node.preorder_eq_cons, List.cons_append, next?]
  congr 1
  cases h : node.children with
  | nil => simp [firstChild?, h, pending_nextUp?]
  | cons first rest => simp [firstChild?, h, pending]

/-- A walk visits what is pending, as far as it goes. -/
theorem walk_eq_take (fuel : Nat) (c : Option Cursor) :
    walk fuel c = (c.elim [] pending).take fuel := by
  induction fuel generalizing c with
  | zero => rfl
  | succ fuel ih =>
    cases c with
    | none => rfl
    | some c => rw [walk, ih, Option.elim_some, pending_eq_cons, List.take_succ_cons]

end Cursor

namespace Node

mutual

theorem length_preorder : (n : Node) → n.preorder.length = n.size
  | .mk l cs => by rw [preorder, List.length_cons, length_preorderAll cs, size, Nat.add_comm]

theorem length_preorderAll : (ns : List Node) → (preorderAll ns).length = sizeAll ns
  | [] => rfl
  | n :: ns => by
    rw [preorderAll, List.length_append, length_preorder n, length_preorderAll ns, sizeAll]

end

/-- **A walk is a traversal.** -/
theorem walk_eq_preorder (n : Node) : n.walk = n.preorder := by
  have hpending : (some (⟨n, []⟩ : Cursor)).elim [] Cursor.pending = n.preorder := by
    simp [Cursor.pending]
  rw [walk, Cursor.walk_eq_take, hpending, ← length_preorder, List.take_length]

theorem mem_preorder_of_mem_walk {n m : Node} (h : m ∈ n.walk) : m ∈ n.preorder :=
  walk_eq_preorder n ▸ h

/-! ## The way to a span -/

theorem mem_pathTo {start stop : Nat} {above : List Node} {n m : Node}
    (h : m ∈ pathTo start stop above n) : m ∈ n.preorder ∨ m ∈ above := by
  fun_induction pathTo start stop above n with
  | case1 above n c hcover _ ih =>
    have hc := mem_preorder_of_mem_children (mem_of_covering? hcover)
    rcases ih h with h | h
    · exact .inl (mem_preorder_trans hc h)
    · rcases List.mem_cons.1 h with rfl | h
      · exact .inl (mem_preorder_self _)
      · exact .inr h
  | case2 above n hcover =>
    rcases List.mem_cons.1 h with rfl | h
    · exact .inl (mem_preorder_self _)
    · exact .inr h

/-! ## Flaws -/

/-- Every node above a flaw is flagged, and so is the flawed node. -/
def Flagged (n : Node) : Prop :=
  ∀ m ∈ n.preorder, (∃ k ∈ m.preorder, k.flaw.isSome = true) → m.flawed = true

theorem flawsAll_eq_flatMap (ns : List Node) : flawsAll ns = ns.flatMap flaws := by
  induction ns with
  | nil => rfl
  | cons n ns ih => rw [flawsAll, ih, List.flatMap_cons]

theorem flaws_eq (n : Node) :
    n.flaws = [n].filter (·.flaw.isSome) ++ if n.flawed then n.children.flatMap flaws else [] := by
  cases n with
  | mk l cs =>
    rw [flaws, flawsAll_eq_flatMap, List.filter_cons, List.filter_nil]
    show (if l.flawed then (if l.flaw.isSome then [mk l cs] else []) ++ cs.flatMap flaws
      else if l.flaw.isSome then [mk l cs] else []) =
      (if l.flaw.isSome then [mk l cs] else []) ++ if l.flawed then cs.flatMap flaws else []
    cases l.flawed <;> simp

theorem filter_preorder_eq (n : Node) : n.preorder.filter (·.flaw.isSome) =
    [n].filter (·.flaw.isSome) ++ n.children.flatMap fun c =>
      c.preorder.filter (·.flaw.isSome) := by
  rw [preorder_eq_cons, ← List.singleton_append, List.filter_append, List.filter_flatMap]

theorem flaws_sublist (n : Node) : n.flaws.Sublist (n.preorder.filter (·.flaw.isSome)) := by
  induction n using children_induction with
  | step n ih =>
    rw [flaws_eq, filter_preorder_eq]
    refine (List.Sublist.refl _).append ?_
    split
    · exact .flatMap_right n.children ih
    · exact List.nil_sublist _

/-- Every node above a flaw is flagged; a node without children need not be, even if it is flawed
itself. -/
def FlagsAbove (n : Node) : Prop :=
  ∀ m ∈ n.preorder, ∀ c ∈ m.children, (∃ k ∈ c.preorder, k.flaw.isSome = true) → m.flawed = true

theorem Flagged.flagsAbove {n : Node} (h : n.Flagged) : n.FlagsAbove := by
  rintro m hm c hc ⟨k, hk, hflaw⟩
  exact h m hm ⟨k, mem_preorder_trans (mem_preorder_of_mem_children hc) hk, hflaw⟩

/-- If what is above a flaw is flagged, passing over what is not flagged loses none. -/
theorem flaws_eq_filter_of_flagsAbove {n : Node} (h : n.FlagsAbove) :
    n.flaws = n.preorder.filter (·.flaw.isSome) := by
  induction n using children_induction with
  | step n ih =>
    rw [flaws_eq, filter_preorder_eq]
    congr 1
    -- A node that is not flagged has nothing flawed below it.
    split
    · refine List.flatMap_congr fun c hc => ih c hc ?_
      intro m hm
      exact h m (mem_preorder_trans (mem_preorder_of_mem_children hc) hm)
    · rename_i hflawed
      refine (List.flatMap_eq_nil_iff.2 fun c hc => List.filter_eq_nil_iff.2 fun m hm => ?_).symm
      intro hflaw
      exact hflawed (h n n.mem_preorder_self c hc ⟨m, hm, hflaw⟩)

end Node

namespace Document

/-- The number of flawed nodes of a tree. -/
def flawCount (d : Document) : Nat := d.root.preorder.countP (·.flaw.isSome)

theorem length_flaws_le (d : Document) : d.root.flaws.length ≤ d.flawCount := by
  rw [flawCount, List.countP_eq_length_filter]
  exact d.root.flaws_sublist.length_le

theorem length_flaws_of_flagged {d : Document} (h : d.root.Flagged) :
    d.root.flaws.length = d.flawCount := by
  rw [flawCount, List.countP_eq_length_filter, Node.flaws_eq_filter_of_flagsAbove h.flagsAbove]

/-! ## Elements and components -/

theorem mem_preorder_of_resolve {d : Document} {s : Span} {n : Node} (h : d.resolve s = some n) :
    n ∈ d.root.preorder := by
  unfold resolve at h
  split at h
  · cases h
  · have hmem := List.mem_of_find?_eq_some h
    rcases Node.mem_pathTo ((List.takeWhile_sublist _).subset hmem) with hmem | hmem
    · exact hmem
    · exact absurd hmem List.not_mem_nil

theorem mem_preorder_of_findElement {d : Document} {l : Locator} {n : Node}
    (h : d.findElement l = some n) : n ∈ d.root.preorder :=
  Node.mem_preorder_of_mem_walk (List.mem_of_find?_eq_some h)

end Document

theorem mem_preorder_of_functionValue {value f : Node}
    (h : functionValue value = some f) : f ∈ value.preorder := by
  unfold functionValue at h
  split at h
  · cases h
    exact Node.mem_preorder_self _
  · split at h
    · obtain ⟨arguments, harguments, h⟩ := Option.bind_eq_some_iff.1 h
      obtain ⟨first, hfirst, h⟩ := Option.bind_eq_some_iff.1 h
      rw [Option.ite_none_right_eq_some, Option.some_inj] at h
      obtain ⟨-, rfl⟩ := h
      exact Node.mem_preorder_trans (Node.mem_preorder_of_child? harguments)
        (Node.mem_preorder_of_mem_namedChildren (List.mem_of_getElem? hfirst))
    · cases h

theorem FunctionMatch.body_mem_of_of? {declaration function : Node} {f : FunctionMatch}
    (h : FunctionMatch.of? declaration function = some f) : f.body ∈ function.preorder := by
  obtain ⟨body, hbody, rfl⟩ := Option.map_eq_some_iff.1 h
  exact Node.mem_preorder_of_child? hbody

/-- The body of a function that is the value of a node's child. -/
theorem body_mem_of_child? {n declaration value function : Node} {field : String}
    {f : FunctionMatch} (hvalue : n.child? field = some value)
    (hfunction : functionValue value = some function)
    (h : FunctionMatch.of? declaration function = some f) : f.body ∈ n.preorder :=
  Node.mem_preorder_trans (Node.mem_preorder_of_child? hvalue)
    (Node.mem_preorder_trans (mem_preorder_of_functionValue hfunction)
      (FunctionMatch.body_mem_of_of? h))

namespace Document

theorem body_mem_of_functionNamed {d : Document} {name : String} {n : Node} {f : FunctionMatch}
    (h : d.functionNamed name n = some f) : f.body ∈ n.preorder := by
  unfold functionNamed at h
  split at h
  · obtain ⟨ident, -, h⟩ := Option.bind_eq_some_iff.1 h
    rw [Option.ite_none_right_eq_some] at h
    exact FunctionMatch.body_mem_of_of? h.2
  · obtain ⟨ident, -, h⟩ := Option.bind_eq_some_iff.1 h
    rw [Option.ite_none_left_eq_some] at h
    obtain ⟨value, hvalue, h⟩ := Option.bind_eq_some_iff.1 h.2
    obtain ⟨function, hfunction, h⟩ := Option.bind_eq_some_iff.1 h
    exact body_mem_of_child? hvalue hfunction h
  · cases h

theorem body_mem_of_findFunction {d : Document} {name : String} {f : FunctionMatch}
    (h : d.findFunction name = some f) : f.body ∈ d.root.preorder := by
  obtain ⟨n, hn, h⟩ := List.exists_of_findSome?_eq_some h
  exact Node.mem_preorder_trans (Node.mem_preorder_of_mem_walk hn) (body_mem_of_functionNamed h)

theorem body_mem_of_exportedFunction {n : Node} {f : FunctionMatch}
    (h : exportedFunction n = some f) : f.body ∈ n.preorder := by
  obtain ⟨declaration, hdeclaration, h⟩ := Option.bind_eq_some_iff.1 h
  refine Node.mem_preorder_trans (Node.mem_preorder_of_child? hdeclaration) ?_
  have hvariable :
      ((declaration.namedChildren.filter fun c => c.kind == "variable_declarator").findSome?
      fun declarator => do
        let function ← functionValue (← declarator.child? "value")
        FunctionMatch.of? declarator function) = some f → f.body ∈ declaration.preorder := by
    intro h
    obtain ⟨declarator, hmem, h⟩ := List.exists_of_findSome?_eq_some h
    obtain ⟨value, hvalue, h⟩ := Option.bind_eq_some_iff.1 h
    obtain ⟨function, hfunction, h⟩ := Option.bind_eq_some_iff.1 h
    exact Node.mem_preorder_trans
      (Node.mem_preorder_of_mem_namedChildren (List.mem_of_mem_filter hmem))
      (body_mem_of_child? hvalue hfunction h)
  split at h
  · exact FunctionMatch.body_mem_of_of? h
  · exact hvariable h
  · exact hvariable h
  · cases h

theorem body_mem_of_defaultExport {d : Document} {n : Node} {f : FunctionMatch}
    (hn : n ∈ d.root.preorder) (h : d.defaultExport n = some f) : f.body ∈ d.root.preorder := by
  unfold defaultExport at h
  split at h
  · cases h
  · rcases Option.or_eq_some_iff.1 h with h | ⟨-, h⟩
    · exact Node.mem_preorder_trans hn (body_mem_of_exportedFunction h)
    · obtain ⟨value, hvalue, h⟩ := Option.bind_eq_some_iff.1 h
      split at h
      · exact body_mem_of_findFunction h
      · obtain ⟨function, hfunction, h⟩ := Option.bind_eq_some_iff.1 h
        exact Node.mem_preorder_trans hn (body_mem_of_child? hvalue hfunction h)

theorem body_mem_of_capitalFunction {d : Document} {n : Node} {f : FunctionMatch}
    (h : d.capitalFunction n = some f) : f.body ∈ d.root.preorder := by
  unfold capitalFunction at h
  split at h
  · obtain ⟨name, -, h⟩ := Option.bind_eq_some_iff.1 h
    rw [Option.ite_none_right_eq_some] at h
    exact body_mem_of_findFunction (Option.eq_some_of_filter_eq_some h.2)
  · cases h

theorem body_mem_of_defaultComponent {d : Document} {f : FunctionMatch}
    (h : d.defaultComponent = some f) : f.body ∈ d.root.preorder := by
  rcases Option.or_eq_some_iff.1 h with h | ⟨-, h⟩
  · obtain ⟨n, hn, h⟩ := List.exists_of_findSome?_eq_some h
    exact body_mem_of_defaultExport (Node.mem_preorder_of_mem_walk (List.mem_of_mem_filter hn)) h
  · rcases Option.or_eq_some_iff.1 h with h | ⟨-, h⟩
    · obtain ⟨n, hn, h⟩ := List.exists_of_findSome?_eq_some h
      exact Node.mem_preorder_trans (Node.mem_preorder_of_mem_walk (List.mem_of_mem_filter hn))
        (body_mem_of_exportedFunction h)
    · obtain ⟨n, -, h⟩ := List.exists_of_findSome?_eq_some h
      exact body_mem_of_capitalFunction h

end Document

namespace Workspace

/-- **A target is a node of the tree.** -/
theorem mem_preorder_of_target? {w : Workspace} {target : Target} {n : Node}
    (h : w.target? target = some n) : n ∈ w.document.root.preorder := by
  cases target with
  | node span => exact Document.mem_preorder_of_resolve h
  | locate locator => exact Document.mem_preorder_of_findElement h

/-- **The body of a component is a node of the tree.** -/
theorem body_mem_of_component? {w : Workspace} {name : Option String} {f : FunctionMatch}
    (h : w.component? name = some f) : f.body ∈ w.document.root.preorder := by
  cases name with
  | some name => exact Document.body_mem_of_findFunction h
  | none => exact Document.body_mem_of_defaultComponent h

end Workspace

end Graft
