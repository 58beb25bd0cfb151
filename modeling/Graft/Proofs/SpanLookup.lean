import Graft.Proofs.TreeRanges
import Mathlib.Data.List.TakeWhile

set_option autoImplicit false

/-!
# Finding a node by its span

The way down to a range that is not empty passes through every node that covers it: children lie one
behind the other, so the first child that reaches the range is the only one that can cover it. The
nodes with exactly a range therefore stand in a row at the end of the way, and a span finds the
deepest of its kind among them (`Document.resolve_deepest`).
-/

namespace Graft

namespace Node

/-- Whether a node covers a range. -/
def Covers (n : Node) (start stop : Nat) : Prop := n.start ≤ start ∧ stop ≤ n.stop

/-! ## One step down -/

theorem covers_of_covering? {start stop : Nat} {ns : List Node} {c : Node}
    (h : covering? start stop ns = some c) : c.Covers start stop := by
  unfold covering? at h
  split at h
  · rename_i n hn
    split at h
    · rename_i hstart
      cases h
      have hreaches := List.find?_some hn
      simp only [reaches, Bool.and_eq_true, decide_eq_true_eq] at hreaches
      exact ⟨hstart, hreaches.1⟩
    · cases h
  · cases h

theorem reaches_of_covers {n : Node} {start stop : Nat} (hfilled : start < stop)
    (h : n.Covers start stop) : n.reaches start stop = true := by
  obtain ⟨hstart, hstop⟩ := h
  have hne : n.start ≠ n.stop := by omega
  simp only [reaches, Bool.and_eq_true, decide_eq_true_eq, beq_iff_eq, if_neg hne]
  omega

/-- Of nodes one behind the other, the one that covers a range is the first to reach it. -/
theorem covering?_eq_some {start stop : Nat} (hfilled : start < stop) {ns : List Node}
    (hapart : ns.Pairwise fun a b => a.stop ≤ b.start) {c : Node} (hc : c ∈ ns)
    (h : c.Covers start stop) : covering? start stop ns = some c := by
  have hfind : ns.find? (fun n => n.reaches start stop) = some c := by
    induction ns with
    | nil => exact absurd hc List.not_mem_nil
    | cons n ns ih =>
      obtain ⟨hbehind, hapart⟩ := List.pairwise_cons.1 hapart
      rcases List.mem_cons.1 hc with rfl | hc
      · exact List.find?_cons_of_pos (reaches_of_covers hfilled h)
      · -- A node before `c` ends before the range does.
        have hshort : n.stop < stop := by
          have hstop := hbehind c hc
          have hstart := h.1
          omega
        rw [List.find?_cons_of_neg, ih hapart hc]
        simp only [reaches, Bool.and_eq_true, decide_eq_true_eq]
        omega
  simp only [covering?, hfind, if_pos h.1]

/-! ## The whole way -/

theorem pathTo_append (start stop : Nat) (above : List Node) (n : Node) :
    pathTo start stop above n = pathTo start stop [] n ++ above := by
  induction n using children_induction generalizing above with
  | step n ih =>
    rw [pathTo, pathTo.eq_def start stop []]
    split
    · rename_i c hcover
      have hc := mem_of_covering? hcover
      rw [ih c hc (n :: above), ih c hc [n], List.append_assoc, List.singleton_append]
    · rfl

/-- The way down to a range from a node: what comes below it, and the node itself. -/
theorem pathTo_eq (start stop : Nat) (n : Node) :
    pathTo start stop [] n =
      (covering? start stop n.children).elim [] (pathTo start stop []) ++ [n] := by
  rw [pathTo]
  split
  · rename_i c hcover
    simp only [hcover, Option.elim_some]
    exact pathTo_append start stop [n] c
  · rename_i hcover
    simp only [hcover, Option.elim_none, List.nil_append]

theorem mem_pathTo_self (start stop : Nat) (n : Node) : n ∈ pathTo start stop [] n := by
  rw [pathTo_eq]
  exact List.mem_append_right _ (List.mem_singleton_self n)

/-- Every node on the way covers the range if the first one does. -/
theorem covers_of_mem_pathTo {start stop : Nat} {n m : Node} (hn : n.Covers start stop)
    (hm : m ∈ pathTo start stop [] n) : m.Covers start stop := by
  induction n using children_induction with
  | step n ih =>
    rw [pathTo_eq] at hm
    rcases List.mem_append.1 hm with hm | hm
    · cases hcover : covering? start stop n.children with
      | none =>
        rw [hcover] at hm
        exact absurd hm List.not_mem_nil
      | some c =>
        rw [hcover] at hm
        exact ih c (mem_of_covering? hcover) (covers_of_covering? hcover) hm
    · rwa [List.mem_singleton.1 hm]

end Node

namespace Document

/-- **The way down passes through every node that covers the range.** -/
theorem Ordered.exists_pathTo_eq {d : Document} (h : d.Ordered) {start stop : Nat}
    (hfilled : start < stop) {n m : Node} (hn : n ∈ d.root.preorder) (hm : m ∈ n.preorder)
    (hcovers : m.Covers start stop) :
    ∃ rest, n.pathTo start stop [] = m.pathTo start stop [] ++ rest := by
  induction n using Node.children_induction with
  | step n ih =>
    rcases Node.mem_preorder_iff.1 hm with rfl | ⟨c, hc, hm⟩
    · exact ⟨[], (List.append_nil _).symm⟩
    · have hmem := Node.mem_preorder_trans hn (Node.mem_preorder_of_mem_children hc)
      obtain ⟨rest, hrest⟩ := ih c hc hmem hm
      -- What covers the range below a child makes the child cover it.
      have hinside := h.range_of_mem hmem hm
      have hchild : c.Covers start stop := ⟨hinside.1.trans hcovers.1, hcovers.2.trans hinside.2⟩
      refine ⟨rest ++ [n], ?_⟩
      rw [Node.pathTo_eq, Node.covering?_eq_some hfilled (h.apart n hn) hc hchild, Option.elim_some,
        hrest, List.append_assoc]

/-! ## Spans -/

theorem resolve_eq_some {d : Document} {s : Span} {n : Node} (h : d.resolve s = some n) :
    n ∈ d.root.preorder ∧ n.span = s := by
  refine ⟨mem_preorder_of_resolve h, ?_⟩
  unfold resolve at h
  split at h
  · cases h
  · have hrange := List.mem_takeWhile_imp (List.mem_of_find?_eq_some h)
    have hkind := List.find?_some h
    simp only [Bool.and_eq_true, beq_iff_eq] at hrange hkind
    simp only [Node.span, hkind, hrange.1, hrange.2]

/-- The span of a node finds the node, or one of the same kind and range below it. -/
theorem Ordered.exists_resolve_span {d : Document} (h : d.Ordered)
    (hlength : d.root.stop ≤ d.length) {m : Node} (hm : m ∈ d.root.preorder)
    (hfilled : m.start < m.stop) : ∃ n ∈ m.preorder, d.resolve m.span = some n := by
  obtain ⟨rest, hpath⟩ :=
    h.exists_pathTo_eq hfilled d.root.mem_preorder_self hm ⟨Nat.le_refl _, Nat.le_refl _⟩
  -- On the way from `m` down all nodes lie inside `m` and cover its range.
  have hexact : ∀ n ∈ m.pathTo m.start m.stop [], (n.start == m.start && n.stop == m.stop) =
      true := by
    intro n hn
    have hcovers := Node.covers_of_mem_pathTo ⟨Nat.le_refl _, Nat.le_refl _⟩ hn
    have hbelow := (Node.mem_pathTo hn).resolve_right List.not_mem_nil
    have hinside := h.range_of_mem hm hbelow
    obtain ⟨hstart, hstop⟩ := hcovers
    simp only [Bool.and_eq_true, beq_iff_eq]
    omega
  have hkind : (m.pathTo m.start m.stop []).find? (fun n => n.kind == m.kind) ≠ none := by
    intro hnone
    exact List.find?_eq_none.1 hnone m (Node.mem_pathTo_self _ _ m) (beq_self_eq_true m.kind)
  obtain ⟨n, hn⟩ := Option.ne_none_iff_exists'.1 hkind
  refine ⟨n, (Node.mem_pathTo (List.mem_of_find?_eq_some hn)).resolve_right List.not_mem_nil, ?_⟩
  have hordered : m.span.start ≤ m.span.stop := Nat.le_of_lt hfilled
  have hinside : m.span.stop ≤ d.length :=
    (h.range_of_mem d.root.mem_preorder_self hm).2.trans hlength
  have hgood : ¬(decide (m.span.stop < m.span.start) || decide (d.length < m.span.stop)) =
      true := by
    simp only [Bool.or_eq_true, decide_eq_true_eq]
    omega
  rw [resolve, if_neg hgood]
  simp only [Node.span, hpath, List.takeWhile_append_of_pos hexact,
    List.find?_append, hn, Option.some_or]

/-- **A span finds the deepest node of its kind and range.** In a tree that lies in its text, a span
that is not empty finds a node exactly if there is one of its kind with its range, and of several
the one below all others. So the span of a node that is not empty finds a node with this span. -/
theorem resolve_deepest (d : Document) (h : d.Ordered) (hlength : d.root.stop ≤ d.length) :
    (∀ s : Span, s.start < s.stop →
      ((d.resolve s).isSome = true ↔ ∃ n ∈ d.root.preorder, n.span = s) ∧
      ∀ n, d.resolve s = some n →
        n ∈ d.root.preorder ∧ n.span = s ∧ ∀ m ∈ d.root.preorder, m.span = s → n ∈ m.preorder) ∧
    ∀ n ∈ d.root.preorder, n.start < n.stop → ∃ m, d.resolve n.span = some m ∧ m.span = n.span := by
  refine ⟨fun s hfilled => ⟨⟨?_, ?_⟩, ?_⟩, ?_⟩
  · intro hsome
    obtain ⟨n, hn⟩ := Option.isSome_iff_exists.1 hsome
    exact ⟨n, resolve_eq_some hn⟩
  · rintro ⟨m, hm, rfl⟩
    obtain ⟨n, -, hn⟩ := h.exists_resolve_span hlength hm hfilled
    rw [hn, Option.isSome_some]
  · intro n hn
    obtain ⟨hmem, hspan⟩ := resolve_eq_some hn
    refine ⟨hmem, hspan, ?_⟩
    rintro m hm rfl
    obtain ⟨k, hk, hresolve⟩ := h.exists_resolve_span hlength hm hfilled
    rw [hn, Option.some_inj] at hresolve
    rwa [hresolve]
  · intro n hn hfilled
    obtain ⟨m, -, hm⟩ := h.exists_resolve_span hlength hn hfilled
    exact ⟨m, hm, (resolve_eq_some hm).2⟩

end Document

/-- A name as a statement: the program and the statement have the same range, and the semicolon
starts where the name ends. -/
def nameStatement : Document where
  source := "a;"
  root := .mk { kind := "program", start := 0, stop := 2 } [
    .mk { kind := "expression_statement", start := 0, stop := 2 } [
      .mk { kind := "identifier", start := 0, stop := 1 } [],
      .mk { kind := ";", named := false, start := 1, stop := 2 } []]]

theorem resolve_deepest_nameStatement :
    nameStatement.Ordered ∧ nameStatement.root.stop ≤ nameStatement.length ∧
      (∃ n, nameStatement.resolve ⟨"program", 0, 2⟩ = some n ∧ n.span = ⟨"program", 0, 2⟩) ∧
      ((nameStatement.resolve ⟨"identifier", 0, 2⟩).isSome = true ↔
        ∃ n ∈ nameStatement.root.preorder, n.span = ⟨"identifier", 0, 2⟩) := by
  have hordered : nameStatement.Ordered := by decide
  have hlength : nameStatement.root.stop ≤ nameStatement.length := by decide
  obtain ⟨hspans, hnodes⟩ := Document.resolve_deepest nameStatement hordered hlength
  exact ⟨hordered, hlength, hnodes _ (Node.mem_preorder_self _) (by decide),
    (hspans ⟨"identifier", 0, 2⟩ (by decide)).1⟩

end Graft
