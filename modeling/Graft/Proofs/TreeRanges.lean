import Graft.Proofs.Traversal

set_option autoImplicit false

/-!
# Ranges in a tree

The children of a node lie inside it, one behind the other. So two nodes of a tree lie apart in the
text unless one is below the other. A block of statements starts with a brace of its own, so no
other block starts where it does.
-/

namespace Graft

/-! ## Trees -/

/-- Different nodes of a row lie apart. -/
theorem Node.apart_of_mem {ns : List Node} (h : ns.Pairwise fun a b => a.stop ≤ b.start)
    {a b : Node} (ha : a ∈ ns) (hb : b ∈ ns) (hne : a ≠ b) :
    a.stop ≤ b.start ∨ b.stop ≤ a.start := by
  have hsymm : Std.Symm fun a b : Node => a.stop ≤ b.start ∨ b.stop ≤ a.start :=
    ⟨fun _ _ => Or.symm⟩
  have hpairs : ns.Pairwise fun a b => a.stop ≤ b.start ∨ b.stop ≤ a.start := h.imp .inl
  exact hpairs.forall ha hb hne

/-- Children lie inside their parent, one behind the other. -/
structure Document.Ordered (d : Document) : Prop where
  ordered : ∀ n ∈ d.root.preorder, n.start ≤ n.stop
  inside : ∀ n ∈ d.root.preorder, ∀ c ∈ n.children, n.start ≤ c.start ∧ c.stop ≤ n.stop
  apart : ∀ n ∈ d.root.preorder, n.children.Pairwise fun a b => a.stop ≤ b.start

instance (d : Document) : Decidable d.Ordered :=
  decidable_of_iff
    ((∀ n ∈ d.root.preorder, n.start ≤ n.stop) ∧
      (∀ n ∈ d.root.preorder, ∀ c ∈ n.children, n.start ≤ c.start ∧ c.stop ≤ n.stop) ∧
      ∀ n ∈ d.root.preorder, n.children.Pairwise fun a b => a.stop ≤ b.start)
    ⟨fun h => ⟨h.1, h.2.1, h.2.2⟩, fun h => ⟨h.ordered, h.inside, h.apart⟩⟩

namespace Document.Ordered

variable {d : Document} (h : d.Ordered)

include h

/-- What is below a node lies inside it. -/
theorem range_of_mem {n m : Node} (hn : n ∈ d.root.preorder) (hm : m ∈ n.preorder) :
    n.start ≤ m.start ∧ m.stop ≤ n.stop := by
  induction n using Node.children_induction with
  | step n ih =>
    rcases Node.mem_preorder_iff.1 hm with rfl | ⟨c, hc, hm⟩
    · exact ⟨Nat.le_refl _, Nat.le_refl _⟩
    · have hchild := h.inside n hn c hc
      have hbelow := ih c hc (Node.mem_preorder_trans hn (Node.mem_preorder_of_mem_children hc)) hm
      omega

/-- Different children of a node lie apart. -/
theorem children_apart {n a b : Node} (hn : n ∈ d.root.preorder) (ha : a ∈ n.children)
    (hb : b ∈ n.children) (hne : a ≠ b) : a.stop ≤ b.start ∨ b.stop ≤ a.start :=
  Node.apart_of_mem (h.apart n hn) ha hb hne

/-- **Two nodes lie apart unless one is below the other.** -/
theorem laminar {n a b : Node} (hn : n ∈ d.root.preorder) (ha : a ∈ n.preorder)
    (hb : b ∈ n.preorder) :
    a ∈ b.preorder ∨ b ∈ a.preorder ∨ a.stop ≤ b.start ∨ b.stop ≤ a.start := by
  induction n using Node.children_induction with
  | step n ih =>
    rcases Node.mem_preorder_iff.1 ha with rfl | ⟨c, hc, hac⟩
    · exact .inr (.inl hb)
    rcases Node.mem_preorder_iff.1 hb with rfl | ⟨c', hc', hbc⟩
    · exact .inl ha
    have hmem : ∀ c ∈ n.children, c ∈ d.root.preorder :=
      fun c hc => Node.mem_preorder_trans hn (Node.mem_preorder_of_mem_children hc)
    by_cases hsame : c = c'
    · exact ih c hc (hmem c hc) hac (hsame ▸ hbc)
    · have hapart := h.children_apart hn hc hc' hsame
      have hinside := h.range_of_mem (hmem c hc) hac
      have hinside' := h.range_of_mem (hmem c' hc') hbc
      omega

theorem namedChildren_apart {n : Node} (hn : n ∈ d.root.preorder) :
    n.namedChildren.Pairwise fun a b => a.stop ≤ b.start :=
  (h.apart n hn).sublist List.filter_sublist

end Document.Ordered

/-! ## Blocks -/

/-- Whether the first child is an opening brace. -/
def Node.startsWithBrace (n : Node) : Bool :=
  n.children.head?.any fun c => c.kind == "\x7b" && c.start == n.start &&
    c.stop == n.start + 1 && c.children.isEmpty

/-- Children are ordered, blocks of statements start with a brace, and return statements are not
empty. -/
structure Document.Nested (d : Document) : Prop extends d.Ordered where
  braced : ∀ n ∈ d.root.preorder, n.kind = "statement_block" → n.startsWithBrace = true
  filled : ∀ n ∈ d.root.preorder, n.kind = "return_statement" → n.start < n.stop

instance (d : Document) : Decidable d.Nested :=
  decidable_of_iff
    (d.Ordered ∧
      (∀ n ∈ d.root.preorder, n.kind = "statement_block" → n.startsWithBrace = true) ∧
      ∀ n ∈ d.root.preorder, n.kind = "return_statement" → n.start < n.stop)
    ⟨fun h => ⟨h.1, h.2.1, h.2.2⟩, fun h => ⟨h.toOrdered, h.braced, h.filled⟩⟩

theorem Node.startsWithBrace_iff {n : Node} :
    n.startsWithBrace = true ↔ ∃ brace rest, n.children = brace :: rest ∧
    brace.kind = "\x7b" ∧ brace.start = n.start ∧ brace.stop = n.start + 1 ∧
      brace.children = [] := by
  unfold startsWithBrace
  cases n.children with
  | nil => simp
  | cons brace rest => simp [and_assoc]

namespace Document.Nested

variable {d : Document} (h : d.Nested)

include h

theorem block_filled {n : Node} (hn : n ∈ d.root.preorder)
    (hkind : n.kind = "statement_block") : n.start < n.stop := by
  obtain ⟨brace, rest, hchildren, -, -, hstop, -⟩ :=
    Node.startsWithBrace_iff.1 (h.braced n hn hkind)
  have := (h.inside n hn brace (hchildren ▸ List.mem_cons_self)).2
  omega

/-- A block that is below another one does not start with it. -/
theorem eq_of_mem_block {n m : Node} (hn : n ∈ d.root.preorder) (hm : m ∈ n.preorder)
    (hkind : n.kind = "statement_block") (hkind' : m.kind = "statement_block")
    (hstart : n.start = m.start) : n = m := by
  rcases Node.mem_preorder_iff.1 hm with rfl | ⟨c, hc, hm⟩
  · rfl
  obtain ⟨brace, rest, hchildren, hbrace, -, hstop, hleaf⟩ :=
    Node.startsWithBrace_iff.1 (h.braced n hn hkind)
  have hbelow := h.toOrdered.range_of_mem
    (Node.mem_preorder_trans hn (Node.mem_preorder_of_mem_children hc)) hm
  have hapart := h.apart n hn
  rw [hchildren] at hc hapart
  rcases List.mem_cons.1 hc with rfl | hc
  · -- There is nothing below the brace, and the brace is no block.
    rw [Node.mem_preorder_iff, hleaf] at hm
    rcases hm with rfl | ⟨_, hnone, -⟩
    · rw [hbrace] at hkind'
      exact absurd hkind' (by decide)
    · exact absurd hnone List.not_mem_nil
  · have := (List.pairwise_cons.1 hapart).1 c hc
    omega

/-- **A block of statements is known by its start.** -/
theorem eq_of_block_start {n m : Node} (hn : n ∈ d.root.preorder) (hm : m ∈ d.root.preorder)
    (hkind : n.kind = "statement_block") (hkind' : m.kind = "statement_block")
    (hstart : n.start = m.start) : n = m := by
  have hfilled := h.block_filled hn hkind
  have hfilled' := h.block_filled hm hkind'
  rcases h.toOrdered.laminar d.root.mem_preorder_self hn hm with hbelow | hbelow | hapart | hapart
  · exact (h.eq_of_mem_block hm hbelow hkind' hkind hstart.symm).symm
  · exact h.eq_of_mem_block hn hbelow hkind hkind' hstart
  · omega
  · omega

end Document.Nested

end Graft
