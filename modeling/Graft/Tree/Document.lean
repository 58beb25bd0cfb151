import Graft.Text.Offset
import Graft.Tree.Cursor

set_option autoImplicit false

/-!
# Documents

A document is a text with its syntax tree. Nodes are referred to from outside by spans: the kind of
a node and the bytes that it covers.
-/

namespace Graft

/-- A reference to a node: its kind and the bytes that it covers. -/
structure Span where
  kind : String
  start : Nat
  stop : Nat
  deriving BEq, DecidableEq, Inhabited, Repr

namespace Span

def isEmpty (s : Span) : Bool := s.start == s.stop

def render (s : Span) : String := s!"{s.kind}@{s.start}..{s.stop}"

end Span

def Node.span (n : Node) : Span := ⟨n.kind, n.start, n.stop⟩

/-- A text and its syntax tree. -/
structure Document where
  source : String
  root : Node
  deriving Inhabited

namespace Document

/-- The text that a node covers. -/
def text (d : Document) (n : Node) : String := Text.slice d.source n.start n.stop

/-- The number of bytes of the text. -/
def length (d : Document) : Nat := Text.byteLength d.source.toList

end Document

/-! ## Diagnostics -/

namespace Node

mutual

/-- The nodes with a flaw, in the order of traversal. Parts of the tree without any are passed
over. -/
def flaws : Node → List Node
  | mk l cs =>
    let own := if l.flaw.isSome then [mk l cs] else []
    if l.flawed then own ++ flawsAll cs else own

def flawsAll : List Node → List Node
  | [] => []
  | n :: ns => n.flaws ++ flawsAll ns

end

/-! ## Finding a node by its span -/

/-- Whether a node covers a range: it reaches the end of it, goes beyond its start unless it is
empty, and does not start behind it. -/
def reaches (n : Node) (start stop : Nat) : Bool :=
  stop ≤ n.stop && (if n.start == n.stop then start ≤ n.stop else start < n.stop)

/-- The child to look for a range in: the first that reaches it, if that does not start too late. -/
def covering? (start stop : Nat) (ns : List Node) : Option Node :=
  match ns.find? fun n => n.reaches start stop with
  | some n => if n.start ≤ start then some n else none
  | none => none

theorem mem_of_covering? {start stop : Nat} {ns : List Node} {n : Node}
    (h : covering? start stop ns = some n) : n ∈ ns := by
  unfold covering? at h
  split at h
  · rename_i m hm
    split at h
    · simp only [Option.some.injEq] at h
      exact h ▸ List.mem_of_find?_eq_some hm
    · simp at h
  · simp at h

/-- The deepest node that covers a range, and the nodes above it, deepest first. -/
def pathTo (start stop : Nat) (above : List Node) (n : Node) : List Node :=
  match h : covering? start stop n.children with
  | some c =>
    have := sizeOf_lt_of_mem_children (mem_of_covering? h)
    pathTo start stop (n :: above) c
  | none => n :: above
termination_by sizeOf n

end Node

namespace Document

/-- The node that a span refers to: of the nodes that cover exactly its range, the deepest one of
its kind. -/
def resolve (d : Document) (s : Span) : Option Node :=
  if s.stop < s.start || d.length < s.stop then none
  else ((d.root.pathTo s.start s.stop []).takeWhile fun n => n.start == s.start && n.stop == s.stop).find?
    fun n => n.kind == s.kind

end Document

end Graft
