set_option autoImplicit false

/-!
# Syntax trees

A node of a syntax tree has a kind, the bytes of the text that it covers, and its children in the
order of the text. Nodes for punctuation and keywords are there too; they are the ones without a
name.
-/

namespace Graft

/-- What may be wrong with a node. -/
inductive Flaw where
  /-- Text that no rule accounts for. -/
  | error
  /-- Something that is not in the text but should be. -/
  | missing
  deriving BEq, DecidableEq, Inhabited, Repr

/-- What a node is, apart from its children. -/
structure NodeLabel where
  /-- A number that no other node of the tree has. -/
  id : Nat := 0
  kind : String
  /-- Whether the node stands for a rule of the grammar and not for a fixed spelling. -/
  named : Bool := true
  /-- The part that the node plays in its parent. -/
  field : Option String := none
  /-- The families of kinds that the node is counted to at its place. -/
  families : List String := []
  /-- Whether a named node follows in the innermost group of nodes that goes on behind this one. -/
  followed : Bool := false
  /-- Whether the rules let a node further on play the same part. -/
  fieldRecurs : Bool := false
  /-- The byte offset where the node starts. -/
  start : Nat
  /-- The byte offset where the node ends. -/
  stop : Nat
  flaw : Option Flaw := none
  /-- Whether anything is wrong in the node or below it. -/
  flawed : Bool := false
  /-- Whether the node may stand anywhere, as comments do. -/
  extra : Bool := false
  deriving BEq, DecidableEq, Inhabited, Repr

/-- A node of a syntax tree. -/
inductive Node where
  | mk (label : NodeLabel) (children : List Node)
  deriving Inhabited

namespace Node

def label : Node → NodeLabel
  | mk l _ => l

def children : Node → List Node
  | mk _ cs => cs

def id (n : Node) : Nat := n.label.id

def kind (n : Node) : String := n.label.kind

def named (n : Node) : Bool := n.label.named

def field (n : Node) : Option String := n.label.field

def families (n : Node) : List String := n.label.families

def followed (n : Node) : Bool := n.label.followed

def fieldRecurs (n : Node) : Bool := n.label.fieldRecurs

def start (n : Node) : Nat := n.label.start

def stop (n : Node) : Nat := n.label.stop

def flaw (n : Node) : Option Flaw := n.label.flaw

def flawed (n : Node) : Bool := n.label.flawed

def extra (n : Node) : Bool := n.label.extra

@[simp] theorem label_mk (l : NodeLabel) (cs : List Node) : (mk l cs).label = l := rfl

@[simp] theorem children_mk (l : NodeLabel) (cs : List Node) : (mk l cs).children = cs := rfl

theorem sizeOf_lt_of_mem_children {n c : Node} (h : c ∈ n.children) : sizeOf c < sizeOf n := by
  cases n with
  | mk l cs =>
    have := List.sizeOf_lt_of_mem h
    simp only [children_mk, mk.sizeOf_spec] at *
    omega

def namedChildren (n : Node) : List Node := n.children.filter (·.named)

/-- The first child that plays the given part. -/
def child? (n : Node) (field : String) : Option Node := n.children.find? fun c => c.field == some field

/-! ## Traversal -/

mutual

/-- The node and everything below it, parents before children and left before right. -/
def preorder : Node → List Node
  | mk l cs => mk l cs :: preorderAll cs

/-- The traversals of several nodes, one after the other. -/
def preorderAll : List Node → List Node
  | [] => []
  | n :: ns => n.preorder ++ preorderAll ns

end

mutual

/-- The number of nodes of a tree. -/
def size : Node → Nat
  | mk _ cs => 1 + sizeAll cs

def sizeAll : List Node → Nat
  | [] => 0
  | n :: ns => n.size + sizeAll ns

end

mutual

/-- Number the nodes in the order of traversal, from `next` on, and give the next free number. -/
def numbered (next : Nat) : Node → Node × Nat
  | mk l cs =>
    let (cs, after) := numberedAll (next + 1) cs
    (mk { l with id := next } cs, after)

def numberedAll (next : Nat) : List Node → List Node × Nat
  | [] => ([], next)
  | n :: ns =>
    let (n, next) := n.numbered next
    let (ns, next) := numberedAll next ns
    (n :: ns, next)

end

end Node

end Graft
