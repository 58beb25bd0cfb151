import Graft.Tree.Node

set_option autoImplicit false

/-!
# Walking a tree

A cursor stands on a node and remembers the way back. Walking means going to the first child where
there is one, else to the next sibling, else to the next sibling of the closest node above that has
one.
-/

namespace Graft

/-- A place above a cursor: the node there and the siblings to the right of the way taken. -/
structure Crumb where
  parent : Node
  right : List Node

/-- A node with the way back to the root, closest first. -/
structure Cursor where
  node : Node
  above : List Crumb := []

namespace Cursor

def firstChild? (c : Cursor) : Option Cursor :=
  match c.node.children with
  | [] => none
  | first :: rest => some ⟨first, ⟨c.node, rest⟩ :: c.above⟩

def nextSibling? (c : Cursor) : Option Cursor :=
  match c.above with
  | ⟨parent, next :: rest⟩ :: above => some ⟨next, ⟨parent, rest⟩ :: above⟩
  | _ => none

def parent? (c : Cursor) : Option Cursor :=
  match c.above with
  | ⟨parent, _⟩ :: above => some ⟨parent, above⟩
  | [] => none

/-- The next sibling of a cursor, else of the closest node above it that has one. -/
def nextUp? : List Crumb → Option Cursor
  | [] => none
  | ⟨parent, next :: rest⟩ :: above => some ⟨next, ⟨parent, rest⟩ :: above⟩
  | ⟨_, []⟩ :: above => nextUp? above

/-- The next node of the walk. -/
def next? (c : Cursor) : Option Cursor := c.firstChild?.or (nextUp? c.above)

/-- At most `fuel` nodes of the walk. -/
def walk : Nat → Option Cursor → List Node
  | 0, _ => []
  | _ + 1, none => []
  | fuel + 1, some c => c.node :: walk fuel c.next?

end Cursor

/-- The nodes that a walk from this node visits. -/
def Node.walk (n : Node) : List Node := Cursor.walk n.size (some ⟨n, []⟩)

end Graft
