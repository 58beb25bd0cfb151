import Graft.Query.Schema
import Graft.Text.Regex.Reader

set_option autoImplicit false

/-!
# Query steps

A query has one or more patterns. A pattern is a row of steps, each of which asks for a node at some
depth below the start of the match. Optional and repeated parts and alternatives are steps that
branch off to others.
-/

namespace Graft.Query

structure Step where
  /-- How far below the start of the match the node is; none at the end of a pattern. -/
  depth : Option Nat
  /-- The kind of node that is asked for, if not any. -/
  kind : Option Kind := none
  /-- Where any kind will do, whether the node has to be named. -/
  named : Bool := false
  /-- The node has to be one that is missing from the text. -/
  missing : Bool := false
  family : Option String := none
  field : Option String := none
  /-- Fields that the node must not have. -/
  absent : List String := []
  captures : List Nat := []
  /-- No named node may stand between this one and the one before. -/
  immediate : Bool := false
  /-- No named node may follow. -/
  last : Bool := false
  /-- Another step to go on with. -/
  alternative : Option Nat := none
  /-- The other step is for the very next node. -/
  alternativeImmediate : Bool := false
  /-- The step only leads to the other one. -/
  deadEnd : Bool := false
  /-- The step leads both to the other one and to the one behind it. -/
  passThrough : Bool := false
  /-- Whether anything is captured here or below. -/
  capturing : Bool := false
  /-- Whether the step cannot fail once the node above has been found. -/
  certain : Bool := false
  deriving Inhabited

namespace Step

/-- The end of a pattern. -/
def done : Step := { depth := none, certain := true }

def isDone (s : Step) : Bool := s.depth.isNone

/-- Whether the node has to be one that no rule accounts for. -/
def asksForError (s : Step) : Bool := s.kind.any (·.name == "ERROR")

/-- At most this many captures can be put on one step. -/
def captureLimit : Nat := 3

def addCapture (s : Step) (id : Nat) : Step :=
  if s.captures.length < captureLimit then { s with captures := s.captures ++ [id] } else s

/-- Whether the step lies deeper than a depth. -/
def isBelow (s : Step) (depth : Nat) : Bool := s.depth.any (depth < ·)

end Step

/-- Where a pattern can begin. -/
structure Entry where
  step : Nat
  pattern : Nat
  /-- Whether the pattern is one node with all it has below. -/
  rooted : Bool
  deriving Inhabited

/-- An argument of a predicate. -/
inductive Argument where
  | capture (id : Nat)
  | text (value : String)
  deriving BEq, DecidableEq, Inhabited, Repr

/-- A condition on the text of captures. `positive` says whether it has to hold or to fail, and `all`
whether that goes for all nodes or for any. -/
inductive Condition where
  | sameText (left right : Nat) (positive all : Bool)
  | hasText (capture : Nat) (text : String) (positive all : Bool)
  | fits (capture : Nat) (expression : Text.Regex) (positive all : Bool)
  | oneOf (capture : Nat) (texts : List String) (positive : Bool)

/-- What is wrong with a query, mostly with the byte offset where. -/
inductive Fault where
  | malformed (offset : Nat)
  | unknownKind (offset : Nat)
  | unknownField (offset : Nat)
  | unknownCapture (offset : Nat)
  | impossible (offset : Nat)
  | predicate (row : Nat) (reason : String)
  deriving BEq, DecidableEq, Inhabited, Repr

end Graft.Query
