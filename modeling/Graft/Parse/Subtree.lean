import Graft.Automaton.Table
import Graft.Lexicon.Scanner

set_option autoImplicit false

/-!
# Subtrees

What the parser has put together so far. A subtree has all the symbols of the grammar, hidden ones
too, and counts what went wrong inside it, so that competing readings of a text can be compared.
-/

namespace Graft.Parse

open Graft.Automaton Graft.Grammar

/-! ## The language -/

/-- Everything that parsing depends on. -/
structure Language where
  grammar : Grammar.Syntax
  table : Table
  scanner : Lexicon.Scanner
  /-- The mode of the scanner that knows the keywords. -/
  keywordMode : Nat
  /-- The code of the token that words are read as. -/
  word : Nat
  /-- For every symbol code, whether it has a node of its own. -/
  visible : Array Bool
  /-- The codes of the tokens in the order in which they are tried. -/
  order : Array Nat
  /-- For every symbol code, its place in the order. -/
  rank : Array Nat

/-- What a subtree stands for. -/
inductive Kind where
  | symbol (code : Nat)
  /-- Text that no rule accounts for. -/
  | error
  /-- A part of such text, while it is being skipped. -/
  | skipped
  deriving BEq, DecidableEq, Inhabited

namespace Kind

def isVisible (l : Language) : Kind → Bool
  | symbol code => l.visible.getD code false
  | error => true
  | skipped => false

/-- The order of kinds, which decides between readings that nothing else tells apart. -/
def rank (l : Language) : Kind → Nat
  | symbol code => l.rank.getD code 0
  | skipped => l.rank.size + 1
  | error => l.rank.size + 2

end Kind

/-! ## Costs of errors -/

def recoveryCost : Nat := 500
def missingCost : Nat := 110
def skippedTreeCost : Nat := 100
def skippedByteCost : Nat := 1
def skippedLineCost : Nat := 30

/-! ## Subtrees -/

/-- What is known about a subtree besides its children. Places count characters; `outer` is where
the blanks in front of it begin. -/
structure Summary where
  kind : Kind
  outer : Nat
  start : Nat
  stop : Nat
  /-- It may stand anywhere and is no part of the rule around it. -/
  extra : Bool := false
  /-- It is not in the text but was put in to go on. -/
  missing : Bool := false
  /-- It was read as a word before it was recognised. -/
  keyword : Bool := false
  /-- The names that it gives to its children, by number. -/
  labels : Nat := 0
  cost : Nat := 0
  dynamic : Int := 0
  visibleChildren : Nat := 0
  visibleDescendants : Nat := 0
  deriving Inhabited

inductive Subtree where
  | mk (summary : Summary) (children : Array Subtree)
  deriving Inhabited

namespace Subtree

def summary : Subtree → Summary
  | mk s _ => s

def children : Subtree → Array Subtree
  | mk _ cs => cs

def kind (t : Subtree) : Kind := t.summary.kind

def setExtra (t : Subtree) (extra : Bool) : Subtree := mk { t.summary with extra } t.children

def isError (t : Subtree) : Bool := t.kind == .error

/-- The cost of the errors in a subtree. -/
def cost (t : Subtree) : Nat := if t.summary.missing then missingCost + recoveryCost else t.summary.cost

/-- A token. -/
def leaf (code outer start stop : Nat) : Subtree := mk { kind := .symbol code, outer, start, stop } #[]

/-- What one child adds to the counts of its parent; `index` is its place among the children that
are no extras. -/
def addChild (l : Language) (parent : Kind) (labels : Labels) (acc : Summary × Nat)
    (child : Subtree) : Summary × Nat :=
  let (s, index) := acc
  let c := child.summary
  let bare := child.children.isEmpty
  let broken := parent == .error || parent == .skipped
  let visible := c.kind.isVisible l
  let ownCost := if c.kind == .skipped then 0 else child.cost
  let skippedCost :=
    if broken && !c.extra && !(child.isError && bare) then
      if visible then skippedTreeCost else if bare then 0 else skippedTreeCost * c.visibleChildren
    else 0
  let named := !c.extra && (labels.aliases.getD index none).isSome
  let shown := named || visible
  ({ s with
      stop := c.stop
      cost := s.cost + ownCost + skippedCost
      dynamic := s.dynamic + (if bare then 0 else c.dynamic)
      visibleDescendants := s.visibleDescendants + c.visibleDescendants + if shown then 1 else 0
      visibleChildren := s.visibleChildren + if shown then 1 else if bare then 0 else c.visibleChildren },
    if c.extra then index else index + 1)

/-- The subtree of a kind with the given children; without any it stands at `place`. -/
def node (l : Language) (source : Source) (kind : Kind) (children : Array Subtree) (labels place : Nat) :
    Subtree :=
  let (outer, start) := match children[0]? with
    | some c => (c.summary.outer, c.summary.start)
    | none => (place, place)
  let empty : Summary := { kind, outer, start, stop := start, labels }
  let names := l.table.labels.getD labels {}
  let (s, _) := children.foldl (addChild l kind names) (empty, 0)
  let broken := kind == .error || kind == .skipped
  let s := if broken then
      { s with cost := s.cost + recoveryCost + skippedByteCost * source.bytes s.start s.stop +
          skippedLineCost * source.breaks s.start s.stop }
    else s
  mk s children

def dynamic (t : Subtree) : Int := if t.children.isEmpty then 0 else t.summary.dynamic

/-- How many nodes of the final tree a subtree holds; skipped text counts as one. -/
def nodeCount (l : Language) (t : Subtree) : Nat :=
  t.summary.visibleDescendants + (if t.kind.isVisible l then 1 else 0) + (if t.kind == .skipped then 1 else 0)

/-- Whether two subtrees need not be told apart. -/
def equivalent (t u : Subtree) : Bool :=
  t.kind == u.kind &&
    ((t.cost > 0 && u.cost > 0) ||
      (t.summary.start - t.summary.outer == u.summary.start - u.summary.outer &&
        t.summary.stop - t.summary.start == u.summary.stop - u.summary.start &&
        t.children.size == u.children.size && t.summary.extra == u.summary.extra))

/-- Compare readings by their symbols, from the top and from the left; `fuel` bounds the walk. -/
def compareAll (l : Language) : Nat → List (Subtree × Subtree) → Ordering
  | 0, _ => .eq
  | _ + 1, [] => .eq
  | fuel + 1, (t, u) :: rest =>
    match (compare (t.kind.rank l) (u.kind.rank l)).then (compare t.children.size u.children.size) with
    | .eq => compareAll l fuel ((t.children.toList.zip u.children.toList) ++ rest)
    | order => order

def compare (l : Language) (t u : Subtree) : Ordering := compareAll l 0x100000000 [(t, u)]

/-- Whether the second reading is better than the first. -/
def prefers (l : Language) (left right : Subtree) : Bool :=
  if right.cost < left.cost then true
  else if left.cost < right.cost then false
  else if left.dynamic < right.dynamic then true
  else if right.dynamic < left.dynamic then false
  else if left.cost > 0 then true
  else compare l left right == .gt

/-- Separate the extras at the end of a list of subtrees. -/
def splitTrailingExtras (trees : Array Subtree) : Array Subtree × Array Subtree :=
  let extras := (trees.toList.reverse.takeWhile (·.summary.extra)).length
  (trees.extract 0 (trees.size - extras), trees.extract (trees.size - extras) trees.size)

end Subtree

end Graft.Parse
