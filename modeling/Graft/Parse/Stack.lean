import Graft.Parse.Subtree

set_option autoImplicit false

/-!
# The stack

Where a text can be read in several ways the parser follows all of them. Their stacks share what
they have in common: a stack is a graph of numbered nodes, each with links to the nodes below it,
and a version is a place at the top. Versions that come to the same state are joined again.
-/

namespace Graft.Parse

/-- A step down: the node below and the subtree in between. A break in the text has none. -/
structure Link where
  node : Nat
  tree : Option Subtree
  deriving Inhabited

structure StackNode where
  state : Nat
  position : Nat := 0
  links : Array Link := #[]
  cost : Nat := 0
  nodeCount : Nat := 0
  dynamic : Int := 0
  deriving Inhabited

/-- A state that the parser was in some symbols ago. -/
structure Landmark where
  position : Nat
  depth : Nat
  state : Nat
  deriving Inhabited

inductive Status where
  | active
  /-- Stopped at a token that nothing can be done with. -/
  | paused (lookahead : Subtree)
  | halted
  deriving Inhabited

namespace Status

def isActive : Status → Bool
  | active => true
  | _ => false

def isPaused : Status → Bool
  | paused _ => true
  | _ => false

def isHalted : Status → Bool
  | halted => true
  | _ => false

end Status

/-- One way to read the text so far. -/
structure Version where
  node : Nat
  /-- The number of nodes when the last error was met. -/
  nodesAtError : Nat := 0
  landmarks : Option (Array Landmark) := none
  status : Status := .active
  deriving Inhabited

structure Stack where
  nodes : Array StackNode
  versions : Array Version
  deriving Inhabited

def maxLinks : Nat := 8
def maxPaths : Nat := 64

namespace Stack

/-- A stack with one version in the given state. -/
def start (state : Nat) : Stack := { nodes := #[{ state }], versions := #[{ node := 0 }] }

def version (s : Stack) (v : Nat) : Version := s.versions.getD v default

def top (s : Stack) (v : Nat) : StackNode := s.nodes.getD (s.version v).node default

def state (s : Stack) (v : Nat) : Nat := (s.top v).state

def position (s : Stack) (v : Nat) : Nat := (s.top v).position

def count (s : Stack) : Nat := s.versions.size

def isActive (s : Stack) (v : Nat) : Bool := (s.version v).status.isActive

def isPaused (s : Stack) (v : Nat) : Bool := (s.version v).status.isPaused

def isHalted (s : Stack) (v : Nat) : Bool := (s.version v).status.isHalted

def haltedCount (s : Stack) : Nat := s.versions.foldl (fun n v => if v.status.isHalted then n + 1 else n) 0

/-- The cost of the errors of a version. A break that nothing has been read after counts too. -/
def cost (s : Stack) (v : Nat) : Nat :=
  let node := s.top v
  let open_ := node.state == 0 && match node.links[0]? with
    | some link => link.tree.isNone
    | none => true
  node.cost + if s.isPaused v || open_ then recoveryCost else 0

def setVersion : Stack → Nat → (Version → Version) → Stack
  | ⟨nodes, versions⟩, v, f => ⟨nodes, versions.modify v f⟩

/-- Count anew from here if subtrees from before the last error have been taken off. -/
def settle (s : Stack) (v : Nat) : Stack :=
  let n := (s.top v).nodeCount
  if n < (s.version v).nodesAtError then s.setVersion v fun h => { h with nodesAtError := n } else s

/-- The number of nodes read since the last error. -/
def nodesSinceError (s : Stack) (v : Nat) : Nat := (s.top v).nodeCount - (s.version v).nodesAtError

def halt (s : Stack) (v : Nat) : Stack := s.setVersion v fun h => { h with status := .halted }

def pause (s : Stack) (v : Nat) (lookahead : Subtree) : Stack :=
  let n := (s.top v).nodeCount
  s.setVersion v fun h => { h with status := .paused lookahead, nodesAtError := n }

def resume (s : Stack) (v : Nat) : Stack := s.setVersion v fun h => { h with status := .active }

def remove : Stack → Nat → Stack
  | ⟨nodes, versions⟩, v => ⟨nodes, versions.eraseIdxIfInBounds v⟩

def swap : Stack → Nat → Nat → Stack
  | ⟨nodes, versions⟩, v, w => ⟨nodes, versions.swapIfInBounds v w⟩

/-- One more version at the end. -/
def add : Stack → Version → Stack
  | ⟨nodes, versions⟩, fresh => ⟨nodes, versions.push fresh⟩

/-- A copy of a version at the end. -/
def copy : Stack → Nat → Stack
  | ⟨nodes, versions⟩, v => ⟨nodes, versions.push { versions.getD v default with landmarks := none }⟩

/-- Let version `v` take the place of version `w`. -/
def renumber : Stack → Nat → Nat → Stack
  | ⟨nodes, versions⟩, v, w =>
    if v == w then ⟨nodes, versions⟩
    else
      let source := versions.getD v default
      let target := versions.getD w default
      let source := { source with landmarks := source.landmarks.or target.landmarks }
      ⟨nodes, (versions.setIfInBounds w source).eraseIdxIfInBounds v⟩

/-- The node on top of `below` with a subtree, or a break, in between. -/
def nodeOn (l : Language) (node : StackNode) (below : Nat) (tree : Option Subtree) (state : Nat) : StackNode :=
  match tree with
  | some t =>
    { state
      position := t.summary.stop
      links := #[⟨below, tree⟩]
      cost := node.cost + t.cost
      nodeCount := node.nodeCount + t.nodeCount l
      dynamic := node.dynamic + t.dynamic }
  | none => { node with state, links := #[⟨below, none⟩] }

/-- Put a subtree, or a break, on top of a version. -/
def push (l : Language) : Stack → Nat → Option Subtree → Nat → Stack
  | ⟨nodes, versions⟩, v, tree, state =>
    let below := (versions.getD v default).node
    let fresh := nodeOn l (nodes.getD below default) below tree state
    let id := nodes.size
    ⟨nodes.push fresh, versions.modify v fun h =>
      { h with node := id, nodesAtError := if tree.isNone then fresh.nodeCount else h.nodesAtError }⟩

/-! ## Joining versions -/

/-- Whether two links hold the same subtree, as far as anyone can tell. -/
def sameTree (a b : Option Subtree) : Bool :=
  match a, b with
  | none, none => true
  | some t, some u => t.equivalent u
  | _, _ => false

def linkDynamic (tree : Option Subtree) : Int := (tree.map (·.dynamic)).getD 0

/-- What to do with one more link of a node. -/
inductive LinkChoice where
  | known
  /-- It leads to the same node by a better subtree. -/
  | better (index : Nat)
  /-- It leads to a node that can be joined with that of a known link. -/
  | join (node : Nat)
  | new

/-- Compare a link with those of a node. -/
def chooseLink (nodes : Array StackNode) (known : Array Link) (link : Link) : LinkChoice :=
  go known.size 0
where
  go : Nat → Nat → LinkChoice
    | 0, _ => .new
    | fuel + 1, i => match known[i]? with
      | none => .new
      | some old =>
        if sameTree old.tree link.tree then
          if old.node == link.node then
            if linkDynamic old.tree < linkDynamic link.tree then .better i else .known
          else
            let a := nodes.getD old.node default
            let b := nodes.getD link.node default
            if a.state == b.state && a.position == b.position && a.cost == b.cost then .join old.node
            else go fuel (i + 1)
        else go fuel (i + 1)

/-- Give a node one more link. Where links agree, the nodes below are joined instead. -/
def addLink (l : Language) : Nat → Array StackNode → Nat → Link → Array StackNode
  | 0, nodes, _, _ => nodes
  | fuel + 1, nodes, n, link =>
    if link.node == n then nodes
    else
      let node := nodes.getD n default
      let below := nodes.getD link.node default
      let dynamic := below.dynamic + linkDynamic link.tree
      match chooseLink nodes node.links link with
      | .known => nodes
      | .better i => nodes.modify n fun node => { node with links := node.links.setIfInBounds i link, dynamic }
      | .join m =>
        let nodes := below.links.foldl (fun nodes deeper => addLink l fuel nodes m deeper) nodes
        nodes.modify n fun node => { node with dynamic := max node.dynamic dynamic }
      | .new =>
        if node.links.size ≥ maxLinks then nodes
        else
          let count := below.nodeCount + ((link.tree.map (·.nodeCount l)).getD 0)
          nodes.modify n fun node =>
            { node with
              links := node.links.push link
              nodeCount := max node.nodeCount count
              dynamic := max node.dynamic dynamic }

def canMerge (s : Stack) (v w : Nat) : Bool :=
  let a := s.top v
  let b := s.top w
  s.isActive v && s.isActive w && a.state == b.state && a.position == b.position && a.cost == b.cost

/-- Join the second version into the first. -/
def join (l : Language) : Stack → Nat → Nat → Stack
  | ⟨nodes, versions⟩, v, w =>
    let target := (versions.getD v default).node
    let links := (nodes.getD (versions.getD w default).node default).links
    let nodes := links.foldl (fun nodes link => addLink l nodes.size nodes target link) nodes
    let top := nodes.getD target default
    let versions := if top.state == 0 then versions.modify v fun h => { h with nodesAtError := top.nodeCount }
      else versions
    ⟨nodes, versions.eraseIdxIfInBounds w⟩

/-- Join the second version into the first, if they have come to the same state. -/
def merge (l : Language) (s : Stack) (v w : Nat) : Option Stack :=
  if s.canMerge v w then some (s.join l v w) else none

/-! ## Paths down -/

/-- A way down from the top of a version: the subtrees passed, the lowest first, and how many of
them count. -/
structure Path where
  node : Nat
  trees : List Subtree := []
  depth : Nat := 0

/-- Follow one link. -/
def Path.follow (p : Path) (link : Link) : Path :=
  match link.tree with
  | some t => { node := link.node, trees := t :: p.trees, depth := if t.summary.extra then p.depth else p.depth + 1 }
  | none => { p with node := link.node, depth := p.depth + 1 }

/-- What a search along paths does where it stands. -/
structure Visit where
  /-- Take the path as a result. -/
  take : Bool := false
  /-- Do not go further. -/
  stop : Bool := false

/-- One round of a search: every path goes one link down, splitting where there are several. -/
def stepPaths {σ : Type} (s : Stack) (visit : σ → Path → Visit × σ) (paths : Array Path) (acc : σ)
    (found : Array Path) : Array Path × σ × Array Path := Id.run do
  let mut acc := acc
  let mut found := found
  -- The paths that go on in place, and those that branch off, which come after all others.
  let mut going : Array Path := #[]
  let mut branches : Array Path := #[]
  let mut left := paths.size
  for path in paths do
    let (v, next) := visit acc path
    acc := next
    left := left - 1
    let links := (s.nodes.getD path.node default).links
    if v.take then found := found.push path
    if !(v.stop || links.isEmpty) then
      for j in [1:links.size] do
        if going.size + 1 + left + branches.size < maxPaths then
          match links[j]? with
          | some link => branches := branches.push (path.follow link)
          | none => pure ()
      match links[0]? with
      | some link => going := going.push (path.follow link)
      | none => pure ()
  return (going ++ branches, acc, found)

/-- Search all paths down from a version. -/
def searchPaths {σ : Type} (s : Stack) (visit : σ → Path → Visit × σ) : Nat → Array Path → σ → Array Path →
    σ × Array Path
  | 0, _, acc, found => (acc, found)
  | fuel + 1, paths, acc, found =>
    if paths.isEmpty then (acc, found)
    else
      let (paths, acc, found) := s.stepPaths visit paths acc found
      searchPaths s visit fuel paths acc found

def search {σ : Type} (s : Stack) (v : Nat) (visit : σ → Path → Visit × σ) (acc : σ) : σ × Array Path :=
  s.searchPaths visit (s.nodes.size + 2) #[{ node := (s.version v).node }] acc #[]

/-- Subtrees taken off a version, and the version that is left. -/
structure Slice where
  version : Nat
  trees : Array Subtree
  deriving Inhabited

/-- Make a version for the foot of a path, unless an earlier path ends there too. -/
def addSlice (v : Nat) (acc : Stack × Array Slice) (path : Path) : Stack × Array Slice :=
  let (s, slices) := acc
  let trees := path.trees.toArray
  let same := (List.range slices.size).reverse.find? fun i =>
    (s.version (slices.getD i default).version).node == path.node
  match same with
  | some i =>
    let version := (slices.getD i default).version
    (s, slices.extract 0 (i + 1) ++ #[⟨version, trees⟩] ++ slices.extract (i + 1) slices.size)
  | none =>
    let fresh : Version := { node := path.node, nodesAtError := (s.version v).nodesAtError }
    let count := s.count
    (s.add fresh, slices.push ⟨count, trees⟩)

/-- Take `n` subtrees off a version, in every way. -/
def pop (s : Stack) (v n : Nat) : Stack × Array Slice :=
  let (_, paths) := s.search v (fun (_ : Unit) p => ({ take := p.depth == n, stop := p.depth == n }, ())) ()
  paths.foldl (addSlice v) (s, #[])

/-- Take everything off a version, in every way. -/
def popAll (s : Stack) (v : Nat) : Stack × Array Slice :=
  let (_, paths) := s.search v (fun (_ : Unit) p =>
    ({ take := (s.nodes.getD p.node default).links.isEmpty }, ())) ()
  paths.foldl (addSlice v) (s, #[])

/-- Take an error off the top of a version, if there is one. -/
def popError (s : Stack) (v : Nat) : Stack × Array Subtree :=
  let topError := (s.top v).links.any fun link => (link.tree.map (·.isError)).getD false
  if !topError then (s, #[])
  else
    let (_, paths) := s.search v (fun (found : Bool) p =>
      match p.trees with
      | [] => ({}, found)
      | t :: _ => if !found && t.isError then ({ take := true, stop := true }, true) else ({ stop := true }, found))
      false
    let (s, slices) := paths.foldl (addSlice v) (s, #[])
    match slices[0]? with
    | some slice => (s.renumber slice.version v, slice.trees)
    | none => (s, #[])

/-- Remember the states below a version, down to a depth. -/
def recordLandmarks (s : Stack) (v depth : Nat) : Stack :=
  let visit (known : Array Landmark) (p : Path) : Visit × Array Landmark :=
    if p.depth > depth then ({ stop := true }, known)
    else
      let node := s.nodes.getD p.node default
      let seen := (known.toList.reverse.takeWhile fun k => p.depth ≤ k.depth).any fun k =>
        k.depth == p.depth && k.state == node.state
      if seen then ({}, known) else ({}, known.push ⟨node.position, p.depth, node.state⟩)
  let (known, _) := s.search v visit #[]
  s.setVersion v fun h => { h with landmarks := some known }

/-- Whether anything has been read since the last error. -/
def hasAdvanced (s : Stack) (v : Nat) : Bool :=
  let before := (s.version v).nodesAtError
  let rec go : Nat → Nat → Bool
    | 0, _ => false
    | fuel + 1, n =>
      let node := s.nodes.getD n default
      match (node.links[0]? : Option Link) with
      | some ⟨below, some t⟩ =>
        if t.summary.outer < t.summary.stop then true
        else if node.nodeCount > before && t.cost == 0 then go fuel below
        else false
      | _ => false
  (s.top v).cost == 0 || go s.nodes.size (s.version v).node

end Stack

end Graft.Parse
