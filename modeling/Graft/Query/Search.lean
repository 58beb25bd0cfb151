import Graft.Query.Step
import Graft.Tree.Document

set_option autoImplicit false

/-!
# Searching a tree

The nodes of a tree are entered and left in order, and a list of attempts is kept: matches that have
been begun and what they look for next. A node that fits takes an attempt one step further. Where a
later sibling might fit as well, the attempt as it was is kept beside; of two attempts at the same
step, the one that has captured more replaces the other.
-/

namespace Graft.Query

/-- Where patterns can begin and what they consist of. -/
structure Program where
  steps : Array Step
  /-- Beginnings at nodes of any kind. -/
  anywhere : List Entry := []
  /-- Beginnings at nodes of some kind. -/
  atKind : List (Kind × Entry) := []

/-- A match that has been begun. -/
structure Attempt where
  /-- The step that comes next. -/
  step : Nat
  pattern : Nat
  /-- The depth of the node where the match starts. -/
  depth : Int
  captures : Array (Nat × Node) := #[]
  /-- Only the very next node will do. -/
  atOnce : Bool := true
  /-- Another attempt may still come to more. -/
  waiting : Bool := false
  /-- The match starts at the parent of the first node. -/
  needsParent : Bool := false
  dead : Bool := false
  deriving Inhabited

/-- A node with its surroundings. -/
structure Place where
  node : Node
  parent : Option Node
  /-- The siblings behind it. -/
  later : List Node
  depth : Nat

namespace Place

def isError (n : Node) : Bool := n.flaw == some .error

def hasLater (p : Place) : Bool := !p.later.isEmpty

end Place

namespace Step

/-- Whether a node fits a step, apart from its depth. -/
def fits (s : Step) (p : Place) : Bool :=
  let n := p.node
  let missing := n.flaw == some .missing
  let kindFits := match s.kind with
    | none => if s.missing then missing else !Place.isError n && (n.named || !s.named)
    | some k => k.name == n.kind && k.named == n.named && (!s.missing || missing)
  kindFits && !(s.last && n.followed) && s.family.all n.families.contains &&
    (s.field.isNone || s.field == n.field) && s.absent.all fun f => (n.child? f).isNone

end Step

namespace Program

def stepAt (p : Program) (i : Nat) : Step := p.steps.getD i .done

/-- Whether a match of the step can still fail below it. -/
def isFallible (p : Program) (i : Nat) : Bool :=
  let step := p.stepAt i
  let next := p.stepAt (i + 1)
  next.isBelow (step.depth.getD 0) && (!next.certain || step.kind.isNone)

end Program

namespace Attempt

/-- Follow the branches at the next step of the first attempt of a list, then those of the others. -/
def branch (p : Program) : Nat → List Attempt → List Attempt
  | 0, as => as
  | _ + 1, [] => []
  | fuel + 1, a :: rest =>
    let step := p.stepAt a.step
    match step.alternative with
    | none => a :: branch p fuel rest
    | some k =>
      let other := { a with step := k, atOnce := a.atOnce || step.alternativeImmediate }
      if step.deadEnd then branch p fuel ({ a with step := k } :: rest)
      else if step.passThrough then branch p fuel ({ a with step := a.step + 1 } :: other :: rest)
      else a :: branch p fuel (other :: rest)

/-- The step at the start of the match that was passed over. -/
def startStep (p : Program) : Nat → Step
  | 0 => p.stepAt 0
  | i + 1 =>
    let step := p.stepAt i
    if step.deadEnd || step.passThrough || step.isBelow 0 then startStep p i else step

/-- Capture the parent where the match starts there; without one the attempt is dead. -/
def captureParent (p : Program) (place : Place) (a : Attempt) : Attempt :=
  if !a.needsParent then a
  else match place.parent with
    | none => { a with dead := true }
    | some parent =>
      let captured := (startStep p a.step).captures.map fun id => (id, parent)
      { a with needsParent := false, captures := a.captures ++ captured.toArray }

/-- What becomes of an attempt at a node. -/
def advance (p : Program) (place : Place) (a : Attempt) : List Attempt :=
  let a := { a with waiting := false }
  let step := p.stepAt a.step
  match step.depth with
  | none => [a]
  | some depth =>
    if a.depth + depth != place.depth then [a]
    else
      let laterFits := place.hasLater && !(step.immediate && place.node.named) && !a.atOnce &&
        !(step.field.isSome && step.field == place.node.field && !place.node.fieldRecurs)
      if !step.fits place then if laterFits then [a] else []
      else
        let kept := if laterFits && (step.capturing || p.isFallible a.step) then [a] else []
        let taken := a.captureParent p place
        let captured := step.captures.map fun id => (id, place.node)
        let next := p.stepAt (a.step + 1)
        let taken := { taken with
          captures := taken.captures ++ captured.toArray
          step := a.step + 1
          atOnce := step.kind.isNone && !step.named && next.immediate }
        branch p (4 * p.steps.size + 4) [taken] ++ kept

/-- The order of nodes in the text: earlier ones first, and of those that start together longer ones. -/
def compareNodes (a b : Node) : Ordering :=
  if a.id == b.id then .eq else (compare a.start b.start).then (compare b.stop a.stop)

/-- Whether the first captures contain the second, and the other way round. -/
def contains : Nat → List (Nat × Node) → List (Nat × Node) → Bool × Bool
  | 0, _, _ => (true, true)
  | _ + 1, [], [] => (true, true)
  | _ + 1, _ :: _, [] => (true, false)
  | _ + 1, [], _ :: _ => (false, true)
  | fuel + 1, (i, m) :: left, (k, n) :: right =>
    if m.id == n.id && i == k then contains fuel left right
    else match compareNodes m n with
      | .lt => let (l, _) := contains fuel left ((k, n) :: right); (l, false)
      | .gt => let (_, r) := contains fuel ((i, m) :: left) right; (false, r)
      | .eq => (false, false)

/-- Compare an attempt with those behind it that have the same start: whether it stays, whether it
waits, and what is left of the others. -/
def contend (a : Attempt) : List Attempt → Option Attempt × List Attempt
  | [] => (some a, [])
  | b :: rest =>
    if b.depth != a.depth || b.pattern != a.pattern then (some a, b :: rest)
    else
      let (more, less) := contains (a.captures.size + b.captures.size + 1) a.captures.toList b.captures.toList
      if a.step == b.step && more then contend a rest
      else
        let b := if more then { b with waiting := true } else b
        if a.step == b.step && less then (none, b :: rest)
        else
          let (a, rest) := contend (if less then { a with waiting := true } else a) rest
          (a, b :: rest)

/-- Drop attempts that others have overtaken, and take out those that are through: what stays, and
what is finished. -/
def prune (p : Program) : Nat → List Attempt → List Attempt × List Attempt
  | 0, as => (as, [])
  | _ + 1, [] => ([], [])
  | fuel + 1, a :: rest =>
    if a.dead then prune p fuel rest
    else match contend a rest with
      | (none, rest) => prune p fuel rest
      | (some a, rest) =>
        let (stay, finished) := prune p fuel rest
        if (p.stepAt a.step).isDone && !a.waiting then (stay, a :: finished) else (a :: stay, finished)

/-- Put a new attempt behind those that start above it or belong to earlier patterns, unless it is
there already. -/
def insertNew (a : Attempt) (as : List Attempt) : List Attempt :=
  let rec go : List Attempt → List Attempt
    | [] => [a]
    | b :: before =>
      if b.depth < a.depth then a :: b :: before
      else if b.depth == a.depth then
        if b.pattern == a.pattern && b.step == a.step then b :: before
        else if b.pattern ≤ a.pattern then a :: b :: before
        else b :: go before
      else b :: go before
  (go as.reverse).reverse

end Attempt

namespace Program

/-- Begin the patterns that can start at a node. -/
def begin (p : Program) (place : Place) (as : List Attempt) : List Attempt :=
  let n := place.node
  let own := p.atKind.filterMap fun (k, e) => if k.name == n.kind && k.named == n.named then some e else none
  let any := if Place.isError n then [] else p.anywhere.filter fun e =>
    (p.stepAt e.step).family.isNone || !n.families.isEmpty
  (any ++ own).foldl (fun as e =>
    let step := p.stepAt e.step
    let depth := step.depth.getD 0
    if (e.rooted || !place.parent.any Place.isError) && (step.field.isNone || step.field == n.field) then
      Attempt.insertNew { step := e.step, pattern := e.pattern, depth := (place.depth : Int) - depth, needsParent := depth == 1 } as
    else as) as

/-- What is under way and what is finished, the last one first. -/
structure Progress where
  attempts : List Attempt := []
  finished : List Attempt := []

/-- Enter a node. -/
def enter (p : Program) (place : Place) (s : Progress) : Progress :=
  let attempts := (p.begin place s.attempts).flatMap (Attempt.advance p place)
  let (stay, finished) := Attempt.prune p attempts.length attempts
  { attempts := stay, finished := finished.reverse ++ s.finished }

/-- Leave a node: attempts that looked for something inside have failed, and those that were through
but waited are finished. -/
def leave (p : Program) (depth : Nat) (s : Progress) : Progress :=
  let through (a : Attempt) : Bool := (p.stepAt a.step).isDone && ((depth : Int) < a.depth || depth == 0)
  let failed (a : Attempt) : Bool := match (p.stepAt a.step).depth with
    | some d => (depth : Int) < a.depth + d
    | none => false
  { attempts := s.attempts.filter fun a => !through a && !failed a
    finished := (s.attempts.filter through).reverse ++ s.finished }

mutual

/-- Walk through a node. -/
def visit (p : Program) (parent : Option Node) (later : List Node) (depth : Nat) : Node → Progress → Progress
  | .mk l cs, s =>
    let s := p.enter ⟨.mk l cs, parent, later, depth⟩ s
    p.leave depth (visitAll p (.mk l cs) (depth + 1) cs s)

/-- Walk through nodes side by side. -/
def visitAll (p : Program) (parent : Node) (depth : Nat) : List Node → Progress → Progress
  | [], s => s
  | n :: later, s => visitAll p parent depth later (visit p (some parent) later depth n s)

end

/-- All matches below a node, in the order in which they are completed. -/
def run (p : Program) (root : Node) : List Attempt := (p.visit none [] 0 root {}).finished.reverse

end Program

end Graft.Query
