import Graft.Parse.Tokenizer

set_option autoImplicit false

/-!
# Parsing

The parser follows every reading of the text at once. A reading that meets a token it has no use for
is set aside; if all are, the best of them recovers from the error, by putting in a token that is
missing, by going back to a state that can go on, or by skipping the token. What every way out costs
is kept, and the cheapest reading of the whole text is the result.
-/

namespace Graft.Parse

open Graft.Automaton

/-- More rounds than are made at one place. -/
def roundLimit : Nat := 0x10000

/-- More steps than are made before one token. -/
def stepLimit : Nat := 0x100000

def maxVersions : Nat := 6
def extraVersions : Nat := 4
def maxLandmarkDepth : Nat := 16
def maxCostDifference : Nat := 18 * skippedTreeCost

/-- A token together with where and in which state it was looked for. -/
structure Reading where
  state : Nat
  place : Nat
  token : Subtree

/-- Whether a token that was read in one state is what another state would read at a place: the state has a
use for it and looks for the same tokens. A word must have been read in that very state, because which words
are keywords depends on it. -/
def Reading.servesAt (l : Language) (g : Reading) (state place : Nat) : Bool :=
  let sameMode := l.table.lexicalMode.getD g.state 0 == l.table.lexicalMode.getD state 0 &&
    l.table.externals.getD g.state .empty == l.table.externals.getD state .empty
  match g.token.kind with
  | .symbol code =>
    g.place == place && !(l.table.actionsAt state code).isEmpty && sameMode &&
      (code != l.word || (!g.token.summary.keyword && g.state == state))
  | _ => false

/-- The state of a parse. -/
structure Run where
  stack : Stack
  finished : Option Subtree := none
  /-- The token that was read last. -/
  latest : Option Reading := none
  /-- How often the end of the text has been reached. -/
  accepted : Nat := 0
  deriving Inhabited

/-! ## Comparing versions -/

/-- How well a version is doing. -/
structure Standing where
  cost : Nat
  nodes : Nat
  dynamic : Int
  inError : Bool

inductive Preference where
  | takeLeft
  | preferLeft
  | none
  | preferRight
  | takeRight
  deriving BEq, DecidableEq

def Standing.compare (a b : Standing) : Preference :=
  if !a.inError && b.inError then if a.cost < b.cost then .takeLeft else .preferLeft
  else if a.inError && !b.inError then if b.cost < a.cost then .takeRight else .preferRight
  else if a.cost < b.cost then
    if (b.cost - a.cost) * (1 + a.nodes) > maxCostDifference then .takeLeft else .preferLeft
  else if b.cost < a.cost then
    if (a.cost - b.cost) * (1 + b.nodes) > maxCostDifference then .takeRight else .preferRight
  else if a.dynamic > b.dynamic then .preferLeft
  else if b.dynamic > a.dynamic then .preferRight
  else .none

/-- The standing of a version. -/
def Stack.standing (s : Stack) (v : Nat) : Standing :=
  let paused := s.isPaused v
  { cost := s.cost v + if paused then skippedTreeCost else 0
    nodes := s.nodesSinceError v
    dynamic := (s.top v).dynamic
    inError := paused || s.state v == 0 }

namespace Run

/-- Change the stack. -/
@[inline] def onStack : Run → (Stack → Stack) → Run
  | ⟨stack, finished, latest, accepted⟩, f => ⟨f stack, finished, latest, accepted⟩

/-- Whether another version makes it pointless to go on with this one at the given cost. -/
def betterExists (r : Run) (v cost : Nat) : Bool × Run :=
  match r.finished with
  | some t => if t.cost ≤ cost then (true, r) else others
  | none => others
where
  others : Bool × Run := Id.run do
    let mut s := r.stack.settle v
    let own : Standing :=
      { cost, nodes := s.nodesSinceError v, dynamic := (s.top v).dynamic, inError := false }
    for i in [0:s.count] do
      if i != v && s.isActive i && s.position v ≤ s.position i then
        s := s.settle i
        match own.compare (s.standing i) with
        | .takeRight => return (true, { r with stack := s })
        | .preferRight => if s.canMerge i v then return (true, { r with stack := s })
        | _ => pure ()
    return (false, { r with stack := s })

end Run

/-! ## Reducing -/

/-- What a reduction needs to know. -/
structure Reducing where
  /-- The code of the symbol to make. -/
  symbol : Nat
  length : Nat
  dynamic : Int
  labels : Nat

def Reducing.ofReduction (l : Language) (r : Reduction) : Reducing :=
  { symbol := l.table.coding.tokenCount + r.rule, length := r.length, dynamic := r.dynamic, labels := r.labels }

/-- Slices that left the same version are readings of the same text; the best of them stays. -/
def bestOf (l : Language) (source : Source) (a : Reducing) (place : Nat) (slices : List Stack.Slice) :
    Option (Subtree × Array Subtree) :=
  let make (trees : Array Subtree) : Subtree := .node l source (.symbol a.symbol) trees a.labels place
  slices.foldl (fun best slice =>
    let (trees, extras) := Subtree.splitTrailingExtras slice.trees
    match best with
    | none => some (make trees, extras)
    | some (old, oldExtras) =>
      let plain := Subtree.node l source (.symbol a.symbol) trees 0 place
      if old.prefers l plain then some (make trees, extras) else some (old, oldExtras)) none

/-- The slices at the front that left the same version, and the others. -/
def sameVersion (slices : List Stack.Slice) : List Stack.Slice × List Stack.Slice :=
  match slices with
  | [] => ([], [])
  | first :: _ => slices.span fun s => s.version == first.version

/-- Join a version with one of the first versions, but for one of them. -/
def joinWithEarlier (l : Language) (s : Stack) (v except : Nat) : Stack × Bool :=
  match (List.range v).find? fun j => j != except && s.canMerge j v with
  | some j => (s.join l j v, true)
  | none => (s, false)

/-- Make a symbol of the top of a version, in every way. The new versions stand at the end; the
first of them is the answer. -/
def reduce (l : Language) (source : Source) (v : Nat) (a : Reducing) (r : Run) : Option Nat × Run := Id.run do
  let before := r.stack.count
  let (popped, slices) := r.stack.pop v a.length
  let halted := popped.haltedCount
  let mut s := popped
  let mut removed := 0
  let mut rest := slices.toList
  for _ in [0:slices.size] do
    let (here, later) := sameVersion rest
    rest := later
    match here with
    | [] => break
    | first :: _ =>
      let w := first.version - removed
      if w > maxVersions + extraVersions + halted then
        s := s.remove w
        removed := removed + 1
      else
        match bestOf l source a (s.position w) here with
        | none => pure ()
        | some (tree, extras) =>
          let next := l.table.next (s.state w) a.symbol
          let tree : Subtree := .mk { tree.summary with dynamic := tree.summary.dynamic + a.dynamic } tree.children
          s := s.push l w (some tree) next
          for extra in extras do
            s := s.push l w (some extra) next
          let (joined, did) := joinWithEarlier l s w v
          s := joined
          if did then removed := removed + 1
  let after := s.count
  return (if after > before then some before else none, { r with stack := s })

/-! ## Accepting -/

/-- Put the children of the last subtree that is no extra in its place: the root of a tree with
what stands before and after it. -/
def rootOf (l : Language) (source : Source) (trees : Array Subtree) : Option Subtree :=
  let rec go : Nat → Option Subtree
    | 0 => none
    | j + 1 => match trees[j]? with
      | none => go j
      | some t =>
        if t.summary.extra then go j
        else
          let all := trees.extract 0 j ++ t.children ++ trees.extract (j + 1) trees.size
          some (.node l source t.kind all t.summary.labels t.summary.outer)
  go trees.size

/-- End a version at the end of the text and keep the better tree. -/
def accept (l : Language) (source : Source) (v : Nat) (lookahead : Subtree) (r : Run) : Run :=
  let s := r.stack.push l v (some lookahead) 1
  let (s, slices) := s.popAll v
  let r := slices.foldl (fun (r : Run) slice =>
    match rootOf l source slice.trees with
    | none => r
    | some root =>
      let finished := match r.finished with
        | none => root
        | some old => if old.prefers l root then root else old
      { r with finished := some finished, accepted := r.accepted + 1 }) r
  let s := match slices[0]? with
    | some slice => s.remove slice.version
    | none => s
  { r with stack := s.halt v }

/-! ## Recovering from errors -/

/-- Take `depth` subtrees off a version as an error, where that leads to the wanted state. -/
def recoverTo (l : Language) (source : Source) (v depth goal : Nat) (r : Run) : Bool × Run := Id.run do
  let (popped, slices) := r.stack.pop v depth
  let mut s := popped
  let mut previous : Option Nat := none
  for slice in slices do
    if previous == some slice.version then continue
    if s.state slice.version != goal then
      s := s.halt slice.version
      continue
    let (without, errors) := s.popError slice.version
    s := without
    let trees := (errors.foldl (fun acc e => acc ++ e.children) #[]) ++ slice.trees
    let (trees, extras) := Subtree.splitTrailingExtras trees
    if trees.size > 0 then
      let error := (Subtree.node l source .error trees 0 0).setExtra true
      s := s.push l slice.version (some error) goal
    for extra in extras do
      s := s.push l slice.version (some extra) goal
    previous := some slice.version
  return (previous.isSome, { r with stack := s })

/-- Whether some version already stands in this state at this place. -/
def hasVersionAt (s : Stack) (count state position : Nat) : Bool :=
  (List.range count).any fun j => s.state j == state && s.position j == position

/-- Look for an earlier state that has a use for the token. -/
def recoverToLandmark (l : Language) (source : Source) (v token : Nat) (r : Run) : Bool × Run :=
  let s := r.stack
  let previous := s.count
  let position := s.position v
  let since := s.nodesSinceError v
  let cost := s.cost v
  let rec go : List Landmark → Run → Bool × Run
    | [], r => (false, r)
    | mark :: rest, r =>
      if mark.state == 0 || mark.position == position then go rest r
      else
        let depth := if since > 0 then mark.depth + 1 else mark.depth
        if hasVersionAt r.stack previous mark.state position then go rest r
        else
          let newCost := cost + mark.depth * skippedTreeCost + source.bytes mark.position position * skippedByteCost +
            source.breaks mark.position position * skippedLineCost
          let (better, r) := r.betterExists v newCost
          if better then (false, r)
          else if (l.table.actionsAt mark.state token).isEmpty then go rest r
          else
            let (did, r) := recoverTo l source v depth mark.state r
            if did then (true, r) else go rest r
  go (((s.version v).landmarks.getD #[]).toList) r

/-- Drop the versions from `first` on that are not active. -/
def dropInactive (s : Stack) (first : Nat) : Stack :=
  { s with versions := s.versions.extract 0 first ++ (s.versions.extract first s.versions.size).filter (·.status.isActive) }

/-- Skip a token: it joins the text that was skipped before it. -/
def skipToken (l : Language) (source : Source) (v : Nat) (lookahead : Subtree) (since : Nat) (r : Run) : Run :=
  let isExtra := match lookahead.kind with
    | .symbol code => match (l.table.actionsAt 1 code).getLast? with
      | some .shiftExtra => true
      | _ => false
    | _ => false
  let lookahead := if isExtra then lookahead.setExtra true else lookahead
  let skipped := Subtree.node l source .skipped #[lookahead] 0 0
  if since > 0 then
    let (s, slices) := r.stack.pop v 1
    match slices[0]? with
    | none => { r with stack := s }
    | some slice =>
      let s := if slices.size > 1 then { s with versions := s.versions.extract 0 (slice.version + 1) } else s
      let s := s.renumber slice.version v
      let joined := Subtree.node l source .skipped (slice.trees.push skipped) 0 0
      { r with stack := s.push l v (some joined) 0 }
  else { r with stack := r.stack.push l v (some skipped) 0 }

/-- Go on after an error: back to an earlier state, and past the token. -/
def recover (l : Language) (source : Source) (v : Nat) (lookahead : Subtree) (r : Run) : Run :=
  let r := r.onStack (·.settle v)
  let previous := r.stack.count
  let since := r.stack.nodesSinceError v
  let cost := r.stack.cost v
  let (did, r) := match lookahead.kind with
    | .symbol code => recoverToLandmark l source v code r
    | _ => (false, r)
  let r := r.onStack (dropInactive · previous)
  let place := r.stack.position v
  if lookahead.kind == .symbol l.table.coding.eof then
    let empty := Subtree.node l source .error #[] 0 place
    accept l source v lookahead (r.onStack fun s => s.push l v (some empty) 1)
  else if did && r.stack.count > maxVersions then r.onStack (·.halt v)
  else
    let newCost := cost + skippedTreeCost +
      source.bytes lookahead.summary.outer lookahead.summary.stop * skippedByteCost +
      source.breaks lookahead.summary.outer lookahead.summary.stop * skippedLineCost
    let (better, r) := r.betterExists v newCost
    if better then r.onStack (·.halt v) else skipToken l source v lookahead since r

/-! ## Handling errors -/

/-- The reductions that a state allows for some of the given tokens, and whether it reads one. -/
def possible (l : Language) (state : Nat) (tokens : List Nat) : Array Reducing × Bool :=
  tokens.foldl (fun acc token =>
    (l.table.actionsAt state token).foldl (fun (reductions, reads) action =>
      match action with
      | .shift _ repeats => (reductions, reads || !repeats)
      | .recover => (reductions, true)
      | .reduce r =>
        let a := Reducing.ofReduction l r
        let known := reductions.any fun b => b.symbol == a.symbol && b.length == a.length
        (if r.length > 0 && !known then reductions.push a else reductions, reads)
      | _ => (reductions, reads)) acc) (#[], false)

/-- Do every reduction that some token allows, starting with one version; all tokens are considered
unless one is given. Tells whether that token can then be read. -/
def reduceAll (l : Language) (source : Source) (start : Nat) (token : Option Nat) (r : Run) : Bool × Run :=
  go roundLimit 0 start false r
where
  /-- The number of versions before any was added. -/
  initial : Nat := r.stack.count
  go : Nat → Nat → Nat → Bool → Run → Bool × Run
    | 0, _, _, can, r => (can, r)
    | fuel + 1, round, v, can, r =>
      let count := r.stack.count
      if v ≥ count then (can, r)
      else
        match (List.range v).find? fun j => initial ≤ j && r.stack.canMerge j v with
        | some j => go fuel (round + 1) v can (r.onStack fun s => s.join l j v)
        | none =>
          let tokens := match token with
            | some t => [t]
            | none => l.order.toList
          let (reductions, reads) := possible l (r.stack.state v) tokens
          let (last, r) := reductions.foldl (fun (_, r) a => reduce l source v a r) ((none : Option Nat), r)
          let following : Nat := if v == start then count else v + 1
          if reads then go fuel (round + 1) following true r
          else match last with
            | some w =>
              if round < maxVersions then go fuel (round + 1) v can (r.onStack (·.renumber w v))
              else if token.isSome then go fuel (round + 1) following can (r.onStack (·.remove v))
              else go fuel (round + 1) following can r
            | none =>
              if token.isSome then go fuel (round + 1) following can (r.onStack (·.remove v))
              else go fuel (round + 1) following can r

/-- Put in a token that is missing before the lookahead, if one lets the version go on. At the end of the
text, where nothing more can be read, it is enough that some token could follow. -/
def insertMissing (l : Language) (source : Source) (v position : Nat) (lookahead : Nat) (r : Run) : Bool × Run :=
  let state := r.stack.state v
  let wanted := if lookahead == l.table.coding.eof then none else some lookahead
  let rec go : List Nat → Run → Bool × Run
    | [], r => (false, r)
    | token :: rest, r =>
      let next := l.table.next state token
      let reduces := match (l.table.actionsAt next lookahead)[0]? with
        | some (.reduce _) => true
        | _ => false
      if next == 0 || next == state || !reduces then go rest r
      else
        let w := r.stack.count
        let missing : Subtree := .mk { kind := .symbol token, outer := position, start := position, stop := position
                                       missing := true } #[]
        let r := r.onStack fun s => (s.copy v).push l w (some missing) next
        let (can, r) := reduceAll l source w wanted r
        if can then (true, r) else go rest r
  go l.order.toList r

/-- Start to recover a version that has met a token without use. -/
def handleError (l : Language) (source : Source) (v : Nat) (lookahead : Subtree) (r : Run) : Run :=
  let previous := r.stack.count
  let (_, r) := reduceAll l source v none r
  let count := r.stack.count
  let position := r.stack.position v
  let candidates := v :: (List.range (count - previous)).map (previous + ·)
  let (_, r) := candidates.foldl (fun (inserted, r) w =>
    let (inserted, r) := match inserted, lookahead.kind with
      | false, .symbol code => insertMissing l source w position code r
      | _, _ => (inserted, r)
    (inserted, r.onStack fun s => s.push l w none 0)) (false, r)
  let r := (List.range (count - previous)).foldl (fun r _ =>
    r.onStack fun s => (s.merge l v previous).getD s) r
  let r := r.onStack (·.recordLandmarks v maxLandmarkDepth)
  recover l source v lookahead r

/-! ## Going on -/

/-- Do what the table says for a token: reductions first, in new versions, then reading it. The
answer tells what to do next: nothing, or go on with the version after a reduction. -/
inductive Outcome where
  | done
  | reduced
  | nothing

def perform (l : Language) (source : Source) (v : Nat) (lookahead : Subtree) : List Action → Option Nat → Bool → Run →
    Outcome × Run
  | [], last, did, r =>
    match last with
    | some w => (.reduced, r.onStack (·.renumber w v))
    | none => if did then (.done, r.onStack (·.halt v)) else (.nothing, r)
  | action :: rest, last, did, r =>
    match action with
    | .shift goal repeats =>
      if repeats then perform l source v lookahead rest last did r
      else (.done, r.onStack fun s => s.push l v (some (lookahead.setExtra false)) goal)
    | .shiftExtra =>
      (.done, r.onStack fun s => s.push l v (some (lookahead.setExtra true)) (s.state v))
    | .reduce a =>
      let (w, r) := reduce l source v (.ofReduction l a) r
      perform l source v lookahead rest (w.or last) true r
    | .accept => (.done, accept l source v lookahead r)
    | .recover => (.done, recover l source v lookahead r)

/-- Go on with a version and a token until the token is read or the version is set aside. -/
def advanceWith (l : Language) (source : Source) (v : Nat) : Nat → Subtree → Run → Run
  | 0, _, r => r.onStack (·.halt v)
  | fuel + 1, lookahead, r =>
    let state := r.stack.state v
    match lookahead.kind with
    | .symbol code =>
      match perform l source v lookahead (l.table.actionsAt state code) none false r with
      | (.done, r) => r
      | (.reduced, r) => advanceWith l source v fuel lookahead r
      | (.nothing, r) =>
        if lookahead.summary.keyword && code != l.word && !(l.table.actionsAt state l.word).isEmpty then
          advanceWith l source v fuel (.mk { lookahead.summary with kind := .symbol l.word } #[]) r
        else r.onStack (·.pause v lookahead)
    | _ => r.onStack (·.pause v lookahead)

/-- The next token of a version: the one that was read last, if it serves here too. -/
def lookAhead (l : Language) (source : Source) (v : Nat) : Run → Subtree × Run
  | ⟨stack, finished, latest, accepted⟩ =>
    let state := stack.state v
    let place := stack.position v
    match latest.filter (·.servesAt l state place) with
    | some reading => (reading.token, ⟨stack, finished, latest, accepted⟩)
    | none =>
      let token := nextToken l source state place (stack.hasAdvanced v)
      (token, ⟨stack, finished, some ⟨state, place, token⟩, accepted⟩)

/-- Read the next token of a version and go on. -/
def advance (l : Language) (source : Source) (v : Nat) (r : Run) : Run :=
  let (lookahead, r) := lookAhead l source v r
  advanceWith l source v stepLimit lookahead r

/-! ## The readings taken together -/

/-- Compare version `i`, whose standing is given, with the earlier ones. The answer is the version to
look at next. -/
def sortVersion (l : Language) (own : Standing) : Nat → Nat → Nat → Stack → Nat × Stack
  | 0, i, _, s => (i + 1, s)
  | fuel + 1, i, j, s =>
    if j ≥ i then (i + 1, s)
    else
      let s := s.settle j
      match (s.standing j).compare own with
      | .takeLeft => (i, s.remove i)
      | .preferLeft | .none =>
        if s.canMerge j i then (i, s.join l j i) else sortVersion l own fuel i (j + 1) s
      | .preferRight =>
        if s.canMerge j i then (i, s.join l j i) else sortVersion l own fuel i (j + 1) (s.swap i j)
      | .takeRight => sortVersion l own fuel (i - 1) j (s.remove j)

/-- Drop the versions that have ended, join or drop those that others outdo, and put the best first.
Also gives the least cost of a version that is not in error. -/
def sortVersions (l : Language) : Nat → Nat → Option Nat → Stack → Option Nat × Stack
  | 0, _, least, s => (least, s)
  | fuel + 1, i, least, s =>
    if i ≥ s.count then (least, s)
    else if s.isHalted i then sortVersions l fuel i least (s.remove i)
    else
      let s := s.settle i
      let own := s.standing i
      let least := if own.inError then least else match least with
        | some c => some (min c own.cost)
        | none => some own.cost
      let (next, s) := sortVersion l own (s.count + 1) i 0 s
      sortVersions l fuel next least s

/-- Let the best of the paused versions recover if no version before it goes on; drop the others. -/
def resumeBest (l : Language) (source : Source) : Nat → Nat → Nat → Bool → Option Nat → Run → Option Nat × Run
  | 0, _, _, _, least, r => (least, r)
  | fuel + 1, i, n, going, least, r =>
    if i ≥ n then (least, r)
    else match (r.stack.version i).status with
      | .paused lookahead =>
        if !going && r.accepted < maxVersions then
          let least := some (r.stack.cost i)
          let r := handleError l source i lookahead (r.onStack (·.resume i))
          resumeBest l source fuel (i + 1) n true least r
        else resumeBest l source fuel i (n - 1) going least (r.onStack (·.remove i))
      | _ => resumeBest l source fuel (i + 1) n true least r

/-- Put the versions in order. -/
def condense (l : Language) (source : Source) (r : Run) : Option Nat × Run :=
  let (least, s) := sortVersions l roundLimit 0 none r.stack
  let s := if s.count > maxVersions then { s with versions := s.versions.extract 0 maxVersions } else s
  resumeBest l source (s.count + 1) 0 s.count false least { r with stack := s }

/-- Go on with one version until it has come past the furthest place so far. -/
def advanceVersion (l : Language) (source : Source) (v : Nat) : Nat → Nat → Run → Nat × Run
  | 0, last, r => (last, r.onStack (·.halt v))
  | fuel + 1, last, r =>
    if !r.stack.isActive v then (last, r)
    else
      let r := advance l source v r
      let position := r.stack.position v
      if position > last || (v > 0 && position == last) then (position, r)
      else advanceVersion l source v fuel last r

/-- Go on with all versions, one after the other. -/
def advanceVersions (l : Language) (source : Source) : Nat → Nat → Nat → Run → Nat × Run
  | 0, _, last, r => (last, r)
  | fuel + 1, v, last, r =>
    if v ≥ r.stack.count then (last, r)
    else
      let (last, r) := advanceVersion l source v roundLimit last r
      advanceVersions l source fuel (v + 1) last r

/-- Go on until no version is left, or none can become better than a finished tree. -/
def runAll (l : Language) (source : Source) : Nat → Nat → Run → Run
  | 0, _, r => r
  | fuel + 1, last, r =>
    let (last, r) := advanceVersions l source roundLimit 0 last r
    let (least, r) := condense l source r
    let settled := match r.finished, least with
      | some t, some c => t.cost < c
      | some _, none => true
      | none, _ => false
    if settled || r.stack.count == 0 then r else runAll l source fuel last r

/-- The subtree of a whole text. -/
def parse (l : Language) (source : Source) : Subtree :=
  let r := runAll l source (4 * source.size + 64) 0 { stack := .start 1 }
  r.finished.getD (Subtree.node l source .error #[] 0 0)

end Graft.Parse
