import Graft.Query.Step

set_option autoImplicit false

/-!
# Which patterns are possible

A pattern for the children of a node is possible if some row of children that the grammar allows has
a node for every step, each taken at the first node that fits. Where a row can end before all steps
have been taken, the step that was next is uncertain; if no row takes them all, the pattern is
impossible.

Rows are walked through node by node, groups within groups. A group may contain itself, so walks that
enter a group again are put off, and taken up only as long as that brings something new.
-/

namespace Graft.Query

/-- A place in a row of children. -/
structure Frame where
  group : Nat
  row : Nat
  place : Nat
  /-- The field that the whole group stands in. -/
  field : Option String
  deriving BEq, Hashable, Inhabited

/-- A walk through the children of a node: the groups entered, innermost first, and the next step. -/
structure Walk where
  frames : List Frame
  step : Nat
  deriving BEq, Hashable, Inhabited

/-- What walks have come to. -/
structure Findings where
  /-- Steps that were next when a row ended. -/
  uncertain : List Nat := []
  /-- Whether a walk took all steps. -/
  possible : Bool := false
  /-- Whether some walk went too deep to be followed. -/
  gaveUp : Bool := false
  seen : Std.HashSet Walk := {}
  todo : List Walk := []
  deferred : List Walk := []

namespace Walk

/-- At most this many groups are entered. -/
def depthLimit : Nat := 8

/-- How often the walk is in a group that it had entered before. -/
def recursion (w : Walk) : Nat :=
  let groups := w.frames.map (·.group)
  (groups.zipIdx.filter fun (g, i) => (groups.drop (i + 1)).contains g).length

end Walk

namespace Findings

def addUncertain (f : Findings) (step : Nat) : Findings :=
  if f.uncertain.contains step then f else { f with uncertain := step :: f.uncertain }

/-- A walk to go on with, unless it has been made before. -/
def push (f : Findings) (w : Walk) : Findings :=
  if f.seen.contains w then f else { f with seen := f.seen.insert w, todo := w :: f.todo }

def defer (f : Findings) (w : Walk) : Findings :=
  if f.seen.contains w then f else { f with seen := f.seen.insert w, deferred := w :: f.deferred }

end Findings

/-- The next step at a depth or above it. -/
def nextAtDepth (steps : Array Step) (depth : Nat) : Nat → Nat → Nat
  | 0, i => i
  | fuel + 1, i => match steps[i]? with
    | some s => if s.isBelow depth then nextAtDepth steps depth fuel (i + 1) else i
    | none => i

/-- Whether a node fits a step. -/
def stepAllows (schema : Schema) (step : Step) (w : Walk) (kind : Kind) (field : Option String) : Bool :=
  (match step.kind with
    | none => !step.named || kind.named
    | some k => k == kind) &&
  (step.field.isNone || step.field == field) &&
  (match step.family with
    | none => true
    | some family => w.frames.any fun f => schema.families.any fun (name, group) => name == family && group == f.group)

/-- Leave the groups whose rows have ended. -/
def leaveEnded (schema : Schema) : List Frame → List Frame
  | [] => []
  | f :: rest =>
    let length := ((schema.groups.getD f.group []).getD f.row #[]).size
    if f.place < length then f :: rest else leaveEnded schema rest

/-- Note where a walk stands: it is through, its row has ended, or it goes on. After a match the
alternatives of the next step are followed too. -/
def settle (steps : Array Step) (depth : Nat) (matched : Bool) (frames : List Frame) :
    Nat → Nat → Findings → Findings
  | 0, _, f => f
  | fuel + 1, i, f =>
    let step := steps.getD i .done
    if step.passThrough then settle steps depth matched frames fuel (i + 1) f
    else
      let f :=
        if step.deadEnd then f
        else if step.depth != some depth then { f with possible := true }
        else if frames.isEmpty then f.addUncertain i
        else f.push ⟨frames, i⟩
      match step.alternative with
      | some k => if matched && i < k then settle steps depth matched frames fuel k f else f
      | none => f

/-- Take a walk past the next child. -/
def advanceWalk (schema : Schema) (steps : Array Step) (limit : Nat) (w : Walk) (f : Findings) : Findings :=
  match w.frames with
  | [] => f
  | top :: above =>
    let row := (schema.groups.getD top.group []).getD top.row #[]
    let step := steps.getD w.step .done
    let depth := step.depth.getD 0
    match row[top.place]? with
    | none => f
    | some child =>
      let field := top.field.or child.field
      let after := { top with place := top.place + 1 } :: above
      let past (matched : Bool) (frames : List Frame) (f : Findings) : Findings :=
        let i := if matched then nextAtDepth steps depth steps.size (w.step + 1) else w.step
        settle steps depth matched (leaveEnded schema frames) steps.size i f
      -- A flawed node may stand in the place of any child.
      if step.asksForError then past true after (if top.place == 0 then f else past true w.frames f)
      else
      -- Behind the first child there may be nodes that stand anywhere.
      let f := if top.place == 0 || child.renamed then f else
        schema.extras.foldl (fun f kind => if stepAllows schema step w kind field then past true w.frames f else f) f
      match child.look with
      | .node kind => past (stepAllows schema step w kind field) after f
      | .nothing => past false after f
      | .group g =>
        let outer := if top.place + 1 < row.size then after else above
        if top.place + 1 < row.size && Walk.depthLimit ≤ w.frames.length + 1 then { f with gaveUp := true }
        else (List.range (schema.groups.getD g []).length).foldl (fun f r =>
          let inner : Walk := ⟨⟨g, r, 0, field⟩ :: outer, w.step⟩
          if limit < inner.recursion then f.defer inner else f.push inner) f

/-- Follow all walks. `settled` is how many uncertain steps there were when the limit on recursion was
last raised. -/
def explore (schema : Schema) (steps : Array Step) : Nat → Nat → Nat → Findings → Findings
  | 0, _, _, f => { f with gaveUp := true }
  | fuel + 1, limit, settled, f => match f.todo with
    | w :: rest => explore schema steps fuel limit settled (advanceWalk schema steps limit w { f with todo := rest })
    | [] =>
      if !f.deferred.isEmpty && settled < f.uncertain.length then
        explore schema steps fuel (limit + 1) f.uncertain.length { f with todo := f.deferred, deferred := [] }
      else f

/-- How many steps of walks are followed at most. -/
def explorationLimit : Nat := 200000

/-- The offset where a step begins, or the next step that has one. -/
def offsetOf (offsets : Array (Nat × Nat)) (step : Nat) : Nat :=
  match offsets.find? fun (i, _) => step ≤ i with
  | some (_, offset) => offset
  | none => (offsets.back?.map (·.2)).getD 0

/-- The steps below a step. -/
def below (steps : Array Step) (i : Nat) : List Nat :=
  let depth := (steps.getD i .done).depth.getD 0
  ((List.range steps.size).drop (i + 1)).takeWhile fun k => (steps.getD k .done).isBelow depth

/-- Fill in which steps capture something, and which are certain as far as nothing speaks against it. -/
def mark (steps : Array Step) : Array Step :=
  (List.range steps.size).foldl (fun marked i =>
    let step := steps.getD i .done
    if step.isDone then marked
    else
      let inner := below steps i
      let capturing := (i :: inner).any fun k => !(steps.getD k .done).captures.isEmpty
      let marked := marked.modify i fun s => { s with capturing }
      if step.kind.isNone then marked
      else inner.foldl (fun marked k => marked.modify k fun s => { s with certain := true }) marked) steps

/-- Check the children of the step `i`, and mark those that are uncertain. -/
def checkParent (schema : Schema) (offsets : Array (Nat × Nat)) (steps : Array Step) (i : Nat) (kind : Kind) :
    Except Fault (Array Step) :=
  match schema.groupOf[kind]? with
  | none => .error (.impossible (offsetOf offsets (i + 1)))
  | some g =>
    let start := (List.range (schema.groups.getD g []).length).map fun r => (⟨[⟨g, r, 0, none⟩], i + 1⟩ : Walk)
    let found := explore schema steps explorationLimit 0 0 { todo := start }
    let doubt (steps : Array Step) (k : Nat) : Array Step :=
      if (steps.getD k .done).deadEnd then steps else steps.modify k fun s => { s with certain := false }
    let inner := below steps i
    if found.gaveUp then .ok (inner.foldl doubt steps)
    else if !found.possible then .error (.impossible (offsetOf offsets (found.uncertain.foldl max i)))
    else .ok ((found.uncertain.filter inner.contains).foldl doubt steps)

/-- Check all patterns. -/
def check (schema : Schema) (offsets : Array (Nat × Nat)) (steps : Array Step) : Except Fault (Array Step) :=
  (List.range steps.size).foldlM (fun marked i =>
    match (steps.getD i .done).kind with
    | some kind =>
      if (steps.getD i .done).asksForError || (below steps i).isEmpty then .ok marked else checkParent schema offsets marked i kind
    | none => .ok marked) (mark steps)

end Graft.Query
