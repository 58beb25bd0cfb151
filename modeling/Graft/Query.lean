import Graft.Query.Condition
import Graft.Query.Possible
import Graft.Query.Reader
import Graft.Query.Search
import Graft.Text.Alphanumeric
import Graft.Text.Lines

set_option autoImplicit false

/-!
# Queries

A query describes nodes by their kinds, fields and children, and names the ones of interest. It is
compiled against the schema of a grammar and then run on trees.
-/

namespace Graft

structure Query where
  program : Query.Program
  captureNames : Array String
  /-- The conditions on the matches of each pattern. -/
  conditions : Array (List Query.Condition)

/-- A node that a query has named. -/
structure Capture where
  name : String
  span : Span
  text : String
  deriving BEq, DecidableEq, Inhabited, Repr

/-- A match with the range that its captures cover. -/
structure QueryMatch where
  start : Nat
  stop : Nat
  captures : List Capture
  deriving BEq, DecidableEq, Inhabited, Repr

namespace QueryMatch

/-- Matches that start earlier come first, and of those that start together longer ones. -/
def before (a b : QueryMatch) : Bool := a.start < b.start || (a.start == b.start && b.stop ≤ a.stop)

/-- The first capture of a name. -/
def capture? (m : QueryMatch) (name : String) : Option Capture := m.captures.find? (·.name == name)

/-- The text of the first capture of a name. -/
def text (m : QueryMatch) (name : String) : String := ((m.capture? name).map (·.text)).getD ""

end QueryMatch

namespace Query

/-! ## Faults -/

/-- The line that holds an offset, with its row and the offset of its start. Every line is taken to end
with one more byte. -/
def lineAt (offset : Nat) : Nat → Nat → List (List Char) → Nat × Nat × Option String
  | row, start, [] => (row, start, none)
  | row, start, line :: rest =>
    let line := match line.getLast? with
      | some '\r' => line.dropLast
      | _ => line
    let stop := start + Text.byteLength line + 1
    if offset < stop then (row, start, some (String.ofList line)) else lineAt offset (row + 1) stop rest

/-- The rest of a text in quotes; an escaped quote does not end it. -/
def untilQuote (escaped : Bool) : List Char → List Char
  | [] => []
  | c :: cs => if c == '"' && !escaped then [] else c :: untilQuote (c == '\\' && !escaped) cs

/-- The name that a fault is about. -/
def nameAt (source : String) (offset : Nat) : String :=
  let before := Text.before source.toList offset
  let after := Text.after source.toList offset
  String.ofList (if before.getLast? == some '"' then untilQuote false after
    else after.takeWhile fun c => Text.isAlphanumeric c || c == '_' || c == '-')

def Fault.message (source : String) (f : Fault) : String :=
  let placed (offset : Nat) (what : String) : String :=
    let (row, start, _) := lineAt offset 0 0 (Text.lines source.toList)
    s!"Query error at {row + 1}:{offset - start + 1}. " ++ what
  let named (offset : Nat) (what : String) : String := placed offset (what ++ nameAt source offset)
  let shown (offset : Nat) (what : String) : String :=
    let (_, start, line) := lineAt offset 0 0 (Text.lines source.toList)
    placed offset (what ++ match line with
      | some line => line ++ "\n" ++ String.ofList (List.replicate (offset - start) ' ') ++ "^"
      | none => "Unexpected EOF")
  "invalid tree-sitter query: " ++ match f with
    | malformed offset => shown offset "Invalid syntax:\n"
    | unknownKind offset => named offset "Invalid node type "
    | unknownField offset => named offset "Invalid field name "
    | unknownCapture offset => named offset "Invalid capture name "
    | impossible offset => shown offset "Impossible pattern:\n"
    | predicate row reason => s!"Query error at {row + 1}:1. Invalid predicate: {reason}"

/-! ## Compiling -/

/-- Add a beginning of a pattern: before those of the same kind that belong to it already. -/
def Program.addEntry (p : Program) (e : Entry) : Program :=
  match (p.stepAt e.step).kind with
  | none => { p with anywhere := p.anywhere ++ [e] }
  | some k =>
    let (before, after) := p.atKind.span fun (k', e') => !(k' == k && e.pattern ≤ e'.pattern)
    { p with atKind := before ++ (k, e) :: after }

/-- Whether a match beginning at a step is one node with what it has below. -/
def isRooted (steps : Array Step) (start : Nat) : Bool :=
  let depth := (steps.getD start .done).depth
  depth == some 0 && ((((List.range steps.size).drop (start + 1)).map (steps.getD · .done)).takeWhile
    fun s => !s.deadEnd && !s.isDone).all fun s => s.depth != depth

/-- Add the beginnings of a pattern. A pattern that starts with any node is entered at the child of it
that has a kind. -/
def Program.addEntries (pattern : Nat) : Nat → Nat → Option Nat → Program → Program
  | 0, _, _, p => p
  | fuel + 1, start, pending, p =>
    let first := p.stepAt start
    let second := p.stepAt (start + 1)
    let skips := first.kind.isNone && first.depth == some 0 && first.field.isNone &&
      second.kind.isSome && second.depth == some 1 && !second.immediate
    let pending := if skips then first.alternative else pending
    let start := if skips then start + 1 else start
    let step := p.stepAt start
    if step.isDone then p
    else
      let p := p.addEntry ⟨start, pattern, isRooted p.steps start⟩
      match step.alternative with
      | some k => addEntries pattern fuel k pending
          { p with steps := p.steps.modify start fun s => { s with alternative := none } }
      | none => match pending with
        | some k => addEntries pattern fuel k none p
        | none => p

/-- The row of an offset. -/
def rowOf (source : String) (offset : Nat) : Nat := ((Text.before source.toList offset).filter (· == '\n')).length

/-- Compile a query. -/
def compile (schema : Schema) (source : String) : Except Fault Query := do
  let (patterns, reading) ← read schema source
  let entered := patterns.zipIdx.foldl (fun (p : Program) (pattern, i) =>
    -- Only the steps up to the end of the pattern were there when its beginnings were looked for.
    p.addEntries i reading.steps.size pattern.start none) { steps := reading.steps }
  let steps ← check schema reading.offsets entered.steps
  let conditions ← patterns.mapM fun pattern => do
    let found ← pattern.predicates.mapM (Condition.ofPredicate (rowOf source pattern.offset) reading.captures)
    return found.filterMap id
  return { program := { entered with steps }, captureNames := reading.captures, conditions := conditions.toArray }

/-! ## Running -/

/-- The match that an attempt came to, if it captured anything. -/
def matchOf (q : Query) (d : Document) (a : Attempt) : Option QueryMatch :=
  let captures := a.captures.toList.map fun (id, n) => (⟨q.captureNames.getD id "", n.span, d.text n⟩ : Capture)
  match captures with
  | [] => none
  | first :: _ => some
    { start := captures.foldl (fun m c => min m c.span.start) first.span.start
      stop := captures.foldl (fun m c => max m c.span.stop) 0
      captures }

/-- All matches in a document. -/
def findAll (q : Query) (d : Document) : List QueryMatch :=
  let attempts := (q.program.run d.root).filter fun a =>
    (q.conditions.getD a.pattern []).all (·.holds d a.captures.toList)
  (attempts.filterMap (q.matchOf d)).mergeSort QueryMatch.before

end Query

end Graft
