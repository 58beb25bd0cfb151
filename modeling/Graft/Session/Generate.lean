import Graft.Import.Placement
import Graft.Session.Draft
import Graft.Substitution

set_option autoImplicit false

/-!
# Generating code

All requests of a session are carried out at once. Those about structure are drafted one after the
other; a draft that breaks the syntax or collides with an earlier one is left out. Imports are merged
module by module. The edits of all of them are made on the source, and last of all text is
substituted.
-/

namespace Graft

/-- How far the requests of a session have come. -/
structure Progress where
  errors : List GenerationError := []
  accepted : List Draft := []
  deriving BEq, DecidableEq, Inhabited, Repr

namespace Progress

def fail (p : Progress) (e : GenerationError) : Progress := { p with errors := p.errors ++ [e] }

def accept (p : Progress) (d : Draft) : Progress := { p with accepted := p.accepted ++ [d] }

/-- The names that accepted drafts declare. -/
def declared (p : Progress) : List (Nat × String) := p.accepted.flatMap (·.declares)

end Progress

/-- Whether a request is about the structure of the file. -/
def Request.isStructural : Request → Bool
  | .addImport _ | .replace _ _ => false
  | _ => true

/-- The import that a request asks for. -/
def Request.importSpec? : Request → Option ImportSpec
  | .addImport spec => some spec
  | _ => none

/-- The text that a request substitutes, and what for. -/
def Request.substitution? : Request → Option (String × String)
  | .replace search replacement => some (search, replacement)
  | _ => none

/-- What a request with a number is called in messages. -/
def Request.label (request : Request) (seq : Nat) : String := s!"#{seq} {request.render}"

namespace Workspace

/-- Sketch a request about structure; there is no sketch for others. -/
def sketch (w : Workspace) (declared : List (Nat × String)) (request : Request) (label : String) :
    Option (Except GenerationError Sketch) :=
  match request with
  | .addImport _ | .replace _ _ => none
  | .addState state => some (w.sketchState declared state label)
  | .addEffect effect => some (w.sketchEffect effect label)
  | .wrap target wrapper => some (w.sketchWrap target wrapper label)
  | .insert target position markup => some (w.sketchMarkup target position markup label)
  | .delete target => some (w.sketchDelete target label)

/-- Draft a request about structure. -/
def draft (w : Workspace) (declared : List (Nat × String)) (request : Request) (seq : Nat) :
    Option (Except GenerationError Draft) :=
  let label := request.label seq
  (w.sketch declared request label).map fun sketch => sketch.map (Sketch.draft w.document.source seq label)

/-- Try the edits of a draft alone: they must not break the syntax. `baseline` is the source parsed. -/
def screen (w : Workspace) (baseline : Document) (p : Draft) : Except GenerationError Unit :=
  let invalid (reason : String) : GenerationError := .invalidEdit p.label reason
  match p.edits with
  | [e] => (baseline.validateEdit w.parse e.start e.stop e.text).mapError fun e => invalid e.message
  | edits => do
    let edited ← (Edit.applyBatch w.document.source edits).mapError fun e => invalid e.message
    (baseline.validateOutput (w.parse edited)).mapError fun e => invalid e.message

/-- Accept a draft unless it breaks the syntax or collides with an accepted one. -/
def consider (w : Workspace) (baseline : Document) (progress : Progress) (p : Draft) : Progress :=
  let screened := if w.options.validateOutput then w.screen baseline p else .ok ()
  match screened with
  | .error e => progress.fail e
  | .ok () =>
    match progress.accepted.findSome? fun other => (p.conflict other).map fun range => (other, range) with
    | some (other, range) => progress.fail (.rangeConflict p.label other.label range.start range.stop)
    | none => progress.accept p

/-- Carry one request further. -/
def step (w : Workspace) (baseline : Document) (progress : Progress) (request : Request) (seq : Nat) : Progress :=
  match w.draft progress.declared request seq with
  | none => progress
  | some (.error e) => progress.fail e
  | some (.ok p) => w.consider baseline progress p

/-- Draft all requests, numbered from one. -/
def draftAll (w : Workspace) (baseline : Document) (queue : List Request) : Progress :=
  queue.zipIdx.foldl (fun progress (request, i) => w.step baseline progress request (i + 1)) {}

/-! ## Imports -/

/-- Keep an insertion of an import unless it lies in text that a draft removes. -/
def unblocked (accepted : List Draft) (label : String) (e : Edit) : Except GenerationError Edit :=
  match accepted.find? fun p => p.removals.any fun removal => removal.invalidates e.range with
  | some other => .error (.rangeConflict label other.label e.start e.stop)
  | none => .ok e

/-- The edits that the imports need, and what goes wrong with them. -/
structure ImportEdits where
  edits : List Edit := []
  errors : List GenerationError := []

/-- Add one insertion, if nothing removes its place. -/
def ImportEdits.add (accepted : List Draft) (label : String) (out : ImportEdits) (e : Edit) : ImportEdits :=
  match unblocked accepted label e with
  | .ok e => { out with edits := out.edits ++ [e] }
  | .error error => { out with errors := out.errors ++ [error] }

/-- The order of the block of new imports: before everything else at its offset. -/
def importBlockOrder : Int := -0x8000000000000000

/-- Merge the request for one module; statements that are to be written are gathered. -/
def mergeModule (existing : List ExistingImport) (accepted : List Draft) (gathered : ImportEdits × List ImportSpec)
    (spec : ImportSpec) : ImportEdits × List ImportSpec :=
  let (out, statements) := gathered
  let r := resolveModule spec existing
  let out := { out with errors := out.errors ++ r.conflicts.map .importConflict }
  let label := s!"import merge for '{spec.path}'"
  (r.edits.foldl (ImportEdits.add accepted label) out, statements ++ r.newStatements)

/-- Merge the requested imports into those of the file; new statements go into one block. -/
def importEdits (w : Workspace) (specs : List ImportSpec) (accepted : List Draft) : ImportEdits :=
  if specs.isEmpty then {}
  else
    let (grouped, conflicts) := groupByModule specs
    let existing := w.document.imports
    let start : ImportEdits × List ImportSpec := ({ errors := conflicts.map .importConflict }, [])
    let (out, statements) := grouped.foldl (mergeModule existing accepted) start
    if statements.isEmpty then out
    else
      let placement := w.document.importPlacement existing
      let block := renderStatements statements (.ofImports existing) placement (String.ofList w.eol)
      let e := { Edit.insertion placement.offset block with order := importBlockOrder }
      out.add accepted "new import statements" e

/-! ## The result -/

/-- Substitute text, one request after the other. -/
def substituteAll (substitutions : List (String × String)) (code : String) : String × List GenerationError :=
  substitutions.foldl (fun (code, errors) (search, replacement) =>
    match replaceAll code search replacement with
    | .ok s => (s.text, errors)
    | .error (.notFound search) => (code, errors ++ [.textNotFound search])) (code, [])

/-- Check generated code against the source, if that is wanted. -/
def finish (w : Workspace) (baseline : Document) (code : String) (errors : List GenerationError) : Outcome :=
  if w.options.validateOutput then
    match baseline.validateOutput (w.parse code) with
    | .ok () => .emitted code errors
    | .error (.introduced count _) => .failed (errors ++ [.syntaxRegression count])
    | .error e => .failed (errors ++ [.parseFailure e.message])
  else .emitted code errors

/-- Carry out all requests. -/
def generate (w : Workspace) (queue : List Request) : Outcome :=
  if queue.isEmpty then .emitted w.document.source []
  else
    let baseline := w.parse w.document.source
    let progress := w.draftAll baseline queue
    let imports := w.importEdits (queue.filterMap (·.importSpec?)) progress.accepted
    let errors := progress.errors ++ imports.errors
    let edits := imports.edits ++ progress.accepted.flatMap (·.edits)
    match Edit.applyBatch w.document.source edits with
    | .error e => .failed (errors ++ [.invalidEdit "splice" e.message])
    | .ok code =>
      let (code, missing) := substituteAll (queue.filterMap (·.substitution?)) code
      w.finish baseline code (errors ++ missing)

end Workspace

end Graft
