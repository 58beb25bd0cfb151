import Graft.Data.Json
import Graft.Diff
import Graft.Session.Outcome
import Graft.Text.Lines
import Graft.Tree.Document

set_option autoImplicit false

/-!
# What is printed

Lines for people, and one record for each file for other programs.
-/

namespace Graft

def Data.ofOption (value : Option String) : Data := (value.map Data.text).getD .null

/-- An error as data. -/
def GenerationError.data : GenerationError → Data
  | parseFailure reason => .record [("kind", .text "parse_failure"), ("message", .text reason)]
  | importConflict c => .record [("kind", .text "import_conflict"), ("module", .text c.path),
      ("specifier", .text c.kind.name), ("existing", .text c.existing), ("requested", .text c.requested)]
  | targetNotFound request target suggestion => .record [("kind", .text "target_not_found"),
      ("request", .text request), ("target", .text target), ("suggestion", .ofOption suggestion)]
  | textNotFound search => .record [("kind", .text "text_not_found"), ("search", .text search)]
  | rangeConflict request other start stop => .record [("kind", .text "range_conflict"),
      ("request", .text request), ("other", .text other), ("byte_start", .number (toString start)),
      ("byte_end", .number (toString stop))]
  | duplicateDeclaration name component => .record [("kind", .text "duplicate_declaration"),
      ("name", .text name), ("component", .text component)]
  | invalidEdit request reason => .record [("kind", .text "invalid_edit"), ("request", .text request),
      ("message", .text reason)]
  | syntaxRegression count => .record [("kind", .text "syntax_regression"), ("count", .number (toString count))]

def Outcome.data (o : Outcome) : Data := .record [("success", .bool o.success), ("code", .ofOption o.code),
  ("errors", .list (o.errors.map GenerationError.data))]

namespace CommandLine

/-- What became of a file. -/
structure FileReport where
  file : String
  /-- The content before. -/
  before : String
  outcome : Outcome
  written : Bool
  deriving BEq, DecidableEq, Inhabited, Repr

namespace FileReport

/-- Whether other code was generated. -/
def changed (r : FileReport) : Bool := r.outcome.code.any (· != r.before)

def json (r : FileReport) : String := (Data.record [("file", .text r.file), ("changed", .bool r.changed),
  ("written", .bool r.written), ("result", r.outcome.data)]).toJson ++ "\n"

/-- What is said about a file whose code could be generated. -/
def line (r : FileReport) (write : Bool) : String :=
  if r.changed then
    let verb := if r.written then "Written" else if write then "Changed" else "Would change"
    s!"✓ {r.file}: {verb}\n"
  else s!"⊙ {r.file}: No changes\n"

/-- What went wrong with a file. -/
def problems (r : FileReport) : String :=
  (if r.outcome.success then "" else s!"✗ {r.file}: generation failed\n") ++
    String.join (r.outcome.errors.map fun e => s!"    ! {e.message}\n")

/-- The difference that the generated code makes. -/
def diff (r : FileReport) : String :=
  match r.outcome.code with
  | some code => s!"\n--- {r.file} (original)\n+++ {r.file} (generated)\n" ++ Diff.render r.before code
  | none => ""

end FileReport

/-- The first line of a text. -/
def firstLine (text : String) : String :=
  let cs := text.toList
  let line := cs.takeWhile (· != '\n')
  String.ofList (if line.length < cs.length && line.getLast? == some '\r' then line.dropLast else line)

/-- A line about a part of a document: where it is, what it is, and how it begins. -/
def spanLine (d : Document) (s : Span) : String :=
  let (row, column) := Text.pointAt d.source.toList s.start
  s!"{row + 1}:{column + 1}  {s.render}  {firstLine (Text.slice d.source s.start s.stop)}\n"

/-- A line about a named part of a match. -/
def captureLine (name text : String) : String := s!"    {name}  {firstLine text}\n"

end CommandLine

end Graft
