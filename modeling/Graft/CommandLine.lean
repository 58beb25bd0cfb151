import Graft.CodePattern
import Graft.CommandLine.Arguments
import Graft.CommandLine.FileTree
import Graft.CommandLine.Report
import Graft.Component
import Graft.Markup
import Graft.Plan
import Graft.Query
import Graft.Validation

set_option autoImplicit false

/-!
# The command line

A run takes files and arguments, and gives what it prints, how it ends, and the files afterwards.
-/

namespace Graft.CommandLine

/-- How a run ends. -/
inductive Ending where
  | success
  | failure
  /-- The arguments were used wrongly. -/
  | usage
  deriving BEq, DecidableEq, Inhabited, Repr

def Ending.code : Ending → UInt32
  | success => 0
  | failure => 1
  | usage => 2

/-- What a run comes to. -/
structure Run where
  files : FileTree
  output : String := ""
  errors : String := ""
  ending : Ending := .success
  deriving Inhabited

/-- What parsing and querying need. -/
structure Tools where
  parse : String → Document
  schema : Query.Schema

namespace Run

def print (r : Run) (text : String) : Run := { r with output := r.output ++ text }

def complain (r : Run) (text : String) : Run := { r with errors := r.errors ++ text }

def endIf (r : Run) (failed : Bool) : Run := if failed then { r with ending := .failure } else r

/-- End with an error, below which its cause is told, indented. -/
def abort (r : Run) (message : String) (cause : Option String := none) : Run :=
  let told := match cause with
    | some cause => "\n\nCaused by:\n" ++ "\n".intercalate ((cause.splitOn "\n").map fun line => "    " ++ line)
    | none => ""
  (r.complain ("Error: " ++ message ++ told ++ "\n")).endIf true

end Run

/-- What is said about a file that is not there. -/
def noSuchFile : String := "No such file or directory (os error 2)"

def name : String := "tsx-patcher"

def versionLine : String := name ++ " 0.1.0\n"

/-! ## Applying plans -/

/-- How many files came out in which way. -/
structure Tally where
  changed : Nat := 0
  unchanged : Nat := 0
  failed : Nat := 0
  deriving BEq, DecidableEq, Inhabited, Repr

def Tally.count (t : Tally) (r : FileReport) : Tally :=
  if !r.outcome.success then { t with failed := t.failed + 1 }
  else if r.changed then { t with changed := t.changed + 1 }
  else { t with unchanged := t.unchanged + 1 }

def Tally.line (t : Tally) (write : Bool) : String :=
  let verb := if write then "changed" else "would change"
  s!"\nSummary: {t.changed} {verb}, {t.unchanged} unchanged, {t.failed} failed\n"

/-- Carry out a plan on one file that is there. -/
def applyToFile (tools : Tools) (plan : Plan) (write : Bool) (files : FileTree) (file before : String) :
    Except (Nat × AmbiguousImport) (FileReport × FileTree) := do
  let outcome ← plan.apply tools.parse before
  let report : FileReport := { file, before, outcome, written := false }
  match outcome.code with
  | some code =>
    if write && outcome.success && report.changed then return ({ report with written := true }, files.write file code)
    else return (report, files)
  | none => return (report, files)

/-- Print what became of a file. -/
def Run.tell (r : Run) (options : ApplyOptions) (report : FileReport) : Run :=
  if options.json then r.print report.json
  else
    let r := if report.outcome.success then r.print (report.line options.write) else r
    let r := r.complain report.problems
    if options.diff && report.changed then r.print report.diff else r

/-- Carry out a plan on files, one after the other. -/
def applyAll (tools : Tools) (plan : Plan) (options : ApplyOptions) : List String → Tally → Run → Run
  | [], tally, r =>
    let r := if options.json then r else r.print (tally.line options.write)
    r.endIf (tally.failed != 0)
  | file :: rest, tally, r => match r.files.read? file with
    | none => applyAll tools plan options rest { tally with failed := tally.failed + 1 }
        (r.complain s!"✗ I/O error on {file}: {noSuchFile}\n")
    | some before => match applyToFile tools plan options.write r.files file before with
      | .error (number, cause) => r.abort (ambiguousRequestMessage number cause) (some cause.message)
      | .ok (report, files) =>
        applyAll tools plan options rest (tally.count report) (Run.tell { r with files } options report)

def apply (tools : Tools) (options : ApplyOptions) (r : Run) : Run :=
  match r.files.read? options.plan with
  | none => r.abort s!"cannot read plan {options.plan}: {noSuchFile}" (some noSuchFile)
  | some text => match Plan.read text with
    | .error (.incomplete issues) =>
      r.abort ((PlanError.incomplete issues).message (some options.plan)) (some (PlanIssue.summary issues))
    | .error .malformed => r.abort (PlanError.malformed.message (some options.plan))
    | .ok plan =>
      let files := r.files.select options.paths
      if files.isEmpty then r.abort "no .tsx or .jsx files found"
      else
        let title := if plan.name.isEmpty then options.plan else plan.name
        let r := if options.json then r else r.print s!"Plan: {title} ({plan.requests.length} request(s))\n\n"
        applyAll tools plan options files {} r

/-! ## Looking things up -/

/-- Parse a file and go on with it. -/
def withFile (tools : Tools) (file : String) (r : Run) (go : Document → Run) : Run :=
  match r.files.read? file with
  | none => r.abort ("reading " ++ file) (some noSuchFile)
  | some text => go (tools.parse text)

def printNodes (d : Document) (nodes : List Node) (r : Run) : Run :=
  (r.print (String.join (nodes.map fun n => spanLine d n.span))).endIf nodes.isEmpty

/-- Print matches: the range of each, and what it named. -/
def printMatches (d : Document) (found : List (Nat × Nat × List (String × String))) (r : Run) : Run :=
  let lines := found.map fun (start, stop, named) =>
    spanLine d ⟨"match", start, stop⟩ ++ String.join (named.map fun (name, text) => captureLine name text)
  (r.print (String.join lines)).endIf found.isEmpty

def lookUp (tools : Tools) (lookup : Lookup) (d : Document) (r : Run) : Run :=
  match lookup with
  | .kind kind => printNodes d (d.findNodes kind) r
  | .component tag => match d.findComponent tag with
    | some n => printNodes d [n] r
    | none =>
      let hint := match d.suggestTag tag with
        | some suggestion => s!" (did you mean <{suggestion}>?)"
        | none => ""
      (r.complain s!"✗ no <{tag}> element{hint}\n").endIf true
  | .function name => match d.findFunction name with
    | some f => printNodes d [f.declaration, f.body] r
    | none => (r.complain s!"✗ no function named {name}\n").endIf true
  | .query source => match Query.compile tools.schema source with
    | .error fault => r.abort (fault.message source)
    | .ok q => printMatches d ((q.findAll d).map fun m =>
        (m.start, m.stop, m.captures.map fun c => ("@" ++ c.name, c.text))) r
  | .pattern source => match CodePattern.compile tools.parse source with
    | .error e => r.abort e.message
    | .ok p => printMatches d ((p.findAll d).map fun m =>
        (m.start, m.stop, m.captures.map fun (name, text) => ("$" ++ name, text))) r

/-! ## Checking -/

def check (file : String) (d : Document) (r : Run) : Run :=
  match d.errors with
  | [] => r.print s!"✓ {file}: no syntax errors\n"
  | errors =>
    let lines := errors.map fun e => s!"{file}:{e.line}:{e.column}: syntax error near `{e.context}`\n"
    (r.print (String.join lines ++ s!"{errors.length} syntax error(s)\n")).endIf true

/-! ## Running -/

/-- What is said when the arguments are used wrongly. -/
def usage : String :=
  "Usage: " ++ name ++ " [--verbose] <command>\n\n" ++
  "  apply --plan <plan> <paths>... [--write] [--diff] [--json]\n" ++
  "  query <file> --kind <kind> | --component <tag> | --function <name> | --sexp <query> | --pattern <pattern>\n" ++
  "  check <file>\n"

/-- Run the command line on files. -/
def run (tools : Tools) (files : FileTree) (arguments : List String) : Run :=
  let r : Run := { files }
  match Command.read arguments with
  | none => { r.complain usage with ending := .usage }
  | some .version => r.print versionLine
  | some .help => r.print usage
  | some (.apply options) => apply tools options r
  | some (.query file lookup) => withFile tools file r fun d => lookUp tools lookup d r
  | some (.check file) => withFile tools file r fun d => check file d r

end Graft.CommandLine
