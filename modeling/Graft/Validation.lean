import Graft.Tree.Document

set_option autoImplicit false

/-!
# Validation

Whether a text can be parsed, and whether an edit makes it worse. Offsets move under editing, so
errors are compared by their number: an edited text may keep errors but not have more.
-/

namespace Graft

/-- Where an error is, for people: line and column count from one, the column in bytes. -/
structure ErrorLocation where
  start : Nat
  stop : Nat
  line : Nat
  column : Nat
  context : String
  deriving BEq, DecidableEq, Inhabited, Repr

/-- What a snippet of code is meant to be. -/
inductive SnippetCategory where
  /-- One or more statements of a function body. -/
  | statement
  | expression
  /-- Markup that can stand between tags. -/
  | markup
  deriving BEq, DecidableEq, Inhabited, Repr

def SnippetCategory.name : SnippetCategory → String
  | statement => "statement"
  | expression => "expression"
  | markup => "markup"

/-- Why a text is not accepted. -/
inductive ValidationError where
  | introduced (count : Nat) (errors : List ErrorLocation)
  | snippet (category : SnippetCategory) (context : String)
  | outOfBounds (start stop length : Nat)
  deriving BEq, DecidableEq, Inhabited, Repr

def ValidationError.message : ValidationError → String
  | introduced count _ => s!"parse error introduced: found {count} new ERROR nodes"
  | snippet category context => s!"invalid {category.name} snippet: {context}"
  | outOfBounds start stop length => s!"edit range {start}..{stop} is outside a source of {length} bytes"

/-- Write line breaks as `\n`. -/
def escapeLineBreaks (text : List Char) : String :=
  String.ofList (text.flatMap fun c => if c == '\n' then ['\\', 'n'] else [c])

/-- The text around a range, up to twenty bytes on either side. -/
def contextOf (source : List Char) (start stop : Nat) : String :=
  let left := Text.floorBoundary source (start - 20)
  let right := Text.floorBoundary source (min (stop + 20) (Text.byteLength source))
  escapeLineBreaks ((Text.slice? source left right).getD [])

namespace Document

/-- Where the errors of a document are. -/
def errors (d : Document) : List ErrorLocation :=
  let source := d.source.toList
  d.root.flaws.map fun n =>
    let (row, column) := Text.pointAt source n.start
    { start := n.start, stop := n.stop, line := row + 1, column := column + 1
      context := contextOf source n.start n.stop }

/-- A document without errors. -/
def validate (d : Document) : Except ValidationError Unit :=
  match d.errors with
  | [] => .ok ()
  | errors => .error (.introduced errors.length errors)

/-- Whether the second document is no worse than the first. -/
def validateOutput (before after : Document) : Except ValidationError Unit :=
  let old := before.errors
  let new := after.errors
  if new.length > old.length then
    let introduced := new.filter fun e => !old.contains e
    .error (.introduced (max introduced.length 1) introduced)
  else .ok ()

end Document

/-- A text with the bytes between two offsets replaced. -/
def replaceRange? (source : List Char) (start stop : Nat) (text : List Char) : Option (List Char) :=
  if start ≤ stop then do
    let (before, rest) ← Text.splitBytes source start
    let (_, after) ← Text.splitBytes rest (stop - start)
    return before ++ text ++ after
  else none

/-- Try an edit on a document and see whether it makes it worse. -/
def Document.validateEdit (parse : String → Document) (before : Document) (start stop : Nat) (text : String) :
    Except ValidationError Unit :=
  match replaceRange? before.source.toList start stop text.toList with
  | some edited => before.validateOutput (parse (String.ofList edited))
  | none => .error (.outOfBounds start stop before.length)

/-- The smallest text in which a snippet stands where it is meant to. -/
def SnippetCategory.wrap : SnippetCategory → String → String
  | statement, snippet => "function __wrapper__() \x7b\n" ++ snippet ++ "\n\x7d"
  | expression, snippet => "const __wrapper__ = (\n" ++ snippet ++ "\n);"
  | markup, snippet => "const __wrapper__ = (\n<>\n" ++ snippet ++ "\n</>\n);"

/-- Whether a snippet can stand where it is meant to. -/
def validateSnippet (parse : String → Document) (snippet : String) (category : SnippetCategory) :
    Except ValidationError Unit :=
  match (parse (category.wrap snippet)).validate with
  | .ok () => .ok ()
  | .error _ => .error (.snippet category (escapeLineBreaks (snippet.toList.take 60)))

end Graft
