import Graft.Component
import Graft.Session.Outcome
import Graft.Session.Request
import Graft.Text.Lines
import Graft.Validation

set_option autoImplicit false

/-!
# Drafts of requests

A request about the structure of a file becomes a few edits of its text. A draft also says which
ranges must stay as they are for it to make sense, and which names it declares, so that drafts can
be compared with each other. What a request does to the text does not depend on its number, so it is
sketched first; the number decides only how insertions at the same offset are ordered.
-/

namespace Graft

/-! ## Drafts -/

structure ByteRange where
  start : Nat
  stop : Nat
  deriving BEq, DecidableEq, Inhabited, Repr

namespace ByteRange

def isEmpty (r : ByteRange) : Bool := r.stop ≤ r.start

/-- Whether a removal cuts across a range or swallows it. A removal strictly inside leaves the edges
of the range alone. -/
def invalidates (removal anchor : ByteRange) : Bool :=
  if anchor.isEmpty then removal.start < anchor.start && anchor.start < removal.stop
  else
    let overlaps := removal.start < anchor.stop && anchor.start < removal.stop
    let inside := anchor.start ≤ removal.start && removal.stop ≤ anchor.stop && removal != anchor
    overlaps && !inside

end ByteRange

def Edit.range (e : Edit) : ByteRange := ⟨e.start, e.stop⟩

def Node.range (n : Node) : ByteRange := ⟨n.start, n.stop⟩

/-- Where an insertion stands among others at the same offset: closing tags first, then text that
belongs to what comes before, text that belongs to what comes after, and opening tags. -/
inductive Slot where
  | closing
  | trailing
  | leading
  | opening
  deriving BEq, DecidableEq, Inhabited, Repr

/-- How many requests a slot has room for. -/
def Slot.band : Int := 0x100000000

/-- The order of an insertion: by slot, then by request; closing tags the other way round. -/
def Slot.order (seq : Nat) : Slot → Int
  | closing => -(seq : Int)
  | trailing => band + seq
  | leading => 2 * band + seq
  | opening => 3 * band + seq

/-- A text that a request puts in: where, what, and in which slot. -/
structure Insert where
  offset : Nat
  text : String
  slot : Slot
  deriving BEq, DecidableEq, Inhabited, Repr

def Insert.edit (seq : Nat) (i : Insert) : Edit :=
  { Edit.insertion i.offset i.text with order := i.slot.order seq }

/-- The edit that takes a range out of a text. -/
def ByteRange.removal (source : String) (r : ByteRange) : Edit :=
  .replacement r.start r.stop "" (Text.slice source r.start r.stop)

/-- A request that has become edits. -/
structure Draft where
  label : String
  edits : List Edit
  /-- Ranges that must stay intact. -/
  anchors : List ByteRange
  /-- Names that are declared, each with the start of the body that it is declared in. -/
  declares : List (Nat × String) := []
  deriving BEq, DecidableEq, Inhabited, Repr

namespace Draft

/-- The ranges that a draft removes. -/
def removals (p : Draft) : List ByteRange := (p.edits.filter fun e => !e.isInsertion).map (·.range)

/-- The first range that the other draft needs and this one takes away. -/
def breaks (p other : Draft) : Option ByteRange :=
  p.removals.findSome? fun removal => other.anchors.find? fun anchor => removal.invalidates anchor

/-- The range where two drafts collide. -/
def conflict (p other : Draft) : Option ByteRange :=
  (p.breaks other).or <| (other.breaks p).or <|
    (p.edits.find? fun e => other.edits.any fun f => e.overlaps f).map (·.range)

end Draft

/-- What a request does to the text, before it has a number. -/
structure Sketch where
  inserts : List Insert := []
  removed : Option ByteRange := none
  /-- Ranges that must stay intact. -/
  anchors : List ByteRange
  /-- Names that are declared, each with the start of the body that it is declared in. -/
  declares : List (Nat × String) := []
  deriving BEq, DecidableEq, Inhabited, Repr

/-- The draft of a request with a number. -/
def Sketch.draft (source : String) (seq : Nat) (label : String) (s : Sketch) : Draft :=
  { label
    edits := s.inserts.map (Insert.edit seq) ++ s.removed.toList.map (ByteRange.removal source)
    anchors := s.anchors
    declares := s.declares }

/-! ## What drafts depend on -/

/-- The file that requests are drafted for. -/
structure Workspace where
  document : Document
  options : SessionOptions
  parse : String → Document

namespace Workspace

def chars (w : Workspace) : List Char := w.document.source.toList

def eol (w : Workspace) : List Char := Text.lineEnding w.chars

/-! ## Finding targets -/

/-- The node of a target. If there is none and the tag is nowhere, a similar one may be suggested. -/
def resolveTarget (w : Workspace) (target : Target) (label : String) : Except GenerationError Node :=
  let found := match target with
    | .node span => w.document.resolve span
    | .locate locator => w.document.findElement locator
  match found with
  | some n => .ok n
  | none =>
    let suggestion := match target with
      | .locate locator =>
        if (w.document.findComponent locator.tag).isNone then w.document.suggestTag locator.tag else none
      | .node _ => none
    .error (.targetNotFound label target.render suggestion)

/-- The component that statements go into, with its name. It must have a block as its body. -/
def resolveComponent (w : Workspace) (name : Option String) (label : String) :
    Except GenerationError (FunctionMatch × String) :=
  let found := match name with
    | some n => w.document.findFunction n
    | none => w.document.defaultComponent
  match found with
  | none =>
    let target := match name with
      | some n => s!"component {n}"
      | none => "default component"
    .error (.targetNotFound label target none)
  | some f =>
    let component := ((f.declaration.child? "name").map w.document.text).getD "default export"
    if f.hasBlock then .ok (f, component)
    else .error (.invalidEdit label s!"{component} has an expression body, statements cannot be added")

/-- The indentation of the statements of a body. -/
def bodyIndent (w : Workspace) (body : Node) : List Char :=
  match body.namedChildren[0]? with
  | some first =>
    if Text.startsLine w.chars first.start then Text.lineIndent w.chars first.start
    else Text.nestedIndent (Text.lineIndent w.chars body.start)
  | none => Text.nestedIndent (Text.lineIndent w.chars body.start)

/-! ## State -/

/-- The declaration of a state variable, at the very start of a body. -/
def placeState (w : Workspace) (state : StateVariable) (body : Node) : Insert :=
  let statement := s!"const [{state.name}, {state.setter}] = {w.options.hooks.state}({state.initialValue});"
  { offset := body.start + 1
    text := String.ofList (w.eol ++ w.bodyIndent body) ++ statement
    slot := .trailing }

/-- Sketch a state variable; `declared` are the names that earlier drafts declare. -/
def sketchState (w : Workspace) (declared : List (Nat × String)) (state : StateVariable) (label : String) :
    Except GenerationError Sketch := do
  let (component, name) ← w.resolveComponent state.component label
  let body := component.body
  let bound := w.document.boundNames component
  let taken := [state.name, state.setter].find? fun candidate =>
    bound.contains candidate || declared.contains (body.start, candidate)
  match taken with
  | some candidate => throw (.duplicateDeclaration candidate name)
  | none =>
    let insert := w.placeState state body
    return {
      inserts := [insert]
      anchors := [⟨insert.offset, insert.offset⟩]
      declares := [(body.start, state.name), (body.start, state.setter)] }

/-! ## Effects -/

/-- `use` alone, or followed by an upper case letter. -/
def isHookName (name : String) : Bool :=
  match Text.dropStart? name.toList ['u', 's', 'e'] with
  | some [] => true
  | some (c :: _) => c.isUpper
  | none => false

/-- Whether an expression calls a hook. -/
def isHookCall (w : Workspace) (expr : Node) : Bool :=
  if expr.kind != "call_expression" then false
  else match expr.child? "function" with
    | none => false
    | some callee =>
      let name := match callee.kind with
        | "identifier" => some callee
        | "member_expression" => callee.child? "property"
        | _ => none
      match name with
      | some n => isHookName (w.document.text n)
      | none => false

/-- Whether a statement is a call of a hook, or declares something as the value of one. -/
def isHookStatement (w : Workspace) (statement : Node) : Bool :=
  let value := match statement.kind with
    | "expression_statement" => statement.namedChildren[0]?
    | "lexical_declaration" | "variable_declaration" =>
      (statement.namedChildren.filter fun c => c.kind == "variable_declarator").findSome? (·.child? "value")
    | _ => none
  match value with
  | some expr => w.isHookCall expr
  | none => false

/-- The call of an effect. -/
def renderEffect (w : Workspace) (effect : Effect) (indent : List Char) : List Char :=
  let body := Text.reindent effect.body.toList (Text.nestedIndent indent) w.eol
  let dependencies := match effect.dependencies with
    | some deps => ", [" ++ ", ".intercalate deps ++ "]"
    | none => ""
  let head := w.options.hooks.effect ++ "(() => \x7b"
  let tail := "\x7d" ++ dependencies ++ ");"
  if body.isEmpty then head.toList ++ tail.toList
  else head.toList ++ w.eol ++ body ++ w.eol ++ indent ++ tail.toList

/-- The call of an effect in a body: behind the last hook, else before a return at the end, else at the
end. -/
def placeEffect (w : Workspace) (effect : Effect) (body : Node) : Insert :=
  let indent := w.bodyIndent body
  let call := w.renderEffect effect indent
  let apart := w.eol ++ w.eol ++ indent ++ call
  let statements := body.namedChildren.filter fun n => n.kind != "comment"
  match statements.reverse.find? w.isHookStatement with
  | some hook => ⟨hook.stop, String.ofList apart, .trailing⟩
  | none => match statements.getLast? with
    | some last =>
      if last.kind == "return_statement" then
        let text := if Text.startsLine w.chars last.start then call ++ w.eol ++ w.eol ++ indent else call ++ [' ']
        ⟨last.start, String.ofList text, .leading⟩
      else ⟨last.stop, String.ofList apart, .trailing⟩
    | none => ⟨body.start + 1, String.ofList (w.eol ++ indent ++ call), .leading⟩

/-- Sketch an effect. -/
def sketchEffect (w : Workspace) (effect : Effect) (label : String) : Except GenerationError Sketch := do
  let (component, _) ← w.resolveComponent effect.component label
  let insert := w.placeEffect effect component.body
  return { inserts := [insert], anchors := [⟨insert.offset, insert.offset⟩] }

/-! ## Elements -/

def trimmed (text : String) : String := String.ofList (Text.trim text.toList)

/-- The tags of a wrapper. -/
def openingTag (wrapper : Wrapper) : String :=
  let props := match wrapper.props.map trimmed with
    | some p => if p.isEmpty then "" else " " ++ p
    | none => ""
  "<" ++ trimmed wrapper.component ++ props ++ ">"

def closingTag (wrapper : Wrapper) : String := "</" ++ trimmed wrapper.component ++ ">"

/-- Sketch to put an element between the tags of a component. -/
def sketchWrap (w : Workspace) (target : Target) (wrapper : Wrapper) (label : String) :
    Except GenerationError Sketch := do
  if (trimmed wrapper.component).isEmpty then throw (.invalidEdit label "wrapper component name is empty")
  let node ← w.resolveTarget target label
  return {
    inserts := [⟨node.start, openingTag wrapper, .opening⟩, ⟨node.stop, closingTag wrapper, .closing⟩]
    anchors := [node.range] }

/-- The kinds of nodes that are elements with a tag. -/
def elementKinds : List String := ["jsx_element", "jsx_self_closing_element"]

/-- The indentation of the children of an element: that of the first one with a line of its own, else
one level below the element. -/
def childIndent (w : Workspace) (element : Node) (indent : List Char) : List Char :=
  let child := element.namedChildren.find? fun c =>
    (elementKinds.contains c.kind || c.kind == "jsx_expression") && Text.startsLine w.chars c.start
  match child with
  | some c => Text.lineIndent w.chars c.start
  | none => Text.nestedIndent indent

/-- An element as it appears in messages. -/
def describe (w : Workspace) (n : Node) : String :=
  match w.document.elementTag n with
  | some tag => s!"<{tag} />"
  | none => n.kind

/-- The opening and the closing tag of an element that can have children. -/
def tagsOf (n : Node) : Option (Node × Node) :=
  match n.child? "open_tag", n.child? "close_tag" with
  | some o, some c => if n.kind == "jsx_element" then some (o, c) else none
  | _, _ => none

/-- Where markup goes, how it reads there, and in which slot. It gets lines of its own where its
neighbours have them. -/
def placeMarkup (w : Workspace) (node : Node) (position : InsertPosition) (markup : String) :
    Except String Insert :=
  let src := w.chars
  let eol := w.eol
  let inline := String.ofList (Text.trim markup.toList)
  let indent := Text.lineIndent src node.start
  let ownLine := Text.startsLine src node.start
  match position with
  | .before =>
    if ownLine then
      let block := Text.reindent markup.toList indent eol
      let first := (Text.dropStart? block indent).getD block
      .ok ⟨node.start, String.ofList (first ++ eol ++ indent), .leading⟩
    else .ok ⟨node.start, inline, .leading⟩
  | .after =>
    if ownLine && Text.endsLine src node.stop then
      .ok ⟨node.stop, String.ofList (eol ++ Text.reindent markup.toList indent eol), .trailing⟩
    else .ok ⟨node.stop, inline, .trailing⟩
  | .startOfChildren | .endOfChildren =>
    match tagsOf node with
    | none => .error s!"{w.describe node} has no children"
    | some (opening, closing) =>
      let block := String.ofList (eol ++ Text.reindent markup.toList (w.childIndent node indent) eol)
      if position == .startOfChildren then
        if Text.endsLine src opening.stop then .ok ⟨opening.stop, block, .leading⟩
        else .ok ⟨opening.stop, inline, .leading⟩
      else
        let contentEnd := max (Text.byteLength (Text.trimEnd (Text.before src closing.start))) opening.stop
        if ((Text.slice? src contentEnd closing.start).getD []).contains '\n' then
          .ok ⟨contentEnd, block, .trailing⟩
        else .ok ⟨closing.start, inline, .trailing⟩

/-- Sketch to put markup next to an element or into it. -/
def sketchMarkup (w : Workspace) (target : Target) (position : InsertPosition) (markup label : String) :
    Except GenerationError Sketch := do
  if Text.isAllBlank markup then throw (.invalidEdit label "markup is empty")
  match validateSnippet w.parse markup .markup with
  | .error e => throw (.invalidEdit label e.message)
  | .ok () => pure ()
  let node ← w.resolveTarget target label
  match w.placeMarkup node position markup with
  | .error reason => throw (.invalidEdit label reason)
  | .ok insert => return { inserts := [insert], anchors := [node.range] }

/-- The range to remove with an element: its whole lines if it is alone on them. -/
def deletionRange (src : List Char) (start stop : Nat) : ByteRange :=
  if Text.startsLine src start && Text.endsLine src stop then ⟨Text.lineStart src start, Text.lineEnd src stop⟩
  else ⟨start, stop⟩

/-- Sketch to remove an element. -/
def sketchDelete (w : Workspace) (target : Target) (label : String) : Except GenerationError Sketch := do
  let node ← w.resolveTarget target label
  let range := deletionRange w.chars node.start node.stop
  return { removed := some range, anchors := [range] }

end Workspace

end Graft
