import Graft.Text.Search
import Graft.Text.Similarity
import Graft.Tree.Document

set_option autoImplicit false

/-!
# Markup elements

Elements are found by their tag, and if that is not enough by a class or identifier and by the text
inside.
-/

namespace Graft

/-- A description of an element. -/
structure Locator where
  tag : String
  /-- Part of the value of one of the attributes that identify an element. -/
  identifier : Option String := none
  /-- Part of the text of the element. -/
  content : Option String := none
  deriving BEq, DecidableEq, Inhabited, Repr

def Locator.render (l : Locator) : String :=
  let identifier := match l.identifier with
    | some i => s!" with identifier '{i}'"
    | none => ""
  let content := match l.content with
    | some c => s!" containing '{c}'"
    | none => ""
  "<" ++ l.tag ++ ">" ++ identifier ++ content

/-- The attributes that identify an element. -/
def identifyingAttributes : List String := ["className", "class", "id"]

/-- Tags are suggested from this similarity on. -/
def suggestionThreshold : Float := 0.8

namespace Document

/-- The tag of an element; none for other nodes and for elements without one. -/
def elementTag (d : Document) (n : Node) : Option String :=
  match n.kind with
  | "jsx_element" => ((n.child? "open_tag").bind (·.child? "name")).map d.text
  | "jsx_self_closing_element" => (n.child? "name").map d.text
  | _ => none

/-- The opening tag of an element. -/
def openingTag (n : Node) : Option Node :=
  match n.kind with
  | "jsx_element" => n.child? "open_tag"
  | "jsx_self_closing_element" => some n
  | _ => none

/-- A text without the braces around it, if it has both. -/
def withoutBraces (text : String) : String :=
  match text.toList with
  | '\x7b' :: rest => match rest.reverse with
    | '\x7d' :: inner => String.ofList inner.reverse
    | _ => text
  | _ => text

/-- The value of an attribute as it is written: without the quotes of a string or the braces of an
expression. -/
def valueText (d : Document) (value : Node) : String :=
  let text := d.text value
  match value.kind with
  | "string" => Text.slice text 1 (Text.byteLength text.toList - 1)
  | "jsx_expression" => withoutBraces text
  | _ => text

/-- The value of an attribute of an element. -/
def attributeValue (d : Document) (n : Node) (name : String) : Option String := do
  let tag ← openingTag n
  let found ← tag.namedChildren.find? fun c =>
    c.kind == "jsx_attribute" && match c.namedChildren[0]? with
      | some key => d.text key == name
      | none => false
  let value ← found.namedChildren[1]?
  return d.valueText value

/-- Whether a node is an element that a locator describes. -/
def fits (d : Document) (n : Node) (l : Locator) : Bool :=
  d.elementTag n == some l.tag &&
    (match l.identifier with
      | some i => identifyingAttributes.any fun name => match d.attributeValue n name with
        | some value => Text.contains value i
        | none => false
      | none => true) &&
    (match l.content with
      | some c => Text.contains (d.text n) c
      | none => true)

/-- The first element with a tag. -/
def findComponent (d : Document) (tag : String) : Option Node :=
  d.root.walk.find? fun n => d.elementTag n == some tag

/-- The first element that a locator describes. -/
def findElement (d : Document) (l : Locator) : Option Node := d.root.walk.find? fun n => d.fits n l

/-- All nodes of a kind. -/
def findNodes (d : Document) (kind : String) : List Node := d.root.walk.filter fun n => n.kind == kind

/-- The tag that is most like the one given, the first of several, if it is like enough. -/
def suggestTag (d : Document) (tag : String) : Option String :=
  let candidates := (d.root.walk.filterMap d.elementTag).filter fun c => c != tag
  (candidates.foldl (fun (best : Option (Float × String)) c =>
    let score := Text.similarity tag c
    let better := match best with
      | some (old, _) => old < score
      | none => true
    if suggestionThreshold ≤ score && better then some (score, c) else best) none).map (·.2)

end Document

end Graft
