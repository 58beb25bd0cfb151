import Graft.Text.Uppercase
import Graft.Tree.Document

set_option autoImplicit false

/-!
# Components

A component is a function: declared as one, or bound to a name, perhaps through one call around it.
Which names it binds at the top of its body decides what can be declared there.
-/

namespace Graft

/-- A function that was found. -/
structure FunctionMatch where
  /-- The declaration, or the binding that holds the function. -/
  declaration : Node
  function : Node
  /-- A block of statements, or the expression that the function returns. -/
  body : Node
  deriving Inhabited

def FunctionMatch.hasBlock (f : FunctionMatch) : Bool := f.body.kind == "statement_block"

def FunctionMatch.of? (declaration function : Node) : Option FunctionMatch :=
  (function.child? "body").map fun body => { declaration, function, body }

def functionKinds : List String := ["arrow_function", "function_expression", "function"]

/-- The function that a value is, or that it is a call with as its first argument. -/
def functionValue (value : Node) : Option Node :=
  if functionKinds.contains value.kind then some value
  else if value.kind == "call_expression" then do
    let arguments ← value.child? "arguments"
    let first ← arguments.namedChildren[0]?
    if functionKinds.contains first.kind then some first else none
  else none

namespace Document

/-- The function that a node declares or binds under a name. -/
def functionNamed (d : Document) (name : String) (n : Node) : Option FunctionMatch :=
  match n.kind with
  | "function_declaration" => do
    let ident ← n.child? "name"
    if d.text ident == name then FunctionMatch.of? n n else none
  | "variable_declarator" => do
    let ident ← n.child? "name"
    if ident.kind != "identifier" || d.text ident != name then none
    else
      let function ← functionValue (← n.child? "value")
      FunctionMatch.of? n function
  | _ => none

/-- The first function with a name. -/
def findFunction (d : Document) (name : String) : Option FunctionMatch :=
  d.root.walk.findSome? (d.functionNamed name)

/-- The function that an export declares. -/
def exportedFunction (export_ : Node) : Option FunctionMatch := do
  let declaration ← export_.child? "declaration"
  match declaration.kind with
  | "function_declaration" => FunctionMatch.of? declaration declaration
  | "lexical_declaration" | "variable_declaration" =>
    (declaration.namedChildren.filter fun c => c.kind == "variable_declarator").findSome? fun declarator => do
      let function ← functionValue (← declarator.child? "value")
      FunctionMatch.of? declarator function
  | _ => none

/-- The function that a default export names or holds. -/
def defaultExport (d : Document) (export_ : Node) : Option FunctionMatch :=
  if !(export_.children.any fun c => c.kind == "default") then none
  else (exportedFunction export_).or (do
    let value ← export_.child? "value"
    if value.kind == "identifier" then d.findFunction (d.text value)
    else FunctionMatch.of? export_ (← functionValue value))

def startsUppercase (text : String) : Bool :=
  match text.toList with
  | c :: _ => Text.isUppercase c
  | [] => false

/-- The function that a node itself declares, if its name starts with an upper case letter. -/
def capitalFunction (d : Document) (n : Node) : Option FunctionMatch :=
  if n.kind == "function_declaration" || n.kind == "variable_declarator" then do
    let name := d.text (← n.child? "name")
    if startsUppercase name then (d.findFunction name).filter fun f => f.declaration.id == n.id else none
  else none

/-- The component that is meant when none is named: the default export, else the first exported
function, else the first function with a capital name. -/
def defaultComponent (d : Document) : Option FunctionMatch :=
  let exports := d.root.walk.filter fun n => n.kind == "export_statement"
  (exports.findSome? d.defaultExport).or <|
    (exports.findSome? exportedFunction).or <| d.root.walk.findSome? d.capitalFunction

/-- The import statements at the top level. -/
def importStatements (d : Document) : List Node :=
  d.root.namedChildren.filter fun n => n.kind == "import_statement"

/-! ## Names that a function binds -/

/-- The names that a binding pattern introduces; `fuel` bounds the depth. -/
def patternNamesWithin (d : Document) : Nat → Node → List String
  | 0, _ => []
  | fuel + 1, pattern =>
    let part (field : String) : List String := match pattern.child? field with
      | some inner => patternNamesWithin d fuel inner
      | none => []
    match pattern.kind with
    | "identifier" | "shorthand_property_identifier_pattern" => [d.text pattern]
    | "pair_pattern" => part "value"
    | "assignment_pattern" | "object_assignment_pattern" => part "left"
    | "required_parameter" | "optional_parameter" => part "pattern"
    | "array_pattern" | "object_pattern" | "rest_pattern" =>
      pattern.namedChildren.flatMap (patternNamesWithin d fuel)
    | _ => []

/-- The names that a binding pattern introduces, from left to right. -/
def patternNames (d : Document) (pattern : Node) : List String := d.patternNamesWithin pattern.size pattern

/-- The names that a statement of a body declares. -/
def declaredNames (d : Document) (statement : Node) : List String :=
  match statement.kind with
  | "lexical_declaration" | "variable_declaration" =>
    statement.namedChildren.flatMap fun declarator => match declarator.child? "name" with
      | some name => d.patternNames name
      | none => []
  | "function_declaration" | "class_declaration" => match statement.child? "name" with
    | some name => [d.text name]
    | none => []
  | _ => []

/-- The names that the parameters of a function bind. -/
def parameterNames (d : Document) (function : Node) : List String :=
  match function.child? "parameters" with
  | some parameters => parameters.namedChildren.flatMap d.patternNames
  | none => match function.child? "parameter" with
    | some parameter => d.patternNames parameter
    | none => []

/-- The names that a function binds at the top of its body. -/
def boundNames (d : Document) (f : FunctionMatch) : List String :=
  d.parameterNames f.function ++
    if f.hasBlock then f.body.namedChildren.flatMap d.declaredNames else []

end Document

end Graft
