import Graft.Component
import Graft.Import.Spec
import Graft.Text.Blank

set_option autoImplicit false

/-!
# Imports of a file

The import statements of a file, each with the names that it binds and the places where more can be
added.
-/

namespace Graft

/-- A name in braces, perhaps bound under another. -/
structure NamedSpecifier where
  name : String
  renamed : Option String := none
  deriving BEq, DecidableEq, Inhabited, Repr

/-- The name that is bound. -/
def NamedSpecifier.localName (s : NamedSpecifier) : String := s.renamed.getD s.name

/-- An import statement of a file. -/
structure ExistingImport where
  path : String
  start : Nat
  stop : Nat
  defaultName : Option String := none
  namespaceName : Option String := none
  named : List NamedSpecifier := []
  /-- It imports types only, and nothing is added to it. -/
  typeOnly : Bool := false
  style : ImportStyle := {}
  /-- Where the clause between `import` and `from` starts. -/
  clauseStart : Option Nat := none
  /-- Where the default ends. -/
  defaultEnd : Option Nat := none
  /-- Where the braces start and end. -/
  braces : Option (Nat × Nat) := none
  /-- Where the last name in braces ends. -/
  lastNamedEnd : Option Nat := none
  deriving BEq, DecidableEq, Inhabited, Repr

namespace ExistingImport

/-- Whether more can be added to the statement. -/
def isMergeTarget (i : ExistingImport) : Bool := !i.typeOnly && i.clauseStart.isSome

/-- Whether the statement binds a name. -/
def binds (i : ExistingImport) (name : String) : Bool :=
  i.defaultName == some name || i.namespaceName == some name || i.named.any fun s => s.localName == name

/-! ## Reading -/

/-- Take in one name in braces. -/
def addSpecifier (d : Document) (i : ExistingImport) (specifier : Node) : ExistingImport :=
  if specifier.kind != "import_specifier" then i
  else match specifier.child? "name" with
    | none => i
    | some name =>
      { i with
        named := i.named ++ [⟨d.text name, (specifier.child? "alias").map d.text⟩]
        lastNamedEnd := some specifier.stop }

/-- Take in one part of a clause. -/
def addPart (d : Document) (i : ExistingImport) (part : Node) : ExistingImport :=
  match part.kind with
  | "identifier" => { i with defaultName := some (d.text part), defaultEnd := some part.stop }
  | "namespace_import" =>
    { i with namespaceName := (part.namedChildren.find? fun n => n.kind == "identifier").map d.text }
  | "named_imports" =>
    part.namedChildren.foldl (addSpecifier d) { i with braces := some (part.start, part.stop) }
  | _ => i

/-- Take in one child of a statement. -/
def addChild (d : Document) (i : ExistingImport) (child : Node) : ExistingImport :=
  match child.kind with
  | "type" | "typeof" => { i with typeOnly := true }
  | "import_clause" => child.namedChildren.foldl (addPart d) { i with clauseStart := some child.start }
  | _ => i

/-- Read an import statement. -/
def ofNode? (d : Document) (n : Node) : Option ExistingImport := do
  let source ← n.child? "source"
  let raw := d.text source
  let statement := Text.trimEnd (d.text n).toList
  let start : ExistingImport :=
    { path := Text.slice raw 1 (Text.byteLength raw.toList - 1)
      start := n.start
      stop := n.stop
      style :=
        { quote := if raw.toList.head? == some '"' then .double else .single
          semicolon := statement.getLast? == some ';' } }
  return n.children.foldl (addChild d) start

end ExistingImport

/-- The imports of a document, in order. -/
def Document.imports (d : Document) : List ExistingImport :=
  d.importStatements.filterMap (ExistingImport.ofNode? d)

/-- The style of the first import, else the usual one. -/
def ImportStyle.ofImports : List ExistingImport → ImportStyle
  | i :: _ => i.style
  | [] => {}

end Graft
