set_option autoImplicit false

/-!
# Requested imports

What a file should import from a module: a default, names, or everything under one name.
-/

namespace Graft

/-- The quotes around a module path. -/
inductive Quote where
  | single
  | double
  deriving BEq, DecidableEq, Inhabited, Repr

def Quote.char : Quote → Char
  | single => '\''
  | double => '"'

/-- How import statements are written. -/
structure ImportStyle where
  quote : Quote := .single
  semicolon : Bool := true
  deriving BEq, DecidableEq, Inhabited, Repr

/-- A requested import. -/
structure ImportSpec where
  /-- The module path, exactly as it is written. -/
  path : String
  defaultName : Option String := none
  named : List String := []
  namespaceName : Option String := none
  deriving BEq, DecidableEq, Inhabited, Repr

/-- One request for both a default and everything under one name. -/
structure AmbiguousImport where
  path : String
  defaultName : String
  namespaceName : String
  deriving BEq, DecidableEq, Inhabited, Repr

def AmbiguousImport.message (e : AmbiguousImport) : String :=
  s!"import from '{e.path}' requests both default '{e.defaultName}' and namespace '{e.namespaceName}'"

namespace ImportSpec

/-- A single request must not ask for both a default and a namespace. -/
def validate (s : ImportSpec) : Except AmbiguousImport Unit :=
  match s.defaultName, s.namespaceName with
  | some d, some n => .error ⟨s.path, d, n⟩
  | _, _ => .ok ()

/-- Whether nothing is requested but the module itself. -/
def isEmpty (s : ImportSpec) : Bool := s.defaultName.isNone && s.namespaceName.isNone && s.named.isEmpty

/-- The names in braces. -/
def bracedNames (names : List String) : String := "\x7b " ++ ", ".intercalate names ++ " \x7d"

/-- What stands between `import` and `from`; a namespace only if there is nothing else. -/
def clause (s : ImportSpec) : List String :=
  let parts := s.defaultName.toList ++ (if s.named.isEmpty then [] else [bracedNames s.named])
  if parts.isEmpty then (s.namespaceName.map fun n => "* as " ++ n).toList else parts

/-- The import statement. -/
def render (s : ImportSpec) (style : ImportStyle) : String :=
  let quote := String.singleton style.quote.char
  let source := quote ++ s.path ++ quote ++ if style.semicolon then ";" else ""
  match s.clause with
  | [] => "import " ++ source
  | parts => "import " ++ ", ".intercalate parts ++ " from " ++ source

end ImportSpec

end Graft
