import Graft.Edit
import Graft.Import.Existing

set_option autoImplicit false

/-!
# Merging imports

A requested import is compared with what the file imports from the same module. What is there
already is left alone, what is missing is added to a statement that can take it, or else to a new
one, and what cannot be had is reported.
-/

namespace Graft

/-- How a name is bound by an import. -/
inductive SpecifierKind where
  | byDefault
  | asNamespace
  | byName
  deriving BEq, DecidableEq, Inhabited, Repr

def SpecifierKind.name : SpecifierKind → String
  | byDefault => "default"
  | asNamespace => "namespace"
  | byName => "named"

/-- A requested default or namespace that collides with what is bound already. -/
structure ImportConflict where
  path : String
  kind : SpecifierKind
  existing : String
  requested : String
  deriving BEq, DecidableEq, Inhabited, Repr

def ImportConflict.message (c : ImportConflict) : String :=
  s!"'{c.path}' already binds '{c.existing}' as a {c.kind.name} import, cannot add '{c.requested}'"

/-- What merging a request comes to. -/
structure Resolution where
  /-- Insertions into statements of the file. -/
  edits : List Edit := []
  newStatements : List ImportSpec := []
  conflicts : List ImportConflict := []
  deriving BEq, DecidableEq, Inhabited, Repr

namespace Resolution

def append (r s : Resolution) : Resolution :=
  ⟨r.edits ++ s.edits, r.newStatements ++ s.newStatements, r.conflicts ++ s.conflicts⟩

instance : Append Resolution := ⟨append⟩

/-- Whether there is nothing to change. -/
def isNoop (r : Resolution) : Bool := r.edits.isEmpty && r.newStatements.isEmpty

end Resolution

/-! ## One kind of specifier at a time -/

/-- What becomes of a requested specifier: what to do at once, and what to put into a new statement. -/
structure Placed (α : Type) where
  now : Resolution := {}
  later : α

/-- Merge a requested default. -/
def resolveDefault (path : String) (targets : List ExistingImport) (requested : Option String) :
    Placed (Option String) :=
  match requested with
  | none => { later := none }
  | some name =>
    let conflict (kind : SpecifierKind) (existing : String) : Placed (Option String) :=
      { now := { conflicts := [⟨path, kind, existing, name⟩] }, later := none }
    match targets.findSome? (·.defaultName) with
    | some present => if present == name then { later := none } else conflict .byDefault present
    | none =>
      if targets.any fun i => i.binds name then conflict .byName name
      else match targets.findSome? fun i => if i.defaultName.isNone then i.clauseStart else none with
        | some offset => { now := { edits := [.insertion offset (name ++ ", ")] }, later := none }
        | none => { later := some name }

/-- Merge a requested namespace, which always needs a statement of its own. -/
def resolveNamespace (path : String) (targets : List ExistingImport) (requested : Option String) :
    Placed (Option ImportSpec) :=
  match requested with
  | none => { later := none }
  | some name => match targets.findSome? (·.namespaceName) with
    | some present =>
      if present == name then { later := none }
      else { now := { conflicts := [⟨path, .asNamespace, present, name⟩] }, later := none }
    | none => { later := some { path, namespaceName := some name } }

/-- The requested names that no target binds, each once. -/
def missingNames (targets : List ExistingImport) (requested : List String) : List String :=
  requested.foldl (fun missing name =>
    if missing.contains name || targets.any fun i => i.binds name then missing else missing ++ [name]) []

/-- Where names in braces can be added: behind the last one, or inside empty braces. -/
def insertIntoBraces (lastNamedEnd : Option Nat) (start stop : Nat) (names : String) : Edit :=
  match lastNamedEnd with
  | some offset => .insertion offset (", " ++ names)
  | none => .insertion (stop - 1) (if stop - start ≤ 2 then " " ++ names ++ " " else names ++ " ")

/-- Merge requested names. -/
def resolveNamed (targets : List ExistingImport) (requested : List String) : Placed (List String) :=
  match missingNames targets requested with
  | [] => { later := [] }
  | missing =>
    let names := ", ".intercalate missing
    match targets.findSome? fun i => i.braces.map fun b => (i.lastNamedEnd, b) with
    | some (lastNamedEnd, start, stop) =>
      { now := { edits := [insertIntoBraces lastNamedEnd start stop names] }, later := [] }
    | none =>
      let defaultOnly := targets.find? fun i =>
        i.defaultName.isSome && i.namespaceName.isNone && i.braces.isNone
      match defaultOnly.bind (·.defaultEnd) with
      | some offset => { now := { edits := [.insertion offset (", " ++ ImportSpec.bracedNames missing)] }, later := [] }
      | none => { later := missing }

/-! ## All together -/

/-- Merge the request for one module into the imports of a file. -/
def resolveModule (spec : ImportSpec) (existing : List ExistingImport) : Resolution :=
  let sameModule := existing.filter fun i => i.path == spec.path
  let targets := sameModule.filter (·.isMergeTarget)
  let byDefault := resolveDefault spec.path targets spec.defaultName
  let asNamespace := resolveNamespace spec.path targets spec.namespaceName
  let byName := resolveNamed targets spec.named
  let fresh : ImportSpec := { path := spec.path, defaultName := byDefault.later, named := byName.later }
  -- A module that is imported for its effects alone.
  let bare := spec.isEmpty && sameModule.isEmpty
  let statements := (if !fresh.isEmpty || bare then [fresh] else []) ++ asNamespace.later.toList
  byDefault.now ++ asNamespace.now ++ byName.now ++ { newStatements := statements }

/-- Merge one request, which must not be ambiguous. -/
def resolveImport (spec : ImportSpec) (existing : List ExistingImport) : Except AmbiguousImport Resolution := do
  spec.validate
  return resolveModule spec existing

/-! ## Several requests for a module -/

/-- Put a name at the end of a list unless it is there. -/
def addName (names : List String) (name : String) : List String :=
  if names.contains name then names else names ++ [name]

/-- Fill a place with the first request for it; a later one that differs is a conflict. -/
def claimPlace (path : String) (kind : SpecifierKind) (place requested : Option String) :
    Option String × List ImportConflict :=
  match requested, place with
  | none, _ => (place, [])
  | some name, none => (some name, [])
  | some name, some existing => (place, if existing == name then [] else [⟨path, kind, existing, name⟩])

/-- Join a request with an earlier one for the same module. -/
def joinSpec (entry spec : ImportSpec) : ImportSpec × List ImportConflict :=
  let (defaultName, first) := claimPlace spec.path .byDefault entry.defaultName spec.defaultName
  let (namespaceName, second) := claimPlace spec.path .asNamespace entry.namespaceName spec.namespaceName
  ({ entry with defaultName, namespaceName, named := spec.named.foldl addName entry.named }, first ++ second)

/-- Join a request with the one for its module, or put it at the end. -/
def addSpec (spec : ImportSpec) : List ImportSpec → List ImportSpec × List ImportConflict
  | [] => ([{ spec with named := spec.named.foldl addName [] }], [])
  | entry :: rest =>
    if entry.path == spec.path then
      let (joined, conflicts) := joinSpec entry spec
      (joined :: rest, conflicts)
    else
      let (rest, conflicts) := addSpec spec rest
      (entry :: rest, conflicts)

/-- One request per module, in the order in which the modules first appear. -/
def groupByModule (specs : List ImportSpec) : List ImportSpec × List ImportConflict :=
  specs.foldl (fun (grouped, conflicts) spec =>
    let (grouped, more) := addSpec spec grouped
    (grouped, conflicts ++ more)) ([], [])

end Graft
