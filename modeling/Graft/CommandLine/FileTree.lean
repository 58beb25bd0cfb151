import Graft.SourceFile

set_option autoImplicit false

/-!
# Files

The files that a run of the command line sees. A file lies at a place: the names of the folders on the
way to it, from the working directory, and its own. Paths lead to places; they may have steps that stay
where they are and steps back.
-/

namespace Graft.CommandLine

/-- The names on the way from the working directory. An empty name in front stands for the root. -/
abbrev Place := List String

/-- The steps of a path that lead somewhere. -/
def pathSteps (path : String) : List String :=
  let steps := (Text.parts path '/').filter fun p => p != "" && p != "."
  if path.startsWith "/" then "" :: steps else steps

/-- The path that leads straight to a place. -/
def Place.path (place : Place) : String := "/".intercalate place

/-- The way to a place from a folder above it. -/
def Place.below? (place folder : Place) : Option Place :=
  if folder.isPrefixOf place && folder.length < place.length then some (place.drop folder.length) else none

/-- Places are ordered name by name. -/
def Place.order : Place → Place → Ordering
  | [], [] => .eq
  | [], _ :: _ => .lt
  | _ :: _, [] => .gt
  | a :: as, b :: bs => (compare a b).then (Place.order as bs)

/-- Files with their contents, and folders. Folders with files in them need not be listed. -/
structure FileTree where
  files : List (Place × String) := []
  folders : List Place := []
  deriving Inhabited, Repr

/-- A folder that holds the work of others, which is left alone. -/
def foreignFolder : String := "node_modules"

namespace FileTree

def hasFolder (t : FileTree) (place : Place) : Bool :=
  place.isEmpty || t.folders.contains place || t.files.any fun f => (Place.below? f.1 place).isSome

/-- Go one step from a place, which is given from its end. Only a folder can be left by a step back. -/
def step? (t : FileTree) (place : Place) (step : String) : Option Place :=
  if step != ".." then some (step :: place)
  else match place with
    | [] => some [".."]
    | [""] => some [""]
    | ".." :: _ => some (".." :: place)
    | _ :: above => if t.hasFolder place.reverse then some above else none

/-- The place that a path leads to. -/
def locate? (t : FileTree) (path : String) : Option Place := ((pathSteps path).foldlM t.step? []).map List.reverse

/-- The content of a file. -/
def read? (t : FileTree) (path : String) : Option String := (t.locate? path).bind fun place => t.files.lookup place

/-- Put a file at a place, instead of the one that may be there. -/
def put (t : FileTree) (place : Place) (text : String) : FileTree :=
  if t.files.any (·.1 == place) then
    { t with files := t.files.map fun f => if f.1 == place then (place, text) else f }
  else { t with files := t.files ++ [(place, text)] }

/-- Change the content of a file. -/
def write (t : FileTree) (path text : String) : FileTree :=
  match t.locate? path with
  | some place => t.put place text
  | none => t

/-- The component sources in and below a folder, in order; their paths begin as the folder's is written. -/
def sourcesBelow (t : FileTree) (path : String) (folder : Place) : List String :=
  if fileName? path == some foreignFolder then []
  else
    let found := t.files.filterMap fun f => Place.below? f.1 folder
    let sources := found.filter fun way => !way.contains foreignFolder && isComponentSource (Place.path way)
    let sorted := sources.mergeSort fun a b => Place.order a b != .gt
    sorted.map fun way => path ++ (if path.endsWith "/" then "" else "/") ++ Place.path way

/-- The files that paths stand for: a folder stands for the sources below it. -/
def select (t : FileTree) (paths : List String) : List String :=
  paths.flatMap fun path => match t.locate? path with
    | some place => if t.hasFolder place then t.sourcesBelow path place else [path]
    | none => [path]

/-- The files that are new or have another content than before, by their paths. -/
def changesFrom (t before : FileTree) : List (String × String) :=
  (t.files.filter fun f => before.files.lookup f.1 != some f.2).map fun (place, text) => (Place.path place, text)

end FileTree

end Graft.CommandLine
