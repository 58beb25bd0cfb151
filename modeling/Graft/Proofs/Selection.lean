import Mathlib.Data.List.Nodup
import Graft.CommandLine.Arguments
import Graft.CommandLine.FileTree

set_option autoImplicit false

/-!
# Which files paths stand for

Paths are selected one by one, so a file is selected as often as paths stand for it: paths that lead
to it, and paths of folders above it. Each folder has it once, if no two files lie at one place and
the names on the way to them are names.
-/

namespace Graft

namespace CommandLine

/-! ## Paths through folders -/

/-- The name of a file or a folder, as it stands in a path. -/
def isName (name : String) : Bool :=
  name != "" && name != "." && name != ".." && !name.toList.contains '/'

namespace FileTree

/-- The file at a place. -/
def at? (t : FileTree) (place : Place) : Option String := t.files.lookup place

/-- How many paths lead to a place. -/
def visits (t : FileTree) (paths : List String) (place : Place) : Nat :=
  paths.countP fun path => t.locate? path == some place

/-- The places of the files are made of names, and no two files are at one place. -/
structure Plain (t : FileTree) : Prop where
  names : ∀ f ∈ t.files, ∀ name ∈ f.1, isName name = true
  places : (t.files.map Prod.fst).Nodup

theorem mem_places {t : FileTree} {place : Place} {text : String} (h : t.at? place = some text) :
    place ∈ t.files.map Prod.fst := by
  obtain ⟨front, back, hfiles, -⟩ := List.lookup_eq_some_iff.1 h
  rw [hfiles, List.map_append, List.map_cons]
  exact List.mem_append_right _ List.mem_cons_self

/-- A way to a component source that does not go through the work of others. -/
def isSourceWay (way : Place) : Bool :=
  !way.contains foreignFolder && isComponentSource (Place.path way)

/-- A path stands for a file: it leads there, or to a folder from which the way to the file is that
of a source. -/
def covers (t : FileTree) (path : String) (place : Place) : Bool := match t.locate? path with
  | none => false
  | some reached =>
    if t.hasFolder reached then
      fileName? path != some foreignFolder && (Place.below? place reached).any isSourceWay
    else reached == place

end FileTree

/-! ## Arguments -/

end CommandLine

end Graft
