import Graft.Text.Search

set_option autoImplicit false

/-!
# Source files

Which files are component sources, by the ending of their name.
-/

namespace Graft

def sourceExtensions : List String := ["tsx", "jsx"]

/-- The last part of a path that is a name; none if the path ends in the folder above. -/
def fileName? (path : String) : Option String :=
  let parts := Text.parts path '/'
  -- A single dot counts only at the start of a path, where it is no name either.
  match (parts.filter fun p => p != "" && p != ".").getLast? with
  | some ".." | none => none
  | some name => some name

/-- What follows the last dot of a name, unless the dot comes first. -/
def extension? (path : String) : Option String := do
  let name ← fileName? path
  match Text.parts name '.' with
  | [] | [_] | ["", _] => none
  | parts => parts.getLast?

def isComponentSource (path : String) : Bool :=
  match extension? path with
  | some e => sourceExtensions.contains e
  | none => false

end Graft
