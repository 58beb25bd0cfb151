import Graft.CommandLine
import Graft.Parse.Component
import Graft.Query.Component

set_option autoImplicit false

/-!
# The program

Loads the files that the arguments name, runs the command line on them, and writes back what changed.
-/

namespace Graft.CommandLine

/-- Take up what lies on disk where a path leads. -/
def FileTree.visit (t : FileTree) (path : String) : IO FileTree := do
  let spot := (← IO.currentDir) / path
  match t.locate? path with
  | none => return t
  | some place =>
    if ← spot.isDir then return { t with folders := place :: t.folders }
    else if ← spot.pathExists then return t.put place (← IO.FS.readFile spot)
    else return t

/-- Take up the component sources below a folder. -/
partial def FileTree.explore (t : FileTree) (folder : String) : IO FileTree := do
  let entries ← ((← IO.currentDir) / folder).readDir
  entries.foldlM (fun t entry => do
    let path := folder ++ "/" ++ entry.fileName
    if entry.fileName == foreignFolder then return t
    else if ← entry.path.isDir then (← t.visit path).explore path
    else if isComponentSource path then t.visit path
    else return t) t

/-- Take up all that a path names: the folders on the way, and the file or what is below the folder. -/
def FileTree.load (t : FileTree) (path : String) : IO FileTree := do
  let parts := path.splitOn "/"
  let ways := (List.range parts.length).map fun n => "/".intercalate (parts.take (n + 1))
  let t ← ways.foldlM FileTree.visit t
  if ← ((← IO.currentDir) / path).isDir then t.explore path else return t

end Graft.CommandLine

open Graft Graft.CommandLine in
def main (arguments : List String) : IO UInt32 := do
  let paths := ((Command.read arguments).map Command.paths).getD []
  let before ← paths.foldlM FileTree.load {}
  let r := run ⟨parseComponent, componentSchema⟩ before arguments
  (r.files.changesFrom before).forM fun (path, text) => do IO.FS.writeFile ((← IO.currentDir) / path) text
  IO.print r.output
  IO.eprint r.errors
  return r.ending.code
