import Graft.Import.Resolve
import Graft.Text.Lines

set_option autoImplicit false

/-!
# Where new imports go

Behind the last import if there is one. Else behind what has to stay at the top of a file: a line for
the shell, directives, and a comment that is a header for the whole file.
-/

namespace Graft

/-- Where new import statements are written. -/
inductive ImportPlacement where
  | afterImports (offset : Nat)
  | afterPrologue (offset : Nat)
  | fileStart
  deriving BEq, DecidableEq, Inhabited, Repr

def ImportPlacement.offset : ImportPlacement → Nat
  | afterImports n | afterPrologue n => n
  | fileStart => 0

/-- What follows a line break that a text starts with. -/
def afterLineBreak? : List Char → Option (List Char)
  | '\r' :: '\n' :: rest => some rest
  | '\n' :: rest => some rest
  | _ => none

/-- Whether nothing follows on the line, and the next line is empty. -/
def followedByBlankLine (rest : List Char) : Bool :=
  match afterLineBreak? (rest.dropWhile Text.isSpaceOrTab) with
  | none => false
  | some next =>
    let next := next.dropWhile Text.isSpaceOrTab
    next.isEmpty || (afterLineBreak? next).isSome

/-- The end of the prologue that a list of top-level nodes starts with. -/
def prologueEnd (source : List Char) (found : Option Nat) : List Node → Option Nat
  | [] => found
  | n :: rest =>
    match n.kind with
    | "comment" =>
      let after := ((Text.splitBytes source n.stop).map (·.2)).getD []
      prologueEnd source (if followedByBlankLine after then some n.stop else found) rest
    | "hash_bang_line" => prologueEnd source (some n.stop) rest
    | "expression_statement" =>
      if (n.namedChildren[0]?.map (·.kind)) == some "string" then prologueEnd source (some n.stop) rest else found
    | _ => found

/-- Where new import statements of a document go. -/
def Document.importPlacement (d : Document) (imports : List ExistingImport) : ImportPlacement :=
  match imports.map (·.stop) with
  | first :: rest => .afterImports (rest.foldl max first)
  | [] => match prologueEnd d.source.toList none d.root.namedChildren with
    | some offset => .afterPrologue offset
    | none => .fileStart

/-- The text of new statements at their place; `eol` ends a line. -/
def renderStatements (statements : List ImportSpec) (style : ImportStyle) (placement : ImportPlacement)
    (eol : String) : String :=
  let block := eol.intercalate (statements.map (·.render style))
  match placement with
  | .afterImports _ | .afterPrologue _ => eol ++ block
  | .fileStart => block ++ eol ++ eol

end Graft
