import Graft.Text.Quoted
import Graft.Text.Search

set_option autoImplicit false

/-!
# Substitution

Plain replacement of text by text, without regard to syntax: every occurrence is replaced, from left
to right, and what was put in is not looked at again.
-/

namespace Graft

/-- Why a substitution does nothing. -/
inductive SubstitutionError where
  | notFound (search : String)
  deriving BEq, DecidableEq, Inhabited, Repr

def SubstitutionError.message : SubstitutionError → String
  | notFound search => s!"text not found: {Text.quoted search}"

namespace Text

/-- The text before and after the first occurrence of another. -/
def cut? (needle : List Char) (cs : List Char) : Option (List Char × List Char) :=
  match dropStart? cs needle with
  | some rest => some ([], rest)
  | none => match cs with
    | [] => none
    | c :: cs => (cut? needle cs).map fun (before, after) => (c :: before, after)

/-- The pieces of a text between the occurrences of another, at most `fuel` of which are looked for. -/
def pieces (needle : List Char) : Nat → List Char → List (List Char)
  | 0, cs => [cs]
  | fuel + 1, cs => match cut? needle cs with
    | some (before, after) => before :: pieces needle fuel after
    | none => [cs]

end Text

/-- A text in which something was replaced, and how often. -/
structure Substitution where
  text : String
  occurrences : Nat
  deriving BEq, DecidableEq, Inhabited, Repr

/-- Replace every occurrence of a text. The empty text does not occur. -/
def replaceAll (text search replacement : String) : Except SubstitutionError Substitution :=
  if search.isEmpty then .error (.notFound search)
  else match Text.pieces search.toList text.toList.length text.toList with
    | [] | [_] => .error (.notFound search)
    | pieces => .ok
      { text := String.ofList (replacement.toList.intercalate pieces), occurrences := pieces.length - 1 }

end Graft
