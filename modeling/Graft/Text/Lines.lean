import Graft.Text.Blank
import Graft.Text.Offset
import Graft.Text.Search

set_option autoImplicit false

/-!
# Lines and indentation

Text that is put into code should look as if it had been there: it starts where the line starts, its
lines end as the others do, and it is indented as far as its neighbours.
-/

namespace Graft.Text

def isSpaceOrTab (c : Char) : Bool := c == ' ' || c == '\t'

def isLineBreak (c : Char) : Bool := c == '\r' || c == '\n'

/-- How the lines of a text end. -/
def lineEnding (cs : List Char) : List Char := if occursIn ['\r', '\n'] cs then ['\r', '\n'] else ['\n']

/-! ## The line around an offset -/

/-- The text before an offset. -/
def before (cs : List Char) (offset : Nat) : List Char := ((splitBytes cs offset).map (·.1)).getD []

/-- The text from an offset on. -/
def after (cs : List Char) (offset : Nat) : List Char := ((splitBytes cs offset).map (·.2)).getD []

/-- What stands before an offset on its line. -/
def lineHead (cs : List Char) (offset : Nat) : List Char :=
  ((before cs offset).reverse.takeWhile (· != '\n')).reverse

/-- What stands behind an offset on its line, without the line break. -/
def lineTail (cs : List Char) (offset : Nat) : List Char := (after cs offset).takeWhile (· != '\n')

/-- The offset where the line starts. -/
def lineStart (cs : List Char) (offset : Nat) : Nat := offset - byteLength (lineHead cs offset)

/-- The offset behind the line and its break. -/
def lineEnd (cs : List Char) (offset : Nat) : Nat :=
  let tail := lineTail cs offset
  if (after cs offset).contains '\n' then offset + byteLength tail + 1 else byteLength cs

/-- The blanks that the line starts with. -/
def lineIndent (cs : List Char) (offset : Nat) : List Char :=
  (lineHead cs offset ++ after cs offset).takeWhile isSpaceOrTab

/-- Whether only blanks stand before an offset on its line. -/
def startsLine (cs : List Char) (offset : Nat) : Bool := (lineHead cs offset).all isSpaceOrTab

/-- Whether only blanks stand behind an offset on its line. -/
def endsLine (cs : List Char) (offset : Nat) : Bool := (lineTail cs offset).all isBlank

/-! ## Blocks of lines -/

/-- The lines of a text, without their breaks. -/
def lines : List Char → List (List Char)
  | [] => []
  | c :: cs =>
    if c == '\n' then [] :: lines cs
    else match lines cs with
      | [] => [[c]]
      | line :: rest => (c :: line) :: rest

/-- The smallest indentation of lines that are not empty. -/
def commonIndent (ls : List (List Char)) : Nat :=
  (((ls.filter (!·.isEmpty)).map fun l => (l.takeWhile isSpaceOrTab).length).min?).getD 0

/-- The lines of a block, without line breaks around it and blanks at the ends of lines. -/
def blockLines (cs : List Char) : List (List Char) :=
  (lines (((cs.dropWhile isLineBreak).reverse.dropWhile isLineBreak).reverse)).map trimEnd

/-- Indent a block: what all lines have in common is taken off, and `indent` put in its place. Empty
lines stay empty. -/
def reindent (cs indent eol : List Char) : List Char :=
  let ls := blockLines cs
  let common := commonIndent ls
  eol.intercalate (ls.map fun l => if l.isEmpty then [] else indent ++ l.drop common)

/-- One level more of indentation, in the same kind of blanks. -/
def nestedIndent (indent : List Char) : List Char :=
  if indent.head? == some '\t' then indent ++ ['\t'] else indent ++ [' ', ' ']

end Graft.Text
