import Graft.Automaton.TokenSet
import Graft.Lexicon.Scanner

set_option autoImplicit false

/-!
# Tokens that depend on what is around them

Some tokens of component files have no spelling of their own: the semicolon that a line break stands
for, text between tags or in a template, and the question mark of a conditional, which must be told
from other question marks. They are found by looking ahead by hand.
-/

namespace Graft.Lexicon.Contextual

/-! ## The tokens

In the order in which the grammar lists them.
-/

def automaticSemicolon : Nat := 0
def templateChars : Nat := 1
def ternaryMark : Nat := 2
def htmlComment : Nat := 3
def logicalOr : Nat := 4
def escapeSequence : Nat := 5
def regexPattern : Nat := 6
def markupText : Nat := 7
def signatureSemicolon : Nat := 8

/-- A token found by hand. -/
structure Found where
  token : Nat
  start : Nat
  stop : Nat
  deriving Inhabited

/-- Blanks between tokens, as far as these tokens are concerned. -/
def isBlank (c : Char) : Bool := c == ' ' || ('\t' ≤ c && c ≤ '\r')

/-- The first place from `i` on that holds no character of a class. -/
def skipWhile (source : Source) (p : Char → Bool) (i : Nat) : Nat :=
  go (source.size - i) i
where
  go : Nat → Nat → Nat
    | 0, i => i
    | fuel + 1, i => match source.get? i with
      | some c => if p c then go fuel (i + 1) else i
      | none => i

def skipBlanks (source : Source) (i : Nat) : Nat := skipWhile source isBlank i

/-! ## Text in templates and between tags -/

/-- Text of a template, up to its end, an escape or a substitution. -/
def scanTemplate (source : Source) (place : Nat) : Option Found :=
  go (source.size + 1 - place) place
where
  go : Nat → Nat → Option Found
    | 0, _ => none
    | fuel + 1, i =>
      let upTo : Option Found := if place < i then some ⟨templateChars, place, i⟩ else none
      match source.get? i with
      | none => none
      | some c =>
        if c == '\x00' then none
        else if c == '`' || c == '\\' then upTo
        else if c == '$' && source.get? (i + 1) == some '\x7b' then upTo
        else go fuel (i + 1)

/-- Text between tags. Blanks around line breaks are not text by themselves. -/
def scanMarkupText (source : Source) (place : Nat) : Option Found :=
  go (source.size + 1 - place) place false false
where
  go : Nat → Nat → Bool → Bool → Option Found
    | 0, _, _, _ => none
    | fuel + 1, i, atBreak, sawText =>
      let finish : Option Found := if sawText then some ⟨markupText, place, i⟩ else none
      match source.get? i with
      | none => finish
      | some c =>
        if c == '\x00' || c == '<' || c == '>' || c == '\x7b' || c == '\x7d' || c == '&' then finish
        else if c == '\n' then go fuel (i + 1) true sawText
        else
          let atBreak := atBreak && isBlank c
          go fuel (i + 1) atBreak (sawText || !atBreak)

/-! ## Semicolons that line breaks stand for -/

/-- The end of a block comment whose body starts here. -/
def skipBlockComment (source : Source) (i : Nat) : Nat :=
  go (source.size - i) i
where
  go : Nat → Nat → Nat
    | 0, i => i
    | fuel + 1, i => match source.get? i with
      | none => i
      | some c =>
        if c == '\x00' then i
        else if c == '*' && source.get? (i + 1) == some '/' then i + 2
        else go fuel (i + 1)

/-- Skip blanks and comments. Also tells whether they end at something other than a slash, and
whether a line comment was among them. -/
def skipComments (source : Source) (i : Nat) : Nat × Bool × Bool :=
  go (source.size + 1 - i) i false
where
  go : Nat → Nat → Bool → Nat × Bool × Bool
    | 0, i, seen => (i, true, seen)
    | fuel + 1, i, seen =>
      let i := skipBlanks source i
      if source.get? i == some '/' then
        match source.get? (i + 1) with
        | some '/' => go fuel (skipWhile source (fun c => c != '\n' && c != '\x00') (i + 2)) true
        | some '*' => go fuel (skipBlockComment source (i + 2)) seen
        | _ => (i + 1, false, seen)
      else (i, true, seen)

def isLetter (c : Option Char) : Bool :=
  match c with
  | some c => c.isAlpha
  | none => false

/-- Whether a line that goes on here starts a new statement, and where the decision is made. A sign, an
exclamation mark and the letters of an operator are passed over to see what follows them. -/
def startsStatement (source : Source) (expected : TokenSet) (i : Nat) : Bool × Nat :=
  match source.get? i with
  | none => (true, i)
  | some c =>
    if "`,.;*%><=?^|&/:".toList.contains c then (false, i)
    else if c == '\x7b' then (!expected.contains signatureSemicolon, i)
    else if c == '(' || c == '[' then (!expected.contains logicalOr, i)
    else if c == '+' then (source.get? (i + 1) == some '+', i + 1)
    else if c == '-' then (source.get? (i + 1) == some '-', i + 1)
    else if c == '!' then (source.get? (i + 1) != some '=', i + 1)
    else if c == 'i' then
      if source.get? (i + 1) != some 'n' then (true, i + 1)
      else if !isLetter (source.get? (i + 2)) then (false, i + 2)
      else
        let rest := "stanceof".toList
        let matching := (List.range rest.length).all fun k => source.get? (i + 2 + k) == rest[k]?
        (!matching || isLetter (source.get? (i + 2 + rest.length)), i + 2 + rest.length)
    else (true, i)

/-- What the search for an implied semicolon finds: whether there is one, where the search stood
when it gave up, and whether it passed a line comment. -/
structure SemicolonSearch where
  found : Bool
  place : Nat
  sawComment : Bool

def searchSemicolon (source : Source) (expected : TokenSet) (place : Nat) : SemicolonSearch :=
  go (source.size + 1 - place) place
where
  go : Nat → Nat → SemicolonSearch
    | 0, i => ⟨true, i, false⟩
    | fuel + 1, i => match source.get? i with
      | none => ⟨true, i, false⟩
      | some c =>
        if c == '\x00' then ⟨true, i, false⟩
        else if c == '\x7d' then
          let after := skipBlanks source (i + 1)
          ⟨source.get? after != some ':' || expected.contains logicalOr, after, false⟩
        else if !isBlank c then ⟨false, i, false⟩
        else if c == '\n' then
          let (after, clear, sawComment) := skipComments source (i + 1)
          if clear then
            let (starts, place) := startsStatement source expected after
            ⟨starts, place, sawComment⟩
          else ⟨false, after, sawComment⟩
        else go fuel (i + 1)

/-! ## Question marks -/

/-- The question mark of a conditional: not one that is doubled, starts a chain, or marks something
as optional. -/
def scanTernary (source : Source) (place : Nat) : Option Found :=
  let i := skipBlanks source place
  if source.get? i != some '?' || source.get? (i + 1) == some '?' || source.get? (i + 1) == some '.' then none
  else
    let after := skipBlanks source (i + 1)
    let found : Found := ⟨ternaryMark, i, i + 1⟩
    match source.get? after with
    | some ':' | some ')' | some ',' => none
    | some '.' => match source.get? (after + 1) with
      | some d => if d.isDigit then some found else none
      | none => none
    | _ => some found

/-! ## Comments of markup -/

def scanHtmlComment (source : Source) (place : Nat) : Option Found :=
  let separator (c : Char) : Bool := c == '\u2028' || c == '\u2029'
  let i := skipWhile source (fun c => isBlank c || separator c) place
  let starts (text : String) : Bool :=
    (List.range text.length).all fun k => source.get? (i + k) == text.toList[k]?
  if starts "<!--" || starts "-->" then
    let body := if starts "<!--" then i + 4 else i + 3
    some ⟨htmlComment, i, skipWhile source (fun c => c != '\x00' && c != '\n' && !separator c) body⟩
  else none

/-! ## All together -/

/-- Look for one of the expected tokens. Where both text of a template and a semicolon are expected
the parser is recovering from an error, and nothing is found. -/
def scan (source : Source) (expected : TokenSet) (place : Nat) : Option Found :=
  if expected.contains templateChars then
    if expected.contains automaticSemicolon then none else scanTemplate source place
  else
    match if expected.contains markupText then scanMarkupText source place else none with
    | some found => some found
    | none =>
      -- Text that turns out to be only blanks has been passed, and belongs to the token.
      let begun := place
      let inText := expected.contains markupText
      let place := if inText then
          skipWhile source (fun c => !("<>&\x7b\x7d\x00".toList.contains c)) place
        else place
      if expected.contains automaticSemicolon || expected.contains signatureSemicolon then
        let search := searchSemicolon source expected place
        if search.found then
          let token := if expected.contains automaticSemicolon then automaticSemicolon else signatureSemicolon
          some ⟨token, place, place⟩
        else if !search.sawComment && expected.contains ternaryMark && source.get? search.place == some '?' then
          scanTernary source search.place
        else none
      else if expected.contains ternaryMark then scanTernary source place
      else if expected.contains htmlComment && !expected.contains logicalOr &&
          !expected.contains escapeSequence && !expected.contains regexPattern then
        (scanHtmlComment source place).map fun found => if inText then { found with start := begun } else found
      else none

end Graft.Lexicon.Contextual
