import Graft.Lexicon.Contextual
import Graft.Parse.Stack

set_option autoImplicit false

/-!
# Reading the next token

Which token comes next depends on the state of the parser. Tokens that are found by hand come
first, then those with a spelling. If nothing that the state expects is found, the parser takes any
token that is safe to recognise, and if there is none it skips text up to one.
-/

namespace Graft.Parse

open Graft.Automaton Graft.Lexicon Graft.Grammar

/-- Where reading starts: a byte order mark at the very beginning is passed over. -/
def readingPlace (source : Source) (place : Nat) : Nat :=
  if place == 0 && source.get? 0 == some '\uFEFF' then 1 else place

/-- The token of the hand-written scanner in a state. One without text is refused where it could be
found for ever: in an error, or when nothing has been read since one. -/
def contextual (l : Language) (source : Source) (state place : Nat) (advanced : Bool) : Option Contextual.Found :=
  match Contextual.scan source (l.table.externals.getD state .empty) (readingPlace source place) with
  | none => none
  | some found =>
    if place < found.stop then some found
    else if state == 0 || !advanced || l.table.next state found.token == state then none
    else some found

/-- Skip text in which no token begins. `stop` is where the skipped text ends so far. -/
def skipText (l : Language) (source : Source) : Nat → Nat → Nat
  | 0, stop => stop
  | fuel + 1, stop =>
    match contextual l source 0 stop false with
    | some _ => stop
    | none =>
      let scan := l.scanner.scan source (l.table.lexicalMode.getD 0 0) (readingPlace source stop)
      if scan.lexeme.isSome then stop
      else if scan.place == stop then
        if stop ≥ source.size then stop else skipText l source fuel (stop + 1)
      else skipText l source fuel scan.place

/-- The code of what the scanner found. -/
def codeOf (l : Language) : Lexeme → Nat
  | .token i => l.table.coding.code (.terminal i)
  | .eof => l.table.coding.eof

/-- The keyword that a word is, if the state has a use for it. Also tells whether the word starts
with a keyword at all. -/
def keywordAt (l : Language) (source : Source) (state start stop : Nat) : Option Nat × Bool :=
  let scan := l.scanner.scan source l.keywordMode start
  match scan.lexeme with
  | some (.token i) =>
    let code := l.table.coding.code (.terminal i)
    if scan.stop == stop && !(l.table.actionsAt state code).isEmpty then (some code, true) else (none, true)
  | _ => (none, false)

/-- The token found by the scanner, with the blanks before it. Where the scanner went on over blanks
behind the end of the token, the token is the empty text at that end. -/
def tokenOf (l : Language) (source : Source) (state place : Nat) (lexeme : Lexeme) (scan : Scan) : Subtree :=
  let code := codeOf l lexeme
  let (code, keyword) :=
    if code == l.word then
      let (found, keyword) := keywordAt l source state scan.start scan.stop
      (found.getD code, keyword)
    else (code, false)
  .mk { kind := .symbol code, outer := place, start := min scan.start scan.stop, stop := scan.stop
        keyword, extra := code == l.table.coding.eof } #[]

/-- The next token in a state; `advanced` tells whether anything has been read since the last error. -/
def nextToken (l : Language) (source : Source) (state place : Nat) (advanced : Bool) : Subtree :=
  let handMade (found : Contextual.Found) : Subtree :=
    let symbol := match (l.grammar.externals.getD found.token default).internal with
      | some t => l.table.coding.code (.terminal t)
      | none => found.token
    .leaf symbol place found.start found.stop
  let scanIn (mode : Nat) : Scan := l.scanner.scan source mode (readingPlace source place)
  match contextual l source state place advanced with
  | some found => handMade found
  | none =>
    let scan := scanIn (l.table.lexicalMode.getD state 0)
    match scan.lexeme with
    | some lexeme => tokenOf l source state place lexeme scan
    | none =>
      -- Any token that can be recognised without knowing what to expect.
      match if state == 0 then none else contextual l source 0 place advanced with
      | some found => handMade found
      | none =>
        let scan := if state == 0 then scan else scanIn (l.table.lexicalMode.getD 0 0)
        match scan.lexeme with
        | some lexeme => tokenOf l source state place lexeme scan
        | none =>
          let first := if scan.place == scan.start then scan.start + 1 else scan.place
          let stop := if scan.start ≥ source.size then scan.start
            else skipText l source (source.size + 1) first
          .mk { kind := .error, outer := place, start := scan.start, stop } #[]

end Graft.Parse
