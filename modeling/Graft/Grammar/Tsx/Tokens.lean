import Graft.Grammar.Rule

set_option autoImplicit false

/-!
# Tokens of TSX

Character classes and the patterns of the tokens that are more than a fixed spelling: names,
numbers, comments, the pieces of strings and of regular expressions.
-/

namespace Graft.Grammar.Tsx

/-- Whether angle brackets begin markup, as in component files, or a type that an expression is asserted
to have, as in plain script files. -/
inductive Dialect where
  | markup
  | assertions
  deriving BEq, DecidableEq, Inhabited, Repr

/-- What only holds in one of the dialects. -/
def Dialect.only {α : Type} (own d : Dialect) (rules : List α) : List α := if own == d then rules else []

/-! ## Braces

Rules spell the braces by name.
-/

def openBrace : String := "\x7b"
def closeBrace : String := "\x7d"

/-! ## Character classes -/

/-- Tab, the line and page breaks, and the space. -/
def asciiBlank : CharSet := (CharSet.range 0x09 0x0D).union (CharSet.range 0x20 0x20)

/-- The space separators of Unicode. -/
def spaceSeparator : CharSet :=
  ⟨[(0x20, 0x20), (0xA0, 0xA0), (0x1680, 0x1680), (0x2000, 0x200A), (0x202F, 0x202F),
    (0x205F, 0x205F), (0x3000, 0x3000)]⟩

/-- Line and paragraph separators and the invisible marks that count as blank. -/
def invisible : CharSet :=
  ⟨[(0x200B, 0x200B), (0x2028, 0x2029), (0x2060, 0x2060), (0xFEFF, 0xFEFF)]⟩

/-- What may separate two tokens. -/
def blankChars : CharSet := CharSet.unionAll [asciiBlank, spaceSeparator, invisible]

def decimalDigit : CharSet := CharSet.between '0' '9'

def hexDigit : CharSet :=
  CharSet.unionAll [decimalDigit, CharSet.between 'a' 'f', CharSet.between 'A' 'F']

def asciiLetter : CharSet := (CharSet.between 'a' 'z').union (CharSet.between 'A' 'Z')

/-- The characters that cannot stand in a name: controls, blanks and punctuation. -/
def notInName : CharSet :=
  CharSet.unionAll [CharSet.range 0 0x1F, blankChars,
    CharSet.ofString ":;`\"'@#.,|^&<=>+-*/\\%?!~()[]\x7b\x7d"]

/-- Every character except those of a text. -/
def noneOf (text : String) : CharSet := (CharSet.ofString text).compl

/-- Every character but the line feed. -/
def notLineFeed : CharSet := noneOf "\n"

/-! ## Patterns -/

/-- A character written by its number. -/
def unicodeEscape : List Pattern :=
  [.seq [.text "\\u", .times 4 (.chars hexDigit)],
   .seq [.text "\\u\x7b", .plus (.chars hexDigit), .text "\x7d"]]

/-- The first character of a name. -/
def nameStart : Pattern := .alt (.chars (notInName.union decimalDigit).compl :: unicodeEscape)

/-- A later character of a name. -/
def nameRest : Pattern := .alt (.chars notInName.compl :: unicodeEscape)

def hashBangLine : Pattern := .seq [.text "#!", .star (.chars notLineFeed)]

/-- A name reference, or a number reference in either base. -/
def characterReference : Pattern :=
  .seq [.text "&",
    .alt [.seq [.text "#",
          .alt [.seq [.chars (CharSet.ofString "xX"), .between 1 6 (.chars hexDigit)],
               .between 1 5 (.chars decimalDigit)]],
         .between 1 30 (.chars asciiLetter)],
    .text ";"]

/-- A markup name with a dash in it. -/
def dashedName : Pattern :=
  let word := CharSet.unionAll [asciiLetter, CharSet.ofString "_$"]
  let wordOrDigit := word.union decimalDigit
  .seq [.chars word, .star (.chars wordOrDigit), .text "-", .star (.chars (wordOrDigit.union (CharSet.single '-')))]

/-- A piece of a quoted markup attribute: no closing quote, and no start of a reference. -/
def markupFragment (quote : Char) : Pattern :=
  .plus (.alt [.chars (noneOf (String.ofList [quote, '&'])),
    .seq [.text "&", .chars (CharSet.compl ((CharSet.single '#').union asciiLetter))]])

/-- A piece of a string: up to the closing quote, a backslash or the end of the line. -/
def stringFragment (quote : Char) : Pattern := .plus (.chars (noneOf (String.ofList [quote, '\\', '\r', '\n'])))

def escapeSequence : Pattern :=
  let octal := CharSet.between '0' '7'
  .seq [.text "\\",
    .alt [.chars (CharSet.compl (octal.union (CharSet.ofString "xu"))),
      .between 1 3 (.chars octal),
      .seq [.text "x", .times 2 (.chars hexDigit)],
      .seq [.text "u", .times 4 (.chars hexDigit)],
      .seq [.text "u\x7b", .plus (.chars hexDigit), .text "\x7d"],
      .seq [.chars (CharSet.ofString "\r?"), .chars (CharSet.ofString "\n\u2028\u2029")]]]

def comment : Pattern :=
  let notStar : Pattern := .chars (noneOf "*")
  let stars : Pattern := .plus (.text "*")
  .alt [.seq [.text "//", .star (.chars (noneOf "\r\n\u2028\u2029"))],
    .seq [.text "/*", .star notStar, stars, .star (.seq [.chars (noneOf "/*"), .star notStar, stars]), .text "/"]]

def regexPattern : Pattern :=
  let escaped : Pattern := .seq [.text "\\", .chars notLineFeed]
  .plus (.alt [
    .seq [.text "[", .star (.alt [escaped, .chars (noneOf "]\n\\")]), .text "]"],
    escaped,
    .chars (noneOf "/\\[\n")])

/-- Digits of a class, with single underscores between them. -/
def digits (first rest : CharSet) : Pattern :=
  .seq [.chars first, .star (.seq [.opt (.text "_"), .chars rest])]

def number : Pattern :=
  let decimalDigits : Pattern := digits decimalDigit decimalDigit
  let hexLiteral : Pattern := .seq [.alt [.text "0x", .text "0X"], digits hexDigit hexDigit]
  let exponent : Pattern := .seq [.alt [.text "e", .text "E"], .opt (.alt [.text "-", .text "+"]), decimalDigits]
  let bit := CharSet.between '0' '1'
  let octal := CharSet.between '0' '7'
  let binaryLiteral : Pattern := .seq [.alt [.text "0b", .text "0B"], digits bit bit]
  let octalLiteral : Pattern := .seq [.alt [.text "0o", .text "0O"], digits octal octal]
  let bigLiteral : Pattern := .seq [.alt [hexLiteral, binaryLiteral, octalLiteral, decimalDigits], .text "n"]
  let integer : Pattern := .alt [.text "0",
    .seq [.opt (.text "0"), .chars (CharSet.between '1' '9'), .opt (.seq [.opt (.text "_"), decimalDigits])]]
  let decimal : Pattern := .alt [
    .seq [integer, .text ".", .opt decimalDigits, .opt exponent],
    .seq [.text ".", decimalDigits, .opt exponent],
    .seq [integer, exponent],
    decimalDigits]
  .alt [hexLiteral, decimal, binaryLiteral, octalLiteral, bigLiteral]

def identifier : Pattern := .seq [nameStart, .star nameRest]

def privateName : Pattern := .seq [.text "#", nameStart, .star nameRest]

end Graft.Grammar.Tsx
