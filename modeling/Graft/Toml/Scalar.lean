import Graft.Data
import Graft.Text.Lines

set_option autoImplicit false

/-!
# Scalars of TOML

Strings in their four notations, numbers, truth values, dates and times. Every reader takes the
text from the place where the scalar begins and gives back what is left.
-/

namespace Graft.Toml

/-- A reader takes a part of the text and gives the rest back; it may fail. -/
abbrev Reader (α : Type) := List Char → Option (α × List Char)

/-- Characters that may stand for themselves anywhere: no control characters but the tab. -/
def isPlain (c : Char) : Bool := c == '\t' || (' ' ≤ c && c != '\x7f')

/-! ## Strings -/

def hexDigit? (c : Char) : Option Nat :=
  if c.isDigit then some (c.toNat - '0'.toNat)
  else if 'a' ≤ c && c ≤ 'f' then some (c.toNat - 'a'.toNat + 10)
  else if 'A' ≤ c && c ≤ 'F' then some (c.toNat - 'A'.toNat + 10)
  else none

/-- The character with a code point written in hexadecimal. -/
def codePoint? (digits : List Char) : Option Char := do
  let n ← digits.foldlM (fun n c => (hexDigit? c).map (16 * n + ·)) 0
  if h : n.isValidChar then some (Char.ofNatAux n h) else none

/-- What a letter behind a backslash stands for. -/
def shortEscape? : Char → Option Char
  | 'b' => some '\x08'
  | 't' => some '\t'
  | 'n' => some '\n'
  | 'f' => some '\x0c'
  | 'r' => some '\r'
  | 'e' => some '\x1b'
  | '"' => some '"'
  | '\\' => some '\\'
  | _ => none

/-- One character in front of what a reader reads. -/
def prepend (c : Char) (r : Option (List Char × List Char)) : Option (List Char × List Char) :=
  r.map fun (text, rest) => (c :: text, rest)

/-- The rest of a string in double quotes. -/
def readBasic : Reader (List Char)
  | [] => none
  | '"' :: rest => some ([], rest)
  | '\\' :: 'x' :: a :: b :: rest => (codePoint? [a, b]).bind fun c => prepend c (readBasic rest)
  | '\\' :: 'u' :: a :: b :: c :: d :: rest => (codePoint? [a, b, c, d]).bind fun c => prepend c (readBasic rest)
  | '\\' :: 'U' :: a :: b :: c :: d :: e :: f :: g :: h :: rest =>
    (codePoint? [a, b, c, d, e, f, g, h]).bind fun c => prepend c (readBasic rest)
  | '\\' :: e :: rest => (shortEscape? e).bind fun c => prepend c (readBasic rest)
  | c :: rest => if isPlain c && c != '\\' then prepend c (readBasic rest) else none

/-- The rest of a string in single quotes, where nothing is escaped. -/
def readLiteral : Reader (List Char)
  | [] => none
  | '\'' :: rest => some ([], rest)
  | c :: rest => if isPlain c then prepend c (readLiteral rest) else none

/-- What is left behind the blanks and line breaks that a backslash at the end of a line swallows. -/
def swallow : List Char → List Char
  | '\r' :: '\n' :: rest => swallow rest
  | c :: rest => if Text.isSpaceOrTab c || c == '\n' then swallow rest else c :: rest
  | [] => []

theorem length_swallow_le (cs : List Char) : (swallow cs).length ≤ cs.length := by
  fun_induction swallow cs with
  | case1 rest ih => simp only [List.length_cons]; omega
  | case2 c rest _ _ ih => simp only [List.length_cons]; omega
  | case3 => exact Nat.le_refl _
  | case4 => exact Nat.le_refl _

/-- Whether only blanks come before the next line break. -/
def endsLine (cs : List Char) : Bool :=
  match cs.dropWhile Text.isSpaceOrTab with
  | '\n' :: _ | '\r' :: '\n' :: _ => true
  | _ => false

/-- The rest of a string in three double quotes. Up to two quotes may stand before the closing ones. Line
breaks stay as they are written. -/
def readMultilineBasic : Reader (List Char)
  | [] => none
  | '"' :: '"' :: '"' :: '"' :: '"' :: rest => some (['"', '"'], rest)
  | '"' :: '"' :: '"' :: '"' :: rest => some (['"'], rest)
  | '"' :: '"' :: '"' :: rest => some ([], rest)
  | '\\' :: 'x' :: a :: b :: rest => (codePoint? [a, b]).bind fun c => prepend c (readMultilineBasic rest)
  | '\\' :: 'u' :: a :: b :: c :: d :: rest =>
    (codePoint? [a, b, c, d]).bind fun c => prepend c (readMultilineBasic rest)
  | '\\' :: 'U' :: a :: b :: c :: d :: e :: f :: g :: h :: rest =>
    (codePoint? [a, b, c, d, e, f, g, h]).bind fun c => prepend c (readMultilineBasic rest)
  | '\\' :: rest =>
    if endsLine rest then readMultilineBasic (swallow rest)
    else match rest with
      | e :: rest => (shortEscape? e).bind fun c => prepend c (readMultilineBasic rest)
      | [] => none
  | '\r' :: '\n' :: rest => prepend '\r' (prepend '\n' (readMultilineBasic rest))
  | c :: rest => if isPlain c || c == '\n' then prepend c (readMultilineBasic rest) else none
termination_by cs => cs.length
decreasing_by
  all_goals simp only [List.length_cons]
  all_goals first | omega | exact Nat.lt_succ_of_le (length_swallow_le _)

/-- The rest of a string in three single quotes. -/
def readMultilineLiteral : Reader (List Char)
  | [] => none
  | '\'' :: '\'' :: '\'' :: '\'' :: '\'' :: rest => some (['\'', '\''], rest)
  | '\'' :: '\'' :: '\'' :: '\'' :: rest => some (['\''], rest)
  | '\'' :: '\'' :: '\'' :: rest => some ([], rest)
  | '\r' :: '\n' :: rest => prepend '\r' (prepend '\n' (readMultilineLiteral rest))
  | c :: rest => if isPlain c || c == '\n' then prepend c (readMultilineLiteral rest) else none

/-- A line break right behind the opening quotes is not part of the string. -/
def dropLineBreak : List Char → List Char
  | '\n' :: rest => rest
  | '\r' :: '\n' :: rest => rest
  | cs => cs

/-- A string in any notation. -/
def readString : Reader String
  | '"' :: '"' :: '"' :: rest => (readMultilineBasic (dropLineBreak rest)).map fun (s, r) => (String.ofList s, r)
  | '\'' :: '\'' :: '\'' :: rest =>
    (readMultilineLiteral (dropLineBreak rest)).map fun (s, r) => (String.ofList s, r)
  | '"' :: rest => (readBasic rest).map fun (s, r) => (String.ofList s, r)
  | '\'' :: rest => (readLiteral rest).map fun (s, r) => (String.ofList s, r)
  | _ => none

/-! ## Numbers -/

/-- Digits, with single underscores between them. -/
def areDigits (digit : Char → Bool) : List Char → Bool
  | [] => false
  | [c] => digit c
  | c :: '_' :: rest => digit c && areDigits digit rest
  | c :: rest => digit c && areDigits digit rest

def valueOf (base : Nat) (digits : List Char) : Nat :=
  (digits.filterMap hexDigit?).foldl (fun n d => base * n + d) 0

/-- Split off a sign. -/
def splitSign : List Char → Bool × List Char
  | '+' :: rest => (false, rest)
  | '-' :: rest => (true, rest)
  | cs => (false, cs)

/-- A decimal number without needless zeros in front. -/
def isDecimal (cs : List Char) : Bool :=
  areDigits Char.isDigit cs && (cs.length == 1 || cs.head? != some '0')

def isBinaryDigit (c : Char) : Bool := c == '0' || c == '1'

def isOctalDigit (c : Char) : Bool := '0' ≤ c && c ≤ '7'

/-- The first number that does not fit into 64 bits with a sign. -/
def integerLimit : Nat := 0x8000000000000000

/-- Whether a text is an integer that fits into 64 bits. -/
def isInteger (cs : List Char) : Bool :=
  match cs with
  | '0' :: 'x' :: digits => areDigits (fun c => (hexDigit? c).isSome) digits && valueOf 16 digits < integerLimit
  | '0' :: 'o' :: digits => areDigits isOctalDigit digits && valueOf 8 digits < integerLimit
  | '0' :: 'b' :: digits => areDigits isBinaryDigit digits && valueOf 2 digits < integerLimit
  | _ =>
    let (negative, digits) := splitSign cs
    isDecimal digits && valueOf 10 digits < (if negative then integerLimit + 1 else integerLimit)

/-- Split at the first character of a kind. -/
def splitAtFirst (p : Char → Bool) (cs : List Char) : List Char × Option (List Char) :=
  match cs.dropWhile (!p ·) with
  | [] => (cs, none)
  | _ :: rest => (cs.takeWhile (!p ·), some rest)

/-- Whether a number `digits · 10 ^ exponent` is beyond what 64 bits of floating point can hold. -/
def overflows (digits : Nat) (exponent : Int) : Bool :=
  let size : Int := (Nat.toDigits 10 digits).length
  if digits == 0 || exponent + size ≤ 300 then false
  else if exponent + size > 320 then true
  else
    let limit := (1 <<< 1024) - (1 <<< 970)
    if exponent ≥ 0 then limit ≤ digits * Nat.pow 10 exponent.toNat
    else limit * Nat.pow 10 (-exponent).toNat ≤ digits

/-- Whether a text is a number with a fraction or an exponent, or one of the special values. -/
def isFloat (cs : List Char) : Bool :=
  let (_, cs) := splitSign cs
  if cs == ['i', 'n', 'f'] || cs == ['n', 'a', 'n'] then true
  else
    let (mantissa, exponent) := splitAtFirst (fun c => c == 'e' || c == 'E') cs
    let (whole, fraction) := splitAtFirst (· == '.') mantissa
    let wellFormed := isDecimal whole && (fraction.map (areDigits Char.isDigit)).getD true &&
      (exponent.map fun e => areDigits Char.isDigit (splitSign e).2).getD true &&
      (fraction.isSome || exponent.isSome)
    let decimals := (fraction.getD []).filter Char.isDigit
    let power : Int := match exponent with
      | none => 0
      | some e => let (negative, digits) := splitSign e
        if negative then -(valueOf 10 digits : Int) else valueOf 10 digits
    wellFormed && !overflows (valueOf 10 (whole ++ decimals)) (power - decimals.length)

/-! ## Dates and times -/

/-- The number that exactly `n` digits make up, and the rest. -/
def readDigits (n : Nat) : Reader Nat := fun cs =>
  let digits := cs.take n
  if digits.length == n && digits.all Char.isDigit then some (valueOf 10 digits, cs.drop n) else none

def daysIn (year month : Nat) : Nat :=
  if month == 2 then if (year % 4 == 0 && year % 100 != 0) || year % 400 == 0 then 29 else 28
  else if month == 4 || month == 6 || month == 9 || month == 11 then 30 else 31

/-- One given character. -/
def readChar (p : Char → Bool) : Reader Unit
  | c :: rest => if p c then some ((), rest) else none
  | [] => none

/-- A day: year, month and day of the month. -/
def readDate : Reader Unit := fun cs => do
  let (year, cs) ← readDigits 4 cs
  let ((), cs) ← readChar (· == '-') cs
  let (month, cs) ← readDigits 2 cs
  let ((), cs) ← readChar (· == '-') cs
  let (day, cs) ← readDigits 2 cs
  if 1 ≤ month && month ≤ 12 && 1 ≤ day && day ≤ daysIn year month then some ((), cs) else none

/-- A time of day; the seconds and their fraction may be missing. -/
def readTime : Reader Unit := fun cs => do
  let (hour, cs) ← readDigits 2 cs
  let ((), cs) ← readChar (· == ':') cs
  let (minute, cs) ← readDigits 2 cs
  if 23 < hour || 59 < minute then none
  else match cs with
    | ':' :: cs => do
      let (second, cs) ← readDigits 2 cs
      if 60 < second then none
      else match cs with
        | '.' :: cs => if (cs.takeWhile Char.isDigit).isEmpty then none else some ((), cs.dropWhile Char.isDigit)
        | _ => some ((), cs)
    | _ => some ((), cs)

/-- The distance from universal time. -/
def readOffset : Reader Unit
  | 'Z' :: cs | 'z' :: cs => some ((), cs)
  | c :: cs => do
    if c == '+' || c == '-' then
      let (hour, cs) ← readDigits 2 cs
      let ((), cs) ← readChar (· == ':') cs
      let (minute, cs) ← readDigits 2 cs
      if hour ≤ 23 && minute ≤ 59 then some ((), cs) else none
    else none
  | [] => none

/-- Whether a reader takes the whole text. -/
def takesAll (r : Reader Unit) (cs : List Char) : Bool :=
  match r cs with
  | some ((), []) => true
  | _ => false

/-- Whether a text is a date, a time, or both. -/
def isMoment (cs : List Char) : Bool :=
  takesAll readTime cs ||
    match readDate cs with
    | none => false
    | some ((), []) => true
    | some ((), c :: rest) =>
      (c == 'T' || c == 't' || c == ' ') &&
        match readTime rest with
        | none => false
        | some ((), rest) => rest.isEmpty || takesAll readOffset rest

/-! ## Scalars -/

/-- Characters that words, numbers and moments are made of. -/
def isScalarChar (c : Char) : Bool := c.isAlphanum || c == '+' || c == '-' || c == '_' || c == '.' || c == ':'

/-- A scalar that is no string. A blank may stand between a date and a time. -/
def readBare : Reader Data := fun cs =>
  let word := cs.takeWhile isScalarChar
  let rest := cs.dropWhile isScalarChar
  let (word, rest) := match rest with
    | ' ' :: d :: after =>
      if d.isDigit && takesAll readDate word then
        (word ++ ' ' :: (d :: after).takeWhile isScalarChar, (d :: after).dropWhile isScalarChar)
      else (word, rest)
    | _ => (word, rest)
  if word == ['t', 'r', 'u', 'e'] then some (.bool true, rest)
  else if word == ['f', 'a', 'l', 's', 'e'] then some (.bool false, rest)
  else if isInteger word || isFloat word then some (.number (String.ofList word), rest)
  else if isMoment word then some (.moment (String.ofList word), rest)
  else none

end Graft.Toml
