import Graft.Text.Age
import Graft.Text.CaseFold
import Graft.Text.Regex
import Graft.Text.Script
import Graft.Text.Segment

set_option autoImplicit false

/-!
# Classes of characters

The sets that names and letters stand for in an expression, and the flags that change what they mean.
-/

namespace Graft.Text.Regex

/-! ## Flags -/

inductive Flag where
  | ignoreCase
  | multiline
  | dotAll
  | swapGreed
  | unicode
  | returns
  | verbose
  deriving BEq, DecidableEq, Inhabited, Repr

def flag? : Char → Option Flag
  | 'i' => some .ignoreCase
  | 'm' => some .multiline
  | 's' => some .dotAll
  | 'U' => some .swapGreed
  | 'u' => some .unicode
  | 'R' => some .returns
  | 'x' => some .verbose
  | _ => none

structure Flags where
  ignoreCase : Bool := false
  multiline : Bool := false
  dotAll : Bool := false
  /-- Characters count, and not bytes. -/
  unicode : Bool := true
  /-- A carriage return breaks lines, too. -/
  returns : Bool := false
  /-- Blanks and comments count for nothing. -/
  verbose : Bool := false

namespace Flags

def set (f : Flags) (on : Bool) : Flag → Flags
  | .ignoreCase => { f with ignoreCase := on }
  | .multiline => { f with multiline := on }
  | .dotAll => { f with dotAll := on }
  | .swapGreed => f
  | .unicode => { f with unicode := on }
  | .returns => { f with returns := on }
  | .verbose => { f with verbose := on }

def alphabet (f : Flags) : Alphabet := if f.unicode then .unicode else .ascii

/-- Everything that is not in a set. -/
def compl (f : Flags) (s : CharSet) : CharSet := if f.unicode then s.compl else s.compl.inter (.range 0 0xFF)

/-- A set with the members that differ only in case, if case does not count. -/
def fold (f : Flags) (s : CharSet) : CharSet :=
  if !f.ignoreCase then s
  else if f.unicode then foldCase s
  else
    let upper := s.inter (.between 'A' 'Z')
    let lower := s.inter (.between 'a' 'z')
    let shift (move : Nat → Nat) (t : CharSet) : CharSet := ⟨t.ranges.map fun (a, b) => (move a, move b)⟩
    CharSet.unionAll [s, shift (· + 32) upper, shift (· - 32) lower]

/-- A set, or what is not in it, with case in mind. -/
def settle (f : Flags) (negated : Bool) (s : CharSet) : CharSet :=
  let s := f.fold s
  if negated then f.compl s else s

/-- One character or byte of a set. -/
def oneOf (f : Flags) (s : CharSet) : Regex := if f.unicode then .char s else .octet s

end Flags

/-! ## Named classes -/

def asciiClass? : String → Option CharSet
  | "alnum" => some (CharSet.unionAll [.between '0' '9', .between 'A' 'Z', .between 'a' 'z'])
  | "alpha" => some ((CharSet.between 'A' 'Z').union (.between 'a' 'z'))
  | "ascii" => some (CharSet.range 0 0x7F)
  | "blank" => some (CharSet.ofString "\t ")
  | "cntrl" => some ((CharSet.range 0 0x1F).union (.range 0x7F 0x7F))
  | "digit" => some (CharSet.between '0' '9')
  | "graph" => some (CharSet.between '!' '~')
  | "lower" => some (CharSet.between 'a' 'z')
  | "print" => some (CharSet.between ' ' '~')
  | "punct" => some (CharSet.unionAll
      [.between '!' '/', .between ':' '@', .between '[' (Char.ofNat 0x60), .between (Char.ofNat 0x7B) '~'])
  | "space" => some (CharSet.ofString "\t\n\x0b\x0c\r ")
  | "upper" => some (CharSet.between 'A' 'Z')
  | "word" => some asciiWordChars
  | "xdigit" => some (CharSet.unionAll [.between '0' '9', .between 'A' 'F', .between 'a' 'f'])
  | _ => none

/-- A name as it is compared: in small letters, without separators, without anything that is not ASCII,
and without the word "is" in front. -/
def simplify (name : List Char) : String :=
  let (bare, cut) := match name with
    | a :: b :: rest => if a.toLower == 'i' && b.toLower == 's' then (rest, true) else (name, false)
    | _ => (name, false)
  let kept := (bare.filter fun c => c.toNat < 0x80 && !(c == ' ' || c == '_' || c == '-')).map Char.toLower
  -- The name of a property without members, which must not be taken for that of a category.
  if cut && kept == ['c'] then "isc" else String.ofList kept

/-- What comes before the first of some separators, and what comes behind it. -/
def splitAt? (separator : List Char) : List Char → Option (List Char × List Char)
  | [] => none
  | c :: rest =>
    if separator.isPrefixOf (c :: rest) then some ([], (c :: rest).drop separator.length)
    else (splitAt? separator rest).map fun (before, behind) => (c :: before, behind)

/-- The characters with a property that is given by one name. Where names collide, a property goes before
a category and a category before a script. -/
def classNamed? (name : String) : Option CharSet :=
  if name == "cf" || name == "sc" || name == "lc" then category? name
  else (property? name).or ((category? name).or (script? name))

/-- The characters for which a property has a value. -/
def classValued? (name value : String) : Option CharSet :=
  match name with
  | "gc" | "generalcategory" => category? value
  | "sc" | "script" => script? value
  | "scx" | "scriptextensions" => scriptExtensions? value
  | "age" => age? value
  | "gcb" | "graphemeclusterbreak" => part? graphemeBreaksNames graphemeBreaks value
  | "wb" | "wordbreak" => part? wordBreaksNames wordBreaks value
  | "sb" | "sentencebreak" => part? sentenceBreaksNames sentenceBreaks value
  | _ => none

/-- The class that is described in braces. -/
def described? (text : List Char) : Option CharSet :=
  match (splitAt? ['!', '='] text).or ((splitAt? [':'] text).or (splitAt? ['='] text)) with
  | some (name, value) => classValued? (simplify name) (simplify value)
  | none => classNamed? (simplify text)

/-- The class of a letter behind a backslash. -/
def letterClass? (f : Flags) (c : Char) : Option CharSet :=
  let choose (wide narrow : CharSet) : CharSet := if f.unicode then wide else narrow
  let digits := choose decimals (.between '0' '9')
  let spaces := choose blanks (CharSet.ofString "\t\n\x0b\x0c\r ")
  let words := choose wordChars asciiWordChars
  match c with
  | 'd' => some digits
  | 's' => some spaces
  | 'w' => some words
  | 'D' => some (f.compl digits)
  | 'S' => some (f.compl spaces)
  | 'W' => some (f.compl words)
  | _ => none

end Graft.Text.Regex
