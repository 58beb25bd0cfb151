import Graft.Text.Alphanumeric
import Graft.Text.Regex.Class
import Graft.Text.Regex.Size

set_option autoImplicit false

/-!
# Reading regular expressions

The usual notation: classes, groups, alternatives, repetitions, anchors and inline flags, but no
look-around and no references back. What an expression means is settled while it is read, as the flags
say at that place.
-/

namespace Graft.Text.Regex

/-! ## Blanks and comments -/

/-- Drop blanks and comments. -/
def dropVerbose : Nat → List Char → List Char
  | 0, cs => cs
  | fuel + 1, cs => match cs with
    | '#' :: rest => dropVerbose fuel ((rest.dropWhile (· != '\n')).drop 1)
    | c :: rest => if isBlank c then dropVerbose fuel rest else cs
    | [] => []

/-- Drop what counts for nothing. -/
def Flags.skip (f : Flags) (cs : List Char) : List Char := if f.verbose then dropVerbose cs.length cs else cs

/-- The character behind the first one that decides whether a hyphen makes a range. -/
def Flags.peek (f : Flags) (cs : List Char) : Option Char :=
  let rest := cs.drop 1
  if !f.verbose then rest.head?
  else
    let found := match rest.dropWhile isBlank with
      | '#' :: more => (more.dropWhile isBlank).head?
      | more => more.head?
    found.or rest.head?

/-! ## Escapes -/

/-- What an escape stands for. -/
inductive Escape where
  /-- A character, which may have been written as a byte. -/
  | one (c : Char) (asByte : Bool)
  | set (s : CharSet)
  | place (a : Anchor)

def hexDigit? (c : Char) : Option Nat :=
  if c.isDigit then some (c.toNat - '0'.toNat)
  else if 'a' ≤ c && c ≤ 'f' then some (c.toNat - 'a'.toNat + 10)
  else if 'A' ≤ c && c ≤ 'F' then some (c.toNat - 'A'.toNat + 10)
  else none

def char? (n : Nat) : Option Char := if h : n.isValidChar then some (Char.ofNatAux n h) else none

/-- A number of a given count of hexadecimal digits. -/
def readHex (f : Flags) : Nat → Nat → List Char → Option (Nat × List Char)
  | 0, n, cs => some (n, cs)
  | count + 1, n, cs => match f.skip cs with
    | c :: rest => (hexDigit? c).bind fun d => readHex f count (16 * n + d) rest
    | [] => none

/-- What stands before a closing brace, and the text behind it. -/
def readBraced (f : Flags) : Nat → List Char → Option (List Char × List Char)
  | 0, _ => none
  | fuel + 1, cs => match f.skip cs with
    | [] => none
    | '}' :: rest => some ([], rest)
    | c :: rest => (readBraced f fuel rest).map fun (inside, rest) => (c :: inside, rest)

/-- A code point of a number of digits, or of any number in braces. -/
def readCodePoint (f : Flags) (width : Nat) (asByte : Bool) (cs : List Char) : Option (Escape × List Char) :=
  match f.skip cs with
  | '{' :: rest => do
    let (digits, rest) ← readBraced f (rest.length + 1) rest
    if digits.isEmpty then none
    else
      let n ← digits.foldlM (fun n c => (hexDigit? c).map (16 * n + ·)) 0
      return (.one (← char? n) false, rest)
  | cs => do
    let (n, rest) ← readHex f width 0 cs
    return (.one (← char? n) asByte, rest)

/-- A property by one letter or by what stands in braces. -/
def readProperty (f : Flags) (negated : Bool) (cs : List Char) : Option (Escape × List Char) :=
  if !f.unicode then none
  else match f.skip cs with
    | '{' :: rest => do
      let (inside, rest) ← readBraced f (rest.length + 1) rest
      return (.set (f.settle negated (← described? inside)), rest)
    | c :: rest =>
      if c == '\\' then none
      else (classNamed? (simplify [c])).map fun s => (.set (f.settle negated s), rest)
    | [] => none

def isEdgeLetter (c : Char) : Bool := c.isAlpha || c == '-'

/-- The letters of a name, between which blanks may stand. -/
def readEdgeName (f : Flags) : Nat → List Char → List Char × List Char
  | 0, cs => ([], cs)
  | fuel + 1, cs => match cs with
    | c :: rest =>
      if isEdgeLetter c then
        let (name, rest) := readEdgeName f fuel (f.skip rest)
        (c :: name, rest)
      else ([], cs)
    | [] => ([], [])

/-- The edge of a word by its name. -/
def edgeNamed? : String → Option WordEdge
  | "start" => some .start
  | "end" => some .stop
  | "start-half" => some .startHalf
  | "end-half" => some .stopHalf
  | _ => none

/-- The edge of a word behind the letter for it. A name in braces tells which edge is meant; braces around
anything else are left for a repetition. -/
def readEdge (f : Flags) (cs : List Char) : Option (WordEdge × List Char) :=
  match cs with
  | '{' :: rest =>
    let inside := f.skip rest
    match inside with
    | [] => none
    | c :: _ =>
      if !isEdgeLetter c then some (.either, cs)
      else
        let (name, rest) := readEdgeName f inside.length inside
        match rest with
        | '}' :: rest => (edgeNamed? (String.ofList name)).map (·, rest)
        | _ => none
  | _ => some (.either, cs)

/-- Read what stands behind a backslash. -/
def readEscape (f : Flags) : List Char → Option (Escape × List Char)
  | [] => none
  | 'a' :: rest => some (.one '\x07' false, rest)
  | 'f' :: rest => some (.one '\x0c' false, rest)
  | 't' :: rest => some (.one '\t' false, rest)
  | 'n' :: rest => some (.one '\n' false, rest)
  | 'r' :: rest => some (.one '\r' false, rest)
  | 'v' :: rest => some (.one '\x0b' false, rest)
  | 'A' :: rest => some (.place .textStart, rest)
  | 'z' :: rest => some (.place .textEnd, rest)
  | 'b' :: rest => (readEdge f rest).map fun (edge, rest) => (.place (.word edge f.alphabet), rest)
  | 'B' :: rest => some (.place (.word .neither f.alphabet), rest)
  | '<' :: rest => some (.place (.word .start f.alphabet), rest)
  | '>' :: rest => some (.place (.word .stop f.alphabet), rest)
  | 'p' :: rest => readProperty f false rest
  | 'P' :: rest => readProperty f true rest
  | 'x' :: rest => readCodePoint f 2 true rest
  | 'u' :: rest => readCodePoint f 4 false rest
  | 'U' :: rest => readCodePoint f 8 false rest
  | c :: rest => match letterClass? f c with
    | some s => some (.set s, rest)
    | none => if c.toNat < 0x80 && !c.isAlphanum then some (.one c false, rest) else none

/-! ## Classes in brackets -/

/-- The number that a character has as a member of a class. Where bytes count, it must be one. -/
def Flags.member? (f : Flags) (c : Char) (asByte : Bool) : Option Nat :=
  if f.unicode || c.toNat < 0x80 || (asByte && c.toNat ≤ 0xFF) then some c.toNat else none

/-- One character or escape in a class. -/
def readMember (f : Flags) : List Char → Option (Escape × List Char)
  | '\\' :: rest => do
    match ← readEscape f rest with
    | (.place _, _) => none
    | found => some found
  | c :: rest => some (.one c false, rest)
  | [] => none

def Escape.members? (f : Flags) : Escape → Option CharSet
  | one c asByte => (f.member? c asByte).map fun n => CharSet.range n n
  | set s => some s
  | place _ => none

/-- A character, a range of characters or an escape in a class. -/
def readRange (f : Flags) (cs : List Char) : Option (CharSet × List Char) := do
  let (first, rest) ← readMember f cs
  let rest := f.skip rest
  if rest.isEmpty then none
  else if rest.head? != some '-' || f.peek rest == some ']' || f.peek rest == some '-' then
    return (← first.members? f, rest)
  else
    match first, ← readMember f (f.skip (rest.drop 1)) with
    | .one lo loByte, (.one hi hiByte, rest) =>
      if hi < lo then none
      else return (CharSet.range (← f.member? lo loByte) (← f.member? hi hiByte), rest)
    | _, _ => none

/-- A class of the form `[:name:]`, from behind the bracket on. -/
def readNamedClass (f : Flags) : List Char → Option (CharSet × List Char)
  | ':' :: rest =>
    let (negated, rest) := match rest with
      | '^' :: rest => (true, rest)
      | rest => (false, rest)
    match rest.dropWhile (· != ':') with
    | ':' :: ']' :: behind =>
      (asciiClass? (String.ofList (rest.takeWhile (· != ':')))).map fun s => (f.settle negated s, behind)
    | _ => none
  | _ => none

/-- How the members behind an operator change those before it. -/
inductive SetOperator where
  | intersection
  | difference
  | symmetric

def SetOperator.apply (a b : CharSet) : SetOperator → CharSet
  | intersection => a.inter b
  | difference => a.diff b
  | symmetric => (a.diff b).union (b.diff a)

/-- A set with the number of brackets and operators that are nested in its notation. -/
structure Nested where
  set : CharSet
  depth : Nat

/-- The members of a class that stand side by side. -/
structure Members where
  set : CharSet := .empty
  count : Nat := 0
  /-- The depth of the deepest of them. -/
  depth : Nat := 0

def Members.add (m : Members) (s : CharSet) (depth : Nat) : Members :=
  ⟨m.set.union s, m.count + 1, max m.depth depth⟩

def Members.nested (m : Members) : Nested := ⟨m.set, if m.count ≤ 1 then m.depth else m.depth + 1⟩

/-- Apply an operator that has been waiting for its right side. -/
def settleOperator (f : Flags) (waiting : Option (Nested × SetOperator)) (right : Nested) : Nested :=
  match waiting with
  | none => right
  | some (left, o) => ⟨o.apply (f.fold left.set) (f.fold right.set), max left.depth right.depth + 1⟩

mutual

/-- A class, from behind its opening bracket on. Hyphens, or a closing bracket, stand for themselves at the
beginning. -/
def readClass : Nat → Flags → List Char → Option (Nested × List Char)
  | 0, _, _ => none
  | fuel + 1, f, cs => do
    let (negated, cs) := match f.skip cs with
      | '^' :: cs => (true, f.skip cs)
      | cs => (false, cs)
    let (first, cs) := readHyphens f cs.length {} cs
    let (first, cs) := match first.count, cs with
      | 0, ']' :: cs => (first.add (.single ']') 0, f.skip cs)
      | _, cs => (first, cs)
    if cs.isEmpty then none
    else
      let (found, rest) ← readMembers fuel f none first cs
      return (⟨f.settle negated found.set, found.depth + 1⟩, rest)

/-- The hyphens at the beginning of a class. -/
def readHyphens (f : Flags) : Nat → Members → List Char → Members × List Char
  | fuel + 1, m, '-' :: cs => readHyphens f fuel (m.add (.single '-') 0) (f.skip cs)
  | _, m, cs => (m, cs)

/-- The members of a class up to its closing bracket; an operator may be waiting for them. -/
def readMembers : Nat → Flags → Option (Nested × SetOperator) → Members → List Char → Option (Nested × List Char)
  | 0, _, _, _, _ => none
  | fuel + 1, f, waiting, m, cs =>
    let cs := f.skip cs
    let settled := settleOperator f waiting m.nested
    match cs with
    | [] => none
    | ']' :: rest => some (settled, rest)
    | '&' :: '&' :: rest => readMembers fuel f (some (settled, .intersection)) {} rest
    | '-' :: '-' :: rest => readMembers fuel f (some (settled, .difference)) {} rest
    | '~' :: '~' :: rest => readMembers fuel f (some (settled, .symmetric)) {} rest
    | '[' :: rest =>
      match readNamedClass f rest with
      | some (s, rest) => readMembers fuel f waiting (m.add s 0) rest
      | none => do
        let (inner, rest) ← readClass fuel f rest
        readMembers fuel f waiting (m.add inner.set inner.depth) rest
    | _ => do
      let (s, rest) ← readRange f cs
      readMembers fuel f waiting (m.add s 0) rest

end

/-! ## Repetitions -/

/-- An expression as it has been read: with the depth to which groups, repetitions, alternatives and rows
of expressions are nested in its notation. Flags cannot be repeated. -/
structure Piece where
  regex : Regex
  depth : Nat := 0
  repeatable : Bool := true

/-- Repeat an expression. -/
def Piece.many (p : Piece) (least : Nat) (most : Option Nat) : Piece :=
  ⟨.many p.regex least most, p.depth + 1, true⟩

/-- The largest number of repetitions that can be asked for. -/
def countLimit : Nat := 0xFFFFFFFF

/-- The digits of a number, between which nothing counts that does not count elsewhere. -/
def readDigits (f : Flags) : Nat → List Char → List Char × List Char
  | 0, cs => ([], cs)
  | fuel + 1, cs => match cs with
    | c :: rest =>
      if c.isDigit then
        let (digits, rest) := readDigits f fuel (f.skip rest)
        (c :: digits, rest)
      else ([], cs)
    | [] => ([], [])

/-- A number with blanks around it; none if there are no digits. -/
def readNumber (f : Flags) (cs : List Char) : Option Nat × List Char :=
  let (digits, rest) := readDigits f cs.length (cs.dropWhile isBlank)
  let rest := if f.verbose then dropVerbose rest.length rest else rest.dropWhile isBlank
  if digits.isEmpty then (none, rest)
  else (some (digits.foldl (fun n c => 10 * n + (c.toNat - '0'.toNat)) 0), rest)

/-- A count behind an opening brace: the least number and, unless it is open, the largest. -/
def readCount (f : Flags) (cs : List Char) : Option ((Nat × Option Nat) × List Char) := do
  let (low, rest) := readNumber f (f.skip cs)
  match rest with
  | '}' :: rest => return ((← low, low), rest)
  | ',' :: rest => match f.skip rest with
    | '}' :: rest => return ((← low, none), rest)
    | rest =>
      let (high, rest) := readNumber f rest
      match rest with
      | '}' :: rest => return ((← low, some (← high)), rest)
      | _ => none
  | _ => none

/-- A mark behind a repetition says how greedy it is. -/
def dropGreed : List Char → List Char
  | '?' :: rest => rest
  | cs => cs

/-- The repetition that a text begins with, if it begins with one. -/
def readRepetition (f : Flags) : List Char → Option ((Nat × Option Nat) × List Char)
  | '*' :: rest => some ((0, none), dropGreed rest)
  | '+' :: rest => some ((1, none), dropGreed rest)
  | '?' :: rest => some ((0, some 1), dropGreed rest)
  | '{' :: rest => do
    let ((least, most), rest) ← readCount f rest
    if countLimit < least || most.any (countLimit < ·) || most.any (· < least) then none
    else return ((least, most), dropGreed (f.skip rest))
  | _ => none

/-! ## Groups -/

/-- What has been settled up to a place: the flags that hold, and the names of groups. -/
structure Context where
  flags : Flags := {}
  names : List (List Char) := []

/-- Flags up to the character that ends them, and whether there are any. Every flag may be given once. -/
def readFlags (f : Flags) (on : Bool) (seen : List Flag) (dangling : Bool) : List Char →
    Option (Flags × Bool × List Char)
  | [] => none
  | ')' :: rest => if dangling then none else some (f, !seen.isEmpty, ')' :: rest)
  | ':' :: rest => if dangling then none else some (f, !seen.isEmpty, ':' :: rest)
  | '-' :: rest => if on then readFlags f false seen true rest else none
  | c :: rest => (flag? c).bind fun flag =>
    if seen.contains flag then none else readFlags (f.set on flag) on (flag :: seen) false rest

/-- Whether a character may stand in the name of a group. -/
def isNameChar (c : Char) : Bool := c == '_' || c == '.' || c == '[' || c == ']' || isAlphanumeric c

/-- The name of a group, from behind the opening angle bracket on. -/
def readName (cs : List Char) : Option (List Char × List Char) :=
  let name := cs.takeWhile (· != '>')
  let valid := match name with
    | [] => false
    | c :: rest => (c == '_' || isAlphabetic c) && rest.all isNameChar
  if valid then match cs.dropWhile (· != '>') with
    | _ :: rest => some (name, rest)
    | [] => none
  else none

/-- How a group begins. -/
inductive Opening where
  /-- Flags for what follows. -/
  | flags (f : Flags)
  /-- A group in which flags hold; it may have a name. -/
  | group (f : Flags) (name : Option (List Char))

/-- Read what stands between an opening parenthesis and the group itself. -/
def readOpening (f : Flags) (cs : List Char) : Option (Opening × List Char) :=
  match f.skip cs with
  | '?' :: '=' :: _ | '?' :: '!' :: _ | '?' :: '<' :: '=' :: _ | '?' :: '<' :: '!' :: _ => none
  | '?' :: 'P' :: '<' :: rest | '?' :: '<' :: rest =>
    (readName rest).map fun (name, rest) => (.group f (some name), rest)
  | '?' :: rest => do
    match ← readFlags f true [] false rest with
    | (inner, _, ':' :: rest) => some (.group inner none, rest)
    | (inner, some_, _ :: rest) => if some_ then some (.flags inner, rest) else none
    | _ => none
  | cs => some (.group f none, cs)

/-- Pieces in a row. -/
def rowOf (parts : List Piece) : Piece :=
  match parts with
  | [] => { regex := .nothing }
  | [p] => p
  | first :: rest =>
    ⟨rest.foldl (fun r p => .seq r p.regex) first.regex, (parts.foldl (fun d p => max d p.depth) 0) + 1, true⟩

mutual

/-- Alternatives up to the end of the group or of the text. -/
def readAlternatives : Nat → Context → List Char → Option (Piece × Context × List Char)
  | 0, _, _ => none
  | fuel + 1, c, cs => do
    let (first, c, rest) ← readRow fuel c [] cs
    match rest with
    | '|' :: rest =>
      let (others, depth, c, rest) ← readOthers fuel c rest
      return (⟨.alt first.regex others, max first.depth depth + 1, true⟩, c, rest)
    | _ => return (first, c, rest)

/-- The alternatives behind a bar, and the depth of the deepest. -/
def readOthers : Nat → Context → List Char → Option (Regex × Nat × Context × List Char)
  | 0, _, _ => none
  | fuel + 1, c, cs => do
    let (next, c, rest) ← readRow fuel c [] cs
    match rest with
    | '|' :: rest =>
      let (others, depth, c, rest) ← readOthers fuel c rest
      return (.alt next.regex others, max next.depth depth, c, rest)
    | _ => return (next.regex, next.depth, c, rest)

/-- What follows one another up to the end of the alternative; `parts` are the pieces so far, the last
first. -/
def readRow : Nat → Context → List Piece → List Char → Option (Piece × Context × List Char)
  | 0, _, _, _ => none
  | fuel + 1, c, parts, cs =>
    let f := c.flags
    let add (r : Regex) (depth : Nat) (rest : List Char) : Option (Piece × Context × List Char) :=
      readRow fuel c (⟨r, depth, true⟩ :: parts) rest
    match f.skip cs with
    | [] => some (rowOf parts.reverse, c, [])
    | ')' :: rest => some (rowOf parts.reverse, c, ')' :: rest)
    | '|' :: rest => some (rowOf parts.reverse, c, '|' :: rest)
    | '(' :: rest => do
      match ← readOpening f rest with
      | (.flags inner, rest) => readRow fuel { c with flags := inner } (⟨.nothing, 0, false⟩ :: parts) rest
      | (.group inner name, rest) =>
        if name.any c.names.contains then none
        else
          let (body, inside, rest) ← readAlternatives fuel ⟨inner, name.toList ++ c.names⟩ rest
          match rest with
          | ')' :: rest => readRow fuel { inside with flags := f } (⟨body.regex, body.depth + 1, true⟩ :: parts) rest
          | _ => none
    | '[' :: rest => do
      let (found, rest) ← readClass fuel f rest
      add (f.oneOf found.set) found.depth rest
    | '.' :: rest =>
      let breaks := if f.dotAll then CharSet.empty
        else if f.returns then CharSet.ofString "\n\r" else CharSet.single '\n'
      add (f.oneOf (f.compl breaks)) 0 rest
    | '^' :: rest =>
      add (.place (if !f.multiline then .textStart else if f.returns then .returnStart else .lineStart)) 0 rest
    | '$' :: rest =>
      add (.place (if !f.multiline then .textEnd else if f.returns then .returnEnd else .lineEnd)) 0 rest
    | '\\' :: rest => do
      match ← readEscape f rest with
      | (.one ch asByte, rest) =>
        if !f.unicode && asByte && 0x80 ≤ ch.toNat then add (.octet (.single ch)) 0 rest
        else add (.char (foldOne f ch)) 0 rest
      | (.set s, rest) => add (f.oneOf s) 0 rest
      | (.place a, rest) => add (.place a) 0 rest
    | ch :: rest =>
      if ch == '*' || ch == '+' || ch == '?' || ch == '{' then
        match parts with
        | [] => none
        | last :: before => do
          if !last.repeatable then none
          else
            let ((least, most), rest) ← readRepetition f (ch :: rest)
            readRow fuel c (last.many least most :: before) rest
      else add (.char (foldOne f ch)) 0 rest

/-- A character, with the others that differ from it only in case if that does not count. -/
def foldOne (f : Flags) (c : Char) : CharSet :=
  if f.unicode || c.toNat < 0x80 then f.fold (.single c) else .single c

end

/-- How deep an expression may be nested. -/
def depthLimit : Nat := 250

/-- Read an expression. -/
def read (source : String) : Option Regex :=
  let cs := source.toList
  match readAlternatives (2 * cs.length + 2) {} cs with
  | some (p, _, []) => if p.depth ≤ depthLimit && p.regex.memory ≤ memoryLimit then some p.regex else none
  | _ => none

end Graft.Text.Regex
