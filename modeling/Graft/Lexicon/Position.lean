import Graft.Automaton.TokenSet
import Graft.Grammar.Vocabulary

set_option autoImplicit false

/-!
# Positions in token patterns

Reading a token is a walk over the places of its pattern where a character is read. A set of such
positions describes how far several tokens have come at once. Characters that no pattern tells
apart form one class, and positions name the classes they read.
-/

namespace Graft.Lexicon

open Graft.Grammar

/-- A place in a token's pattern where a character is read. -/
structure Position where
  token : Nat
  chars : CharSet
  /-- The blanks in front of the token, which are not part of it. -/
  separates : Bool
  precedence : Int
  deriving Inhabited

/-- Positions of all tokens so far, with the positions that can come next after each and whether
the token may end there. -/
structure Positions where
  positions : Array Position := #[]
  follow : Array (List Nat) := #[]
  ends : Array Bool := #[]
  deriving Inhabited

/-- Where a pattern can start and end, and whether it matches the empty text. -/
structure Shape where
  nullable : Bool
  first : List Nat
  last : List Nat

namespace Positions

/-- Let `targets` come after each of `sources`. -/
def link (p : Positions) (sources targets : List Nat) : Positions :=
  { p with follow := sources.foldl (fun follow i =>
      follow.modify i fun old => targets.foldl (fun acc t => if acc.contains t then acc else acc ++ [t]) old) p.follow }

def push (p : Positions) (position : Position) : Nat × Positions :=
  (p.positions.size,
    { positions := p.positions.push position, follow := p.follow.push [], ends := p.ends.push false })

end Positions

mutual

/-- Lay out a pattern. -/
def layOut (token : Nat) (precedence : Int) : Pattern → StateM Positions Shape
  | .chars chars => do
    let (n, p) := (← get).push { token, chars, separates := false, precedence }
    set p
    return ⟨false, [n], [n]⟩
  | .seq parts => layOutSeq token precedence parts
  | .alt options => layOutAlt token precedence options
  | .plus body => do
    let shape ← layOut token precedence body
    modify fun p => p.link shape.last shape.first
    return shape

def layOutSeq (token : Nat) (precedence : Int) : List Pattern → StateM Positions Shape
  | [] => return ⟨true, [], []⟩
  | part :: rest => do
    let a ← layOut token precedence part
    let b ← layOutSeq token precedence rest
    modify fun p => p.link a.last b.first
    return ⟨a.nullable && b.nullable,
      if a.nullable then a.first ++ b.first else a.first,
      if b.nullable then a.last ++ b.last else b.last⟩

def layOutAlt (token : Nat) (precedence : Int) : List Pattern → StateM Positions Shape
  | [] => return ⟨false, [], []⟩
  | option :: rest => do
    let a ← layOut token precedence option
    let b ← layOutAlt token precedence rest
    return ⟨a.nullable || b.nullable, a.first ++ b.first, a.last ++ b.last⟩

end

mutual

/-- The characters that a text matched by a pattern can start with, and whether the text can be
empty. -/
def initial : Pattern → CharSet × Bool
  | .chars chars => (chars, false)
  | .seq parts => initialSeq parts
  | .alt options => initialAlt options
  | .plus body => initial body

def initialSeq : List Pattern → CharSet × Bool
  | [] => (.empty, true)
  | part :: rest =>
    let (a, empty) := initial part
    if empty then
      let (b, alsoEmpty) := initialSeq rest
      (a.union b, alsoEmpty)
    else (a, false)

def initialAlt : List Pattern → CharSet × Bool
  | [] => (.empty, false)
  | option :: rest =>
    let (a, empty) := initial option
    let (b, alsoEmpty) := initialAlt rest
    (a.union b, empty || alsoEmpty)

end

/-! ## Tokens -/

/-- What the scanner needs to know about a token. -/
structure TokenShape where
  /-- The positions that can read the first character. -/
  start : List Nat
  /-- The precedence of the token once it is complete. -/
  precedence : Int
  /-- Fixed spellings win over patterns, and tokens that allow no blank win over others. -/
  specific : Nat
  deriving Inhabited

/-- The pattern of a token's spelling, its stated precedence, and whether blanks may precede it. -/
def spellingOf : NamedRule → Pattern × Int × Bool × Nat
  | .literal text => (.text text, 0, false, 2)
  | .pattern p => (p, 0, false, 0)
  | .tagged a body =>
    let (p, _, _, specific) := spellingOf body
    let precedence := match a.precedence with
      | .level n => n
      | _ => 0
    (p, precedence, a.isImmediate, if a.isImmediate then specific + 1 else specific)
  | _ => (.nothing, 0, false, 0)

/-- The positions and shapes of all tokens. -/
structure Layout where
  positions : Positions
  tokens : Array TokenShape
  deriving Inhabited

def Layout.ofTokens (tokens : Array Token) (separators : List Pattern) : Layout :=
  let step (acc : Layout) (token : Token) : Layout :=
    let (pattern, precedence, immediate, specific) := spellingOf token.body
    let (shape, p) := (layOut acc.tokens.size precedence pattern).run acc.positions
    let p := { p with ends := shape.last.foldl (fun ends i => ends.setIfInBounds i true) p.ends }
    let (start, p) :=
      if immediate then (shape.first, p) else
        let blank := CharSet.unionAll (separators.filterMap fun
          | .chars set => some set
          | _ => none)
        let (n, p) := p.push
          { token := acc.tokens.size, chars := blank, separates := true, precedence := 0 }
        (n :: shape.first, p.link [n] (n :: shape.first))
    { positions := p, tokens := acc.tokens.push { start, precedence, specific } }
  tokens.foldl step default

/-! ## Character classes -/

/-- A partition of the code points: the ranges in order, each with the number of its class. -/
structure CharClasses where
  count : Nat
  starts : Array (Nat × Nat)
  /-- The classes of the first code points, for speed. -/
  ascii : Array Nat
  deriving Inhabited

namespace CharClasses

/-- The class of the last range that starts at or before `n`, among those from `lo` up to `hi`. -/
def search (starts : Array (Nat × Nat)) (n : Nat) : Nat → Nat → Nat → Nat
  | 0, lo, _ => (starts.getD lo (0, 0)).2
  | fuel + 1, lo, hi =>
    if hi ≤ lo + 1 then (starts.getD lo (0, 0)).2
    else
      let mid := (lo + hi) / 2
      if (starts.getD mid (0, 0)).1 ≤ n then search starts n fuel mid hi else search starts n fuel lo mid

/-- The class of a code point. -/
def classOf (c : CharClasses) (n : Nat) : Nat :=
  match c.ascii[n]? with
  | some k => k
  | none => search c.starts n c.starts.size 0 c.starts.size

/-- The coarsest partition that no given set cuts through and in which the null character is on its own. -/
def ofSets (given : List CharSet) : CharClasses :=
  let sets := CharSet.single '\x00' :: given
  let cuts := (0 :: sets.flatMap fun s => s.ranges.flatMap fun (a, b) => [a, b + 1]).mergeSort.eraseDups
  let cuts := cuts.filter (· ≤ CharSet.last)
  let signature (n : Nat) : List Bool := sets.map (·.contains n)
  let (starts, signatures) := cuts.foldl (fun (starts, known) cut =>
    let sig := signature cut
    match known.findIdx? (· == sig) with
    | some k => (starts.push (cut, k), known)
    | none => (starts.push (cut, known.size), known.push sig)) ((#[] : Array (Nat × Nat)), (#[] : Array (List Bool)))
  let slow : CharClasses := { count := signatures.size, starts, ascii := #[] }
  { slow with ascii := ((List.range 128).map slow.classOf).toArray }

/-- The classes that make up a set which no class cuts through. -/
def classesOf (c : CharClasses) (s : CharSet) : TokenSet :=
  c.starts.foldl (fun acc (start, k) => if s.contains start then acc.insert k else acc) .empty

end CharClasses

/-! ## Reading by class -/

/-- The token patterns with their characters replaced by classes. -/
structure Patterns where
  classes : CharClasses
  tokens : Array TokenShape
  token : Array Nat
  /-- The classes that a position reads. -/
  reads : Array TokenSet
  separates : Array Bool
  precedence : Array Int
  follow : Array (List Nat)
  ends : Array Bool
  deriving Inhabited

def Patterns.ofTokens (tokens : Array Token) (separators : List Pattern) : Patterns :=
  let layout := Layout.ofTokens tokens separators
  let positions := layout.positions.positions
  let sets := (positions.toList.map (·.chars)).foldl (fun acc s => if acc.contains s then acc else s :: acc) []
  let classes := CharClasses.ofSets sets
  let table := sets.map fun s => (s, classes.classesOf s)
  { classes
    tokens := layout.tokens
    token := positions.map (·.token)
    reads := positions.map fun p => (table.lookup p.chars).getD .empty
    separates := positions.map (·.separates)
    precedence := positions.map (·.precedence)
    follow := layout.positions.follow
    ends := layout.positions.ends }

/-- How far the tokens have come: the positions that can read the next character, in order, and
the tokens that are complete. -/
structure Front where
  waiting : List Nat
  complete : List Nat
  deriving BEq, Hashable, Inhabited

/-- Reading one character: where it leads, whether it is only a blank in front of a token, and how
strongly the tokens that read it ask for it. -/
structure Advance where
  goal : Front
  separates : Bool
  precedence : Int
  /-- The tokens that read it. -/
  tokens : List Nat
  deriving BEq, Inhabited

/-- Put a number into an ordered list of different numbers. -/
def insertSorted (n : Nat) : List Nat → List Nat
  | [] => [n]
  | m :: rest => if n < m then n :: m :: rest else if n == m then m :: rest else m :: insertSorted n rest

def sortedUnion (xs ys : List Nat) : List Nat := ys.foldl (fun acc n => insertSorted n acc) xs

namespace Patterns

/-- Where the given tokens stand before the first character. -/
def front (p : Patterns) (tokens : List Nat) : Front :=
  { waiting := tokens.foldl (fun acc t => sortedUnion acc (p.tokens.getD t default).start) []
    complete := [] }

/-- The classes that some position of a front can read. -/
def readable (p : Patterns) (f : Front) : TokenSet :=
  f.waiting.foldl (fun acc i => acc ∪ p.reads.getD i .empty) .empty

/-- Read a character of class `k`. -/
def advance (p : Patterns) (f : Front) (k : Nat) : Option Advance :=
  match f.waiting.filter fun i => (p.reads.getD i .empty).contains k with
  | [] => none
  | readers => some
    { goal :=
        { waiting := readers.foldl (fun acc i => sortedUnion acc (p.follow.getD i [])) []
          complete := readers.foldl (fun acc i =>
            if p.ends.getD i false then insertSorted (p.token.getD i 0) acc else acc) [] }
      separates := readers.all fun i => p.separates.getD i false
      precedence := readers.foldl (fun acc i => max acc (p.precedence.getD i 0))
        (p.precedence.getD (readers.headD 0) 0)
      tokens := readers.foldl (fun acc i => insertSorted (p.token.getD i 0) acc) [] }

/-- Whether blanks in front of a token can still be read. -/
def atSeparator (p : Patterns) (f : Front) : Bool := f.waiting.any fun i => p.separates.getD i false

/-- Whether token `a` is preferred to token `b` when both match the same text. -/
def prefers (p : Patterns) (a b : Nat) : Bool :=
  let x := p.tokens.getD a default
  let y := p.tokens.getD b default
  if x.precedence != y.precedence then y.precedence < x.precedence
  else if x.specific != y.specific then y.specific < x.specific
  else a < b

/-- The token that a front has completed, the preferred one of several. -/
def completed (p : Patterns) (f : Front) : Option Nat :=
  f.complete.foldl (fun best t =>
    match best with
    | some b => if p.prefers b t then best else some t
    | none => some t) none

/-- Whether reading on is preferred to ending with the token `done`. -/
def goesOn (p : Patterns) (a : Advance) (done : Nat) (atSeparator : Bool) : Bool :=
  let precedence := (p.tokens.getD done default).precedence
  if a.precedence < precedence then false
  else if a.precedence == precedence then
    !a.separates && (!atSeparator || a.tokens.contains done)
  else true

end Patterns

end Graft.Lexicon
