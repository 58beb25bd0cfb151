import Graft.Text.Regex

set_option autoImplicit false

/-!
# The size of an expression

Repetitions make small expressions large. An expression is refused if the machine that would look for it
byte by byte takes more memory than a limit allows.
-/

namespace Graft.Text.Regex

/-! ## Sequences of bytes -/

/-- The bytes of a code point. -/
def bytesOf (n : Nat) : List Nat :=
  if n < 0x80 then [n]
  else if n < 0x800 then [0xC0 + n / 0x40, 0x80 + n % 0x40]
  else if n < 0x10000 then [0xE0 + n / 0x1000, 0x80 + n / 0x40 % 0x40, 0x80 + n % 0x40]
  else [0xF0 + n / 0x40000, 0x80 + n / 0x1000 % 0x40, 0x80 + n / 0x40 % 0x40, 0x80 + n % 0x40]

/-- Where a range of code points has to be cut so that on either side the bytes vary independently. -/
def cut? (lo hi : Nat) : Option Nat :=
  ([0x7F, 0x7FF, 0xD7FF, 0xDFFF, 0xFFFF].find? fun last => lo ≤ last && last < hi).or <|
    if hi < 0x80 then none
    else [0x40, 0x1000, 0x40000].findSome? fun size =>
      if lo / size == hi / size then none
      else if lo % size != 0 then some (lo / size * size + size - 1)
      else if hi % size != size - 1 then some (hi / size * size - 1)
      else none

/-- The sequences of byte ranges that stand for a range of code points. -/
def sequences : Nat → Nat → Nat → List (List (Nat × Nat))
  | 0, _, _ => []
  | fuel + 1, lo, hi => match cut? lo hi with
    | some middle => sequences fuel lo middle ++ sequences fuel (middle + 1) hi
    | none => if 0xD800 ≤ lo && hi ≤ 0xDFFF then [] else [(bytesOf lo).zip (bytesOf hi)]

/-- How many ranges the second of two sequences has behind those that it shares with the first. -/
def newRanges : List (Nat × Nat) → List (Nat × Nat) → Nat
  | a :: s, b :: t => if a == b then newRanges s t else (b :: t).length
  | _, t => t.length

/-! ## Memory -/

def stateSize : Nat := 32

def transitionSize : Nat := 8

def linkSize : Nat := 4

/-- The memory for one character of a set. -/
def setSize (s : CharSet) : Nat :=
  match s.ranges with
  | [(a, b)] => if a == b then (bytesOf a).length * stateSize else general
  | _ => general
where
  general : Nat :=
    if s.ranges.all fun r => r.2 < 0x80 then 2 * stateSize + s.ranges.length * transitionSize
    else
      let all := s.ranges.flatMap fun r => sequences 64 r.1 r.2
      let states := (([] :: all).zip all).foldl (fun n (before, here) => n + newRanges before here) 0
      (states + 2) * stateSize + all.length * linkSize

/-- Whether an expression can only match nothing. -/
def isVoid : Regex → Bool
  | nothing | place _ => true
  | char _ | octet _ => false
  | seq a b | alt a b => a.isVoid && b.isVoid
  | many body _ most => body.isVoid || most == some 0

/-- The memory that an expression takes. -/
def memory : Regex → Nat
  | nothing | place _ => stateSize
  | char s => setSize s
  | octet s => 2 * stateSize + s.ranges.length * transitionSize
  | seq a b => a.memory + b.memory
  | alt a b => a.memory + b.memory + 2 * (stateSize + linkSize)
  | many body least most =>
    let least := if body.isVoid then min least 1 else least
    let most := if body.isVoid then some (min (most.getD 1) 1) else most
    let fork := stateSize + 2 * linkSize
    match most with
    | none => max least 1 * body.memory + 2 * fork
    | some n => if n == least then least * body.memory
      else least * body.memory + stateSize + (n - least) * (body.memory + fork)

/-- The memory that an expression may take. -/
def memoryLimit : Nat := 0xA00000

end Graft.Text.Regex
