import Graft.Text.Word

set_option autoImplicit false

/-!
# Regular expressions

Expressions that match characters, bytes and places of a text. The only question asked of an expression
is whether it occurs in a text, so greed does not matter, and a search follows all ways at once: it keeps
the places that can be reached, in falling order.
-/

namespace Graft.Text

/-! ## Texts to search -/

/-- A text as its bytes, and the characters that begin and end between them. -/
structure Haystack where
  bytes : Array UInt8
  /-- For every byte, the character that begins with it, and its size. -/
  starting : Array (Option (Nat × Nat))
  /-- For every place between bytes, the character that ends there. -/
  ending : Array (Option Nat)

namespace Haystack

def empty : Haystack := ⟨#[], #[], #[none]⟩

/-- Put a character at the end. -/
def push : Haystack → Char → Haystack
  | ⟨bytes, starting, ending⟩, c =>
    let inside : Array (Option Nat) := Array.replicate (c.utf8Size - 1) none
    ⟨bytes ++ (String.utf8EncodeChar c).toArray,
      starting.push (some (c.toNat, c.utf8Size)) ++ inside.map fun _ => none,
      (ending ++ inside).push (some c.toNat)⟩

def ofString (text : String) : Haystack := text.toList.foldl push empty

def size (h : Haystack) : Nat := h.bytes.size

/-- The character that begins at a place. -/
def next? (h : Haystack) (i : Nat) : Option (Nat × Nat) := h.starting.getD i none

/-- The character that ends at a place. -/
def previous? (h : Haystack) (i : Nat) : Option Nat := h.ending.getD i none

def byteBefore? (h : Haystack) (i : Nat) : Option UInt8 := if i == 0 then none else h.bytes[i - 1]?

def byteAfter? (h : Haystack) (i : Nat) : Option UInt8 := h.bytes[i]?

/-- Whether a place is inside a character. -/
def splits (h : Haystack) (i : Nat) : Bool := i < h.size && (h.next? i).isNone

end Haystack

/-! ## Places -/

/-- Which characters words are made of. -/
inductive Alphabet where
  | unicode
  | ascii
  deriving BEq, DecidableEq, Inhabited, Repr

/-- How a place lies to the words of a text. -/
inductive WordEdge where
  /-- A word begins or ends. -/
  | either
  | neither
  | start
  | stop
  /-- There is no word before. -/
  | startHalf
  /-- There is no word behind. -/
  | stopHalf
  deriving BEq, DecidableEq, Inhabited, Repr

/-- A condition on a place. -/
inductive Anchor where
  | textStart
  | textEnd
  | lineStart
  | lineEnd
  /-- As for lines that a carriage return ends as well. -/
  | returnStart
  | returnEnd
  | word (edge : WordEdge) (alphabet : Alphabet)
  deriving BEq, DecidableEq, Inhabited, Repr

namespace Anchor

def lineFeed : UInt8 := 10

def carriageReturn : UInt8 := 13

/-- Whether a word reaches a place from before it, and from behind it. -/
def wordsAround (h : Haystack) (i : Nat) : Alphabet → Bool × Bool
  | .unicode =>
    ((h.previous? i).any wordChars.contains, (h.next? i).any fun (c, _) => wordChars.contains c)
  | .ascii =>
    ((h.byteBefore? i).any fun b => asciiWordChars.contains b.toNat,
      (h.byteAfter? i).any fun b => asciiWordChars.contains b.toNat)

/-- Whether the condition holds at a place. Inside a character there are no words, and nothing can be said
about what is not a word. -/
def holds (h : Haystack) (i : Nat) : Anchor → Bool
  | textStart => i == 0
  | textEnd => i == h.size
  | lineStart => i == 0 || h.byteBefore? i == some lineFeed
  | lineEnd => i == h.size || h.byteAfter? i == some lineFeed
  | returnStart => i == 0 || h.byteBefore? i == some lineFeed ||
      (h.byteBefore? i == some carriageReturn && h.byteAfter? i != some lineFeed)
  | returnEnd => i == h.size || h.byteAfter? i == some carriageReturn ||
      (h.byteAfter? i == some lineFeed && h.byteBefore? i != some carriageReturn)
  | word edge alphabet =>
    let (before, behind) := wordsAround h i alphabet
    let known := alphabet == .ascii || !h.splits i
    match edge with
    | .either => before != behind
    | .neither => known && before == behind
    | .start => !before && behind
    | .stop => before && !behind
    | .startHalf => known && !before
    | .stopHalf => known && !behind

end Anchor

/-! ## Expressions -/

inductive Regex where
  | nothing
  /-- One character. -/
  | char (set : CharSet)
  /-- One byte, which need not be a character. -/
  | octet (set : CharSet)
  | place (condition : Anchor)
  | seq (first second : Regex)
  | alt (left right : Regex)
  /-- Repetitions of an expression: at least so many and, unless there is no limit, at most so many. -/
  | many (body : Regex) (least : Nat) (most : Option Nat)
  deriving Inhabited

namespace Regex

/-- Members of either of two lists in falling order. -/
def merge : List Nat → List Nat → List Nat
  | [], t => t
  | s, [] => s
  | a :: s, b :: t =>
    if a == b then a :: merge s t else if b < a then a :: merge s (b :: t) else b :: merge (a :: s) t
termination_by s t => s.length + t.length

/-- Members of the first of two lists in falling order that are not in the second. -/
def without : List Nat → List Nat → List Nat
  | [], _ => []
  | s, [] => s
  | a :: s, b :: t =>
    if a == b then without s t else if b < a then a :: without s (b :: t) else without (a :: s) t
termination_by s t => s.length + t.length

/-- A number of steps from some places. -/
def stepTimes (step : List Nat → List Nat) : Nat → List Nat → List Nat
  | 0, places => places
  | n + 1, places => if places.isEmpty then [] else stepTimes step n (step places)

/-- The places found so far and those that up to a number of steps lead to; only `fresh` places are left to
step from. -/
def reach (step : List Nat → List Nat) : Nat → List Nat → List Nat → List Nat
  | 0, found, _ => found
  | n + 1, found, fresh =>
    let next := without (step fresh) found
    if next.isEmpty then found else reach step n (merge found next) next

/-- The places where a match that begins at one of some places can end. More repetitions than there are
places make no difference: one that reads nothing can be made as often as one likes. -/
def after (h : Haystack) : Regex → List Nat → List Nat
  | nothing, places => places
  | char set, places => places.filterMap fun i => match h.next? i with
    | some (c, size) => if set.contains c then some (i + size) else none
    | none => none
  | octet set, places => places.filterMap fun i => match h.byteAfter? i with
    | some b => if set.contains b.toNat then some (i + 1) else none
    | none => none
  | place a, places => places.filter (a.holds h)
  | seq a b, places => after h b (after h a places)
  | alt a b, places => merge (after h a places) (after h b places)
  | many body least most, places =>
    let limit := h.size + 1
    let first := stepTimes (after h body) (min least limit) places
    let more := match most with
      | some n => min (n - least) limit
      | none => limit
    reach (after h body) more first first

/-- Whether an expression occurs in a text. -/
def occursIn (r : Regex) (text : String) : Bool :=
  let h := Haystack.ofString text
  !(r.after h (List.range (h.size + 1)).reverse).isEmpty

end Regex

end Graft.Text
