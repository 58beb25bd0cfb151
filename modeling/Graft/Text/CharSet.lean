set_option autoImplicit false

/-!
# Sets of characters

A set of code points is a list of closed ranges, in increasing order and with a gap between
neighbours, so that two equal sets are equal lists. Token patterns are written with these sets.
-/

namespace Graft

/-- A set of code points, as closed ranges in increasing order. -/
structure CharSet where
  ranges : List (Nat × Nat)
  deriving BEq, Repr, Inhabited, Hashable

namespace CharSet

/-- The largest code point. -/
def last : Nat := 0x10FFFF

/-- The set without members. -/
def empty : CharSet := ⟨[]⟩

/-- The set of every code point. -/
def all : CharSet := ⟨[(0, last)]⟩

/-- The code points from `lo` to `hi`, both included. -/
def range (lo hi : Nat) : CharSet := if lo ≤ hi then ⟨[(lo, hi)]⟩ else empty

/-- The set of one character. -/
def single (c : Char) : CharSet := range c.toNat c.toNat

/-- The characters from `lo` to `hi`, both included. -/
def between (lo hi : Char) : CharSet := range lo.toNat hi.toNat

/-- Whether some range of an ordered list has a code point. -/
def among (n : Nat) : List (Nat × Nat) → Bool
  | [] => false
  | (a, b) :: rest => if n < a then false else n ≤ b || among n rest

/-- Whether a code point is a member. -/
def contains (s : CharSet) (n : Nat) : Bool := among n s.ranges

/-- Join the ranges that touch in a list ordered by where they begin. -/
def joined : List (Nat × Nat) → List (Nat × Nat)
  | (a, b) :: (c, d) :: rest =>
    if c ≤ b + 1 then joined ((a, max b d) :: rest) else (a, b) :: joined ((c, d) :: rest)
  | ranges => ranges
termination_by ranges => ranges.length

/-- The ranges of two ordered lists in one, ordered by where they begin. -/
def interleave : List (Nat × Nat) → List (Nat × Nat) → List (Nat × Nat)
  | [], t => t
  | s, [] => s
  | (a, b) :: s, (c, d) :: t =>
    if a ≤ c then (a, b) :: interleave s ((c, d) :: t) else (c, d) :: interleave ((a, b) :: s) t
termination_by s t => s.length + t.length

/-- Members of either set. -/
def union (s t : CharSet) : CharSet := ⟨joined (interleave s.ranges t.ranges)⟩

/-- The set of some code points. -/
def ofMembers (members : List Nat) : CharSet :=
  ⟨joined ((members.mergeSort (· ≤ ·)).map fun n => (n, n))⟩

/-- The gaps between ranges, from `start` on. -/
def gaps (start : Nat) : List (Nat × Nat) → List (Nat × Nat)
  | [] => if start ≤ last then [(start, last)] else []
  | (a, b) :: rest => if start < a then (start, a - 1) :: gaps (b + 1) rest else gaps (b + 1) rest

/-- The code points that are not members. -/
def compl (s : CharSet) : CharSet := ⟨gaps 0 s.ranges⟩

/-- Members of both sets. -/
def inter (s t : CharSet) : CharSet := (s.compl.union t.compl).compl

/-- Members of the first set that are not in the second. -/
def diff (s t : CharSet) : CharSet := s.inter t.compl

/-- The characters of a text. -/
def ofString (text : String) : CharSet := ofMembers (text.toList.map Char.toNat)

/-- The union of several sets. -/
def unionAll (sets : List CharSet) : CharSet := sets.foldl union empty

end CharSet

end Graft
