import Graft.Text.CharSet

set_option autoImplicit false

/-!
# Packed tables

Sets of characters that are given by tables of a standard are written as rows of numbers. A number is
written in base 26, all its digits but the last in small letters and the last as a capital.
-/

namespace Graft

/-- The numbers of a row. -/
def unpack (text : String) : List Nat :=
  let (numbers, _) := text.toList.foldl (fun (numbers, n) c =>
    if c.isUpper then ((26 * n + (c.toNat - 'A'.toNat)) :: numbers, 0)
    else (numbers, 26 * n + (c.toNat - 'a'.toNat))) (([] : List Nat), 0)
  numbers.reverse

/-- Ranges from numbers that tell, in turn, how far on from the first place that is free a range begins,
and how many more members it has. -/
def CharSet.rangesFrom (free : Nat) : List Nat → List (Nat × Nat)
  | gap :: more :: rest => (free + gap, free + gap + more) :: rangesFrom (free + gap + more + 2) rest
  | _ => []

/-- The set that a row of numbers stands for. -/
def CharSet.unpack (text : String) : CharSet := ⟨rangesFrom 0 (Graft.unpack text)⟩

/-- Every code point belongs to one of several numbered parts: runs of code points, with the number of the
part of each. -/
structure Partition where
  runs : List ((Nat × Nat) × Nat)

namespace Partition

/-- Runs from numbers that tell, in turn, the part of a run and how many more members it has. -/
def runsFrom (start : Nat) : List Nat → List ((Nat × Nat) × Nat)
  | part :: more :: rest => ((start, start + more), part) :: runsFrom (start + more + 1) rest
  | _ => []

/-- The partition that a row of numbers stands for. -/
def unpack (text : String) : Partition := ⟨runsFrom 0 (Graft.unpack text)⟩

/-- The members of some parts. -/
def select (p : Partition) (wanted : Nat → Bool) : CharSet :=
  ⟨CharSet.joined (p.runs.filterMap fun (range, part) => if wanted part then some range else none)⟩

end Partition

end Graft
