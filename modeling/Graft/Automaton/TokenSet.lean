set_option autoImplicit false

/-!
# Sets of small numbers

Lookahead sets are sets of token codes. A set is kept as the number whose binary digits are its
members, so that union and intersection are single operations and equal sets are equal numbers.
-/

namespace Graft

/-- A finite set of natural numbers. -/
structure TokenSet where
  bits : Nat
  deriving BEq, DecidableEq, Inhabited

namespace TokenSet

def empty : TokenSet := ⟨0⟩

def singleton (n : Nat) : TokenSet := ⟨1 <<< n⟩

def contains (s : TokenSet) (n : Nat) : Bool := s.bits.testBit n

def insert (s : TokenSet) (n : Nat) : TokenSet := ⟨s.bits ||| 1 <<< n⟩

def union (s t : TokenSet) : TokenSet := ⟨s.bits ||| t.bits⟩

def inter (s t : TokenSet) : TokenSet := ⟨s.bits &&& t.bits⟩

/-- Members of the first set that are not in the second. -/
def diff (s t : TokenSet) : TokenSet := ⟨s.bits ^^^ (s.bits &&& t.bits)⟩

def isEmpty (s : TokenSet) : Bool := s.bits == 0

/-- Whether the sets have a member in common. -/
def meets (s t : TokenSet) : Bool := (s.bits &&& t.bits) != 0

def subset (s t : TokenSet) : Bool := (s.bits ||| t.bits) == t.bits

/-- The members below `bound`, in increasing order. -/
def toList (s : TokenSet) (bound : Nat) : List Nat := (List.range bound).filter s.contains

def ofList (ns : List Nat) : TokenSet := ns.foldl insert empty

instance : Union TokenSet := ⟨union⟩
instance : Inter TokenSet := ⟨inter⟩
instance : SDiff TokenSet := ⟨diff⟩
instance : Hashable TokenSet where
  hash s := mixHash (hash (s.bits % 0x10000000000000000))
    (mixHash (hash ((s.bits >>> 64) % 0x10000000000000000)) (hash (s.bits >>> 128)))

@[simp] theorem contains_empty (n : Nat) : empty.contains n = false := by
  simp [contains, empty]

@[simp] theorem contains_union (s t : TokenSet) (n : Nat) :
    (s.union t).contains n = (s.contains n || t.contains n) := by
  simp [contains, union, Nat.testBit_or]

@[simp] theorem contains_inter (s t : TokenSet) (n : Nat) :
    (s.inter t).contains n = (s.contains n && t.contains n) := by
  simp [contains, inter, Nat.testBit_and]

@[simp] theorem contains_diff (s t : TokenSet) (n : Nat) :
    (s.diff t).contains n = (s.contains n && !t.contains n) := by
  simp only [contains, diff, Nat.testBit_xor, Nat.testBit_and]
  cases s.bits.testBit n <;> cases t.bits.testBit n <;> rfl

end TokenSet

end Graft
