set_option autoImplicit false

/-!
# Finding text in text
-/

namespace Graft.Text

/-- What is left of a text after a beginning, if it begins so. -/
def dropStart? : List Char → List Char → Option (List Char)
  | cs, [] => some cs
  | [], _ :: _ => none
  | c :: cs, p :: ps => if c == p then dropStart? cs ps else none

def startsWith (cs start : List Char) : Bool := (dropStart? cs start).isSome

/-- Whether a text occurs in another. -/
def occursIn (needle : List Char) : List Char → Bool
  | [] => needle.isEmpty
  | c :: cs => startsWith (c :: cs) needle || occursIn needle cs

def contains (text needle : String) : Bool := occursIn needle.toList text.toList

/-- The parts of a text between the occurrences of a character. -/
def parts (text : String) (mark : Char) : List String := (text.toList.splitOn mark).map String.ofList

theorem dropStart?_eq_some_iff {cs start rest : List Char} :
    dropStart? cs start = some rest ↔ cs = start ++ rest := by
  fun_induction dropStart? cs start with
  | case1 cs => simp
  | case2 => simp
  | case3 c cs p ps hc ih => simp [ih, beq_iff_eq.1 hc]
  | case4 c cs p ps hc =>
    have hne : c ≠ p := fun heq => hc (beq_iff_eq.2 heq)
    simp [hne]

end Graft.Text
