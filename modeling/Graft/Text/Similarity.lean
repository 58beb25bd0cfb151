set_option autoImplicit false

/-!
# Similarity of names

How alike two names are, from zero to one. Characters count as common if they stand at most half the
longer name apart, less if they come in a different order, and names that begin alike are favoured.
-/

namespace Graft.Text

/-- Pair each character of the first name with the first free equal one of the second within
`reach`. The flags tell which characters have a partner. -/
def pairUp (a b : Array Char) (reach : Nat) : Array Bool × Array Bool :=
  (List.range a.size).foldl (fun (usedA, usedB) i =>
    let low := i - reach
    let high := min b.size (i + reach + 1)
    match ((List.range high).drop low).find? fun j => a[i]? == b[j]? && !(usedB.getD j true) with
    | some j => (usedA.setIfInBounds i true, usedB.setIfInBounds j true)
    | none => (usedA, usedB)) (Array.replicate a.size false, Array.replicate b.size false)

/-- The characters with a partner, in order. -/
def paired (cs : Array Char) (used : Array Bool) : List Char :=
  (cs.toList.zip used.toList).filterMap fun (c, u) => if u then some c else none

/-- The share of common characters, less half of those that are out of order. -/
def jaro (a b : Array Char) : Float :=
  if a.isEmpty && b.isEmpty then 1.0
  else if a.isEmpty || b.isEmpty then 0.0
  else
    let (usedA, usedB) := pairUp a b (max a.size b.size / 2 - 1)
    let left := paired a usedA
    let right := paired b usedB
    let common := left.length
    if common == 0 then 0.0
    else
      let swapped := ((left.zip right).filter fun (x, y) => x != y).length / 2
      let m := common.toFloat
      (m / a.size.toFloat + m / b.size.toFloat + (common - swapped).toFloat / m) / 3.0

/-- How alike two names are: names with a common beginning come closer, by up to four characters. -/
def similarity (a b : String) : Float :=
  let score := jaro a.toList.toArray b.toList.toArray
  if score > 0.7 then
    let beginning := (((a.toList.take 4).zip b.toList).takeWhile fun (x, y) => x == y).length
    score + 0.1 * beginning.toFloat * (1.0 - score)
  else score

end Graft.Text
