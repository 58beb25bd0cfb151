import Graft.Lexicon.Position
import Std.Data.HashSet

set_option autoImplicit false

/-!
# Overlap of tokens

Two tokens can be told apart only if the scanner knows which of them to expect, as soon as one of
them matches what the other matches, or goes on where the other ends. This module finds out for
every pair of tokens in which of these ways they meet.
-/

namespace Graft.Lexicon

/-- How the first token of a pair meets the second. -/
structure Overlap where
  /-- It ends where the second could go on, and is preferred. -/
  ends : Bool := false
  /-- It goes on where the second ends, and is preferred. -/
  goesOn : Bool := false
  /-- As `goesOn`, with a character that can follow the second. -/
  goesOnValid : Bool := false
  /-- It is complete where blanks can still be read. -/
  blanks : Bool := false
  /-- It matches a text that the second matches too, and is preferred. -/
  same : Bool := false
  /-- It matches a text that the second does not match. -/
  different : Bool := false
  deriving BEq, Inhabited

namespace Overlap

def or (a b : Overlap) : Overlap :=
  { ends := a.ends || b.ends
    goesOn := a.goesOn || b.goesOn
    goesOnValid := a.goesOnValid || b.goesOnValid
    blanks := a.blanks || b.blanks
    same := a.same || b.same
    different := a.different || b.different }

/-- Whether the two cannot be expected at the same place without a choice. -/
def conflicts (o : Overlap) : Bool := o.goesOnValid || o.blanks || o.same

end Overlap

/-- The overlaps of a pair of tokens, in both directions, as far as found. -/
structure PairOverlap where
  left : Overlap := {}
  right : Overlap := {}

namespace Patterns

/-- Mark the token `t`, which is `i` or `j`. -/
def mark (i t : Nat) (o : Overlap) (found : PairOverlap) : PairOverlap :=
  if t == i then { found with left := found.left.or o } else { found with right := found.right.or o }

/-- What one front of two tokens shows, and the fronts to look at next. -/
def overlapAt (p : Patterns) (following : Array TokenSet) (i j : Nat) (f : Front) (live : List Nat)
    (found : PairOverlap) : PairOverlap × List (Front × List Nat) :=
  match live with
  | [only] => (mark i only { different := true } found, [])
  | _ =>
    let atBlank := p.atSeparator f
    let found := if atBlank then f.complete.foldl (fun found t => mark i t { blanks := true } found) found
      else found
    let found := match f.complete with
      | [a, b] => mark i (if p.prefers a b then a else b) { same := true } found
      | _ => found
    let done := p.completed f
    ((p.readable f).toList p.classes.count).foldl (fun (found, next) k =>
      match p.advance f k with
      | none => (found, next)
      | some a =>
        match done, a.tokens with
        | some d, [t] =>
          if t == d then (found, (a.goal, a.tokens) :: next)
          else if p.goesOn a d atBlank then
            let valid := (following.getD (if t == i then j else i) .empty).contains k
            (mark i t { goesOn := true, goesOnValid := valid } found, (a.goal, a.tokens) :: next)
          else (mark i d { ends := true } found, next)
        | _, _ => (found, (a.goal, a.tokens) :: next)) (found, [])

/-- Look at every front that two tokens can reach together. -/
def exploreOverlap (p : Patterns) (following : Array TokenSet) (i j : Nat) :
    Nat → List (Front × List Nat) → Std.HashSet Front → PairOverlap → PairOverlap
  | 0, _, _, found => found
  | _ + 1, [], _, found => found
  | fuel + 1, (f, live) :: rest, seen, found =>
    if seen.contains f then exploreOverlap p following i j fuel rest seen found
    else
      let (found, next) := p.overlapAt following i j f live found
      exploreOverlap p following i j fuel (next ++ rest) (seen.insert f) found

/-- The overlaps of tokens `i` and `j`. -/
def overlap (p : Patterns) (following : Array TokenSet) (i j : Nat) : PairOverlap :=
  p.exploreOverlap following i j 100000 [(p.front [i, j], [i, j])] {} {}

end Patterns

/-- The overlaps of all pairs of tokens. -/
structure Overlaps where
  count : Nat
  table : Array Overlap
  deriving Inhabited

namespace Overlaps

def get (o : Overlaps) (i j : Nat) : Overlap := o.table.getD (i * o.count + j) {}

/-- Compute all overlaps; `followers` are the tokens that can follow each token. -/
def ofPatterns (p : Patterns) (followers : Array TokenSet) : Overlaps := Id.run do
  let n := p.tokens.size
  let starting : Array TokenSet := (List.range n).toArray.map fun t => p.readable (p.front [t])
  let following : Array TokenSet := followers.map fun ts =>
    (ts.toList n).foldl (fun acc t => acc ∪ starting.getD t .empty) .empty
  let mut table : Array Overlap := Array.replicate (n * n) {}
  for i in [0:n] do
    for j in [0:i] do
      let pair := p.overlap following i j
      table := table.setIfInBounds (i * n + j) pair.left
      table := table.setIfInBounds (j * n + i) pair.right
  return { count := n, table }

/-- Whether token `i` cannot be added where `j` is expected. -/
def conflicts (o : Overlaps) (i j : Nat) : Bool := (o.get i j).conflicts

/-- Whether token `i` matches a text that is longer or shorter than one of `j`. -/
def longerOrShorter (o : Overlaps) (i j : Nat) : Bool :=
  ((o.get i j).goesOnValid || (o.get i j).blanks) && !(o.get j i).blanks

end Overlaps

end Graft.Lexicon
