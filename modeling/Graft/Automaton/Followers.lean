import Graft.Automaton.Closure

set_option autoImplicit false

/-!
# Which token can follow which

Two tokens are neighbours if one can end, and the other begin, neighbouring symbols of some
production. Comments can follow and be followed by everything.
-/

namespace Graft.Automaton

open Graft.Grammar

/-- The ordinary tokens of a set of codes, by their own numbers. -/
def Coding.terminals (c : Coding) (s : TokenSet) : TokenSet := ⟨s.bits >>> (c.externals + 1)⟩

/-- For every symbol code, the symbols that stand directly behind it in some production. -/
def neighbours (s : Syntax) (c : Coding) : Array TokenSet :=
  (Lines.ofSyntax s).lines.foldl (fun table line =>
    (line.production.steps.toList.zip (line.production.steps.toList.drop 1)).foldl
      (fun table (a, b) => table.modify (c.code a.symbol) (·.insert (c.code b.symbol))) table)
    (Array.replicate c.symbolCount .empty)

/-- For every ordinary token, the ordinary tokens that can come next. -/
def followersOf (s : Syntax) : Array TokenSet :=
  let c := Coding.ofSyntax s
  let edge (sets : Array TokenSet) (x : Nat) : TokenSet :=
    if x < c.tokenCount then .singleton x else sets.getD (x - c.tokenCount) .empty
  let first := firstSets s
  let last := lastSets s
  let next := neighbours s c
  let beginnings := next.map fun set =>
    c.terminals ((set.toList c.symbolCount).foldl (fun acc x => acc ∪ edge first x) .empty)
  let table := (List.range c.symbolCount).foldl (fun table x =>
    let after := beginnings.getD x .empty
    if after.isEmpty then table
    else ((c.terminals (edge last x)).toList c.tokens).foldl
      (fun table t => table.modify t (· ∪ after)) table) (Array.replicate c.tokens .empty)
  s.extras.foldl (fun table x => match x with
    | .terminal i => (table.map (·.insert i)).setIfInBounds i ⟨(1 <<< c.tokens) - 1⟩
    | _ => table) table

end Graft.Automaton
