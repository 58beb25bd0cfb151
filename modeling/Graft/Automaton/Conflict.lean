import Graft.Automaton.Closure

set_option autoImplicit false

/-!
# Choosing between actions

Where a token allows several actions, precedence decides first, then associativity. What they
leave open stays open: the parser follows every remaining action.
-/

namespace Graft.Automaton

open Graft.Grammar

/-- Whether a place in an ordering is taken by this precedence or by one of these rules. -/
def Rank.covers (names : Array String) (precedence : Precedence) (rules : List Nat) : Rank → Bool
  | .name n => precedence == .named n
  | .rule n => rules.any fun r => names.getD r "" == n

/-- Read one ordering from its strong end. The answer is known at the first place that only the
later of the two sides takes. -/
def compareIn (left right : Rank → Bool) : Bool → Bool → List Rank → Option Ordering
  | _, _, [] => none
  | sawLeft, sawRight, r :: rest =>
    let l := left r
    let ri := right r
    if l && !ri && sawRight then some .lt
    else if ri && !l && sawLeft then some .gt
    else compareIn left right (sawLeft || l) (sawRight || ri) rest

/-- Compare two precedences, each with the rules that it belongs to. Levels compare as numbers, and
the unranked is level zero; otherwise the first ordering that places both decides. -/
def compareRanks (names : Array String) (orderings : List (List Rank))
    (left : Precedence) (leftRules : List Nat) (right : Precedence) (rightRules : List Nat) : Ordering :=
  let byOrdering : Ordering :=
    (orderings.findSome? (compareIn (Rank.covers names left leftRules)
      (Rank.covers names right rightRules) false false)).getD .eq
  match left, right with
  | .level m, .level n => if m != 0 || n != 0 then compare m n else byOrdering
  | .level m, .unranked => if m != 0 then compare m 0 else byOrdering
  | .unranked, .level n => if n != 0 then compare 0 n else byOrdering
  | _, _ => byOrdering

/-- The reductions that are left for a token, and what is known about them. -/
structure Reductions where
  items : List Nat := []
  precedence : Precedence := .unranked
  rules : List Nat := []
  left : Bool := false
  right : Bool := false
  neither : Bool := false
  contested : Bool := false

/-- What precedence and associativity leave for one token. -/
structure Resolution where
  /-- The items to reduce. -/
  reduce : List Nat
  /-- Whether the token may be read. -/
  shift : Bool
  /-- Whether reading it only continues a repetition. -/
  repeats : Bool
  deriving Inhabited

namespace Items

/-- Take in one more completed item, unless it is weaker than those found before. -/
def addReduction (t : Items) (names : Array String) (orderings : List (List Rank))
    (found : Reductions) (i : Nat) : Reductions :=
  let precedence := t.precedence.getD i .unranked
  let rule := t.rule.getD i 0
  let join (r : Reductions) : Reductions :=
    { r with
      items := r.items ++ [i]
      precedence
      rules := if r.rules.contains rule then r.rules else r.rules ++ [rule]
      left := r.left || t.associativity.getD i none == some .left
      right := r.right || t.associativity.getD i none == some .right
      neither := r.neither || (t.associativity.getD i none).isNone }
  if found.items.isEmpty then join found
  else match compareRanks names orderings precedence [rule] found.precedence found.rules with
    | .gt => join {}
    | .eq => join { found with contested := true }
    | .lt => found

/-- Decide for one token: `done` are the completed items that it may follow, in their order,
`shifting` the unfinished items that can go on with it, and `canShift` tells whether any can. -/
def resolve (t : Items) (names : Array String) (auxiliary : Nat → Bool)
    (orderings : List (List Rank)) (done shifting : List Nat) (canShift : Bool) : Resolution :=
  let found := done.foldl (t.addReduction names orderings) {}
  if !canShift then { reduce := found.items, shift := false, repeats := false }
  else if found.items.isEmpty then { reduce := [], shift := true, repeats := false }
  else
    let rules := (done ++ shifting).map fun i => t.rule.getD i 0
    let sameRepeat := match rules with
      | [] => false
      | r :: rest => auxiliary r && rest.all (· == r)
    if sameRepeat then { reduce := found.items, shift := true, repeats := true }
    else
      let orders := shifting.map fun i =>
        compareRanks names orderings (t.precedence.getD i .unranked) [t.rule.getD i 0]
          found.precedence found.rules
      let more := orders.contains .gt
      let less := orders.contains .lt
      if more && !less then { reduce := [], shift := true, repeats := false }
      else if less && !more then { reduce := found.items, shift := false, repeats := false }
      else if more && less then { reduce := found.items, shift := true, repeats := false }
      else if found.left && !found.right && !found.neither then
        { reduce := found.items, shift := false, repeats := false }
      else if found.right && !found.left && !found.neither then
        { reduce := [], shift := true, repeats := false }
      else { reduce := found.items, shift := true, repeats := false }

end Items

end Graft.Automaton
