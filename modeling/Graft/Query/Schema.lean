import Graft.Parse.Tree

set_option autoImplicit false

/-!
# What trees of a grammar look like

A query can only ask for kinds and fields that a grammar has, and only for children that a node of
some kind can have. The schema of a grammar says which those are. Nodes of one kind are made by the
rules that show as it; rules without nodes of their own count as groups of children.
-/

namespace Graft.Query

open Graft.Automaton Graft.Grammar

/-- A kind of node: its name, and whether it is a named one. -/
structure Kind where
  name : String
  named : Bool
  deriving BEq, DecidableEq, Hashable, Inhabited, Repr

/-- How a child of a rule shows. -/
inductive Look where
  | node (kind : Kind)
  /-- As what the group with this number consists of. -/
  | group (number : Nat)
  | nothing
  deriving BEq, DecidableEq, Inhabited, Repr

structure Child where
  look : Look
  field : Option String := none
  /-- Whether the place gives the child its name. -/
  renamed : Bool := false
  deriving BEq, DecidableEq, Inhabited, Repr

structure Schema where
  kinds : Std.HashSet Kind
  fields : Std.HashSet String
  /-- The families of kinds, with the groups that stand for them. -/
  families : List (String × Nat)
  /-- Kinds of nodes that may stand anywhere. -/
  extras : List Kind
  /-- The rows of children that each group can consist of. -/
  groups : Array (List (Array Child))
  /-- The groups that the children of a kind make up. -/
  groupOf : Std.HashMap Kind Nat

namespace Schema

/-- The productions that a production stands for once all inlined rules are put in. -/
def openInlined (s : Syntax) : Nat → Production → List Production
  | 0, p => [p]
  | fuel + 1, p => match firstInlined s p 0 with
    | none => [p]
    | some place => (inlineAt s place (s.nonterminals.size + 1) p).flatMap (openInlined s fuel)

/-- How a step of a production shows. -/
def childOf (c : Coding) (looks : Array (Option Parse.Appearance)) (step : Step) : Child :=
  let look := match step.aliased with
    | some a => Look.node ⟨a.name, a.named⟩
    | none => match looks.getD (c.code step.symbol) none with
      | some a => .node ⟨a.kind, a.named⟩
      | none => match step.symbol with
        | .nonterminal i => .group i
        | _ => .nothing
  { look, field := step.field, renamed := step.aliased.isSome }

/-- The kinds that the nodes of each rule can have: its own, and the names that places give it. -/
def kindsOfRules (s : Syntax) (looks : Array (Option Parse.Appearance)) (c : Coding)
    (productions : Array (List Production)) : Array (List Kind) :=
  let add (table : Array (List Kind)) (i : Nat) (k : Kind) : Array (List Kind) :=
    table.modify i fun ks => if ks.contains k then ks else ks ++ [k]
  let own := (List.range s.nonterminals.size).toArray.map fun i =>
    match looks.getD (c.code (.nonterminal i)) none with
    | some a => [(⟨a.kind, a.named⟩ : Kind)]
    | none => []
  productions.foldl (fun table ps => ps.foldl (fun table p => p.steps.foldl (fun table step =>
    match step.symbol, step.aliased with
    | .nonterminal i, some a => add table i ⟨a.name, a.named⟩
    | _, _ => table) table) table) own

/-- The schema of a grammar. The groups of rules come first, those of kinds behind them. -/
def ofSyntax (s : Syntax) : Schema :=
  let c := Coding.ofSyntax s
  let looks := Parse.appearances s
  let productions := s.nonterminals.map fun v => v.productions.toList.flatMap fun p => openInlined s (p.steps.size + 40) p
  let rows := productions.map fun ps => (ps.map fun p => p.steps.map (childOf c looks)).filter (!·.isEmpty)
  let rulesOf := kindsOfRules s looks c productions
  let collected : List (Kind × List (Array Child)) := (List.range s.nonterminals.size).foldl (fun table i =>
    (rulesOf.getD i []).foldl (fun table k =>
      let more := rows.getD i []
      if table.any (·.1 == k) then table.map fun e => if e.1 == k then (k, e.2 ++ more) else e
      else table ++ [(k, more)]) table) []
  let collected := collected.filter fun e => !e.2.isEmpty
  let steps := productions.toList.flatMap fun ps => ps.flatMap fun p => p.steps.toList
  let shown := looks.toList.filterMap fun a => a.map fun a => (⟨a.kind, a.named⟩ : Kind)
  let given := steps.filterMap fun step => step.aliased.map fun a => (⟨a.name, a.named⟩ : Kind)
  { kinds := Std.HashSet.ofList (shown ++ given)
    fields := Std.HashSet.ofList (steps.filterMap (·.field))
    families := s.supertypes.filterMap fun
      | .nonterminal i => some ((s.nonterminals.getD i default).name, i)
      | _ => none
    extras := s.extras.filterMap fun e => (looks.getD (c.code e) none).map fun a => ⟨a.kind, a.named⟩
    groups := rows ++ (collected.map (·.2)).toArray
    groupOf := Std.HashMap.ofList (collected.zipIdx.map fun (e, i) => (e.1, rows.size + i)) }

end Schema

end Graft.Query
