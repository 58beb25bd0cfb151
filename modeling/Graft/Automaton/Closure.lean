import Graft.Automaton.Item

set_option autoImplicit false

/-!
# Closure of item sets

When a rule is next in some item, the parser stands at the start of that rule too, and of every
rule that can begin it. Which rules these are, and which tokens can follow each of them, depends
on the rule alone, up to what follows the rule itself; so both are computed once per rule.
-/

namespace Graft.Automaton

open Graft.Grammar

/-- The union over the end symbols of each rule's productions, iterated until nothing changes. -/
def edgeSets (s : Syntax) (edge : Production → Option Step) : Array TokenSet :=
  let coding := Coding.ofSyntax s
  let round (known : Array TokenSet) : Array TokenSet :=
    s.nonterminals.mapIdx fun i v =>
      v.productions.foldl (fun acc p =>
        match edge p with
        | some { symbol := .nonterminal j, .. } => acc ∪ known.getD j .empty
        | some step => acc.insert (coding.code step.symbol)
        | none => acc) (known.getD i .empty)
  let rec settle : Nat → Array TokenSet → Array TokenSet
    | 0, known => known
    | fuel + 1, known =>
      let next := round known
      if next == known then known else settle fuel next
  settle s.nonterminals.size (s.nonterminals.map fun _ => .empty)

/-- The tokens that can begin each rule. -/
def firstSets (s : Syntax) : Array TokenSet := edgeSets s fun p => p.steps[0]?

/-- The tokens that can end each rule. -/
def lastSets (s : Syntax) : Array TokenSet := edgeSets s fun p => p.steps.back?

/-- What can follow a rule that begins another: some tokens, and perhaps also whatever follows the
other. -/
structure Follow where
  tokens : TokenSet := .empty
  inherits : Bool := false
  deriving BEq, Inhabited

def Follow.union (a b : Follow) : Follow := ⟨a.tokens ∪ b.tokens, a.inherits || b.inherits⟩

/-- What the construction of states needs to know about rules. -/
structure Closure where
  /-- The tokens that can begin the symbol of a code. -/
  first : Array TokenSet
  /-- For every rule, the rules that can begin it, itself included, and what follows each. -/
  begins : Array (Array (Nat × Follow))
  /-- For every rule, the items after the first symbol, by the code of that symbol. -/
  starts : Array (Array (Nat × Array Nat))
  /-- For every rule, the items that are complete before anything is read. -/
  empties : Array (Array Nat)

/-- Join what follows a rule with what was known to follow it. -/
def addFollow (known : Array (Nat × Follow)) (rule : Nat) (follow : Follow) : Array (Nat × Follow) :=
  match known.findIdx? (·.1 == rule) with
  | some i => known.modify i fun (j, f) => (j, f.union follow)
  | none => known.push (rule, follow)

/-- For every rule, the rules that stand first in its productions and what follows them there. -/
def leftEdges (s : Syntax) (first : Array TokenSet) : Array (Array (Nat × Follow)) :=
  let coding := Coding.ofSyntax s
  let tokensOf (symbol : Symbol) : TokenSet := match symbol with
    | .nonterminal j => first.getD j .empty
    | symbol => .singleton (coding.code symbol)
  s.nonterminals.map fun v =>
    v.productions.foldl (fun acc p =>
      match (p.steps[0]? : Option Step) with
      | some { symbol := .nonterminal j, .. } =>
        addFollow acc j (match (p.steps[1]? : Option Step) with
          | some second => ⟨tokensOf second.symbol, false⟩
          | none => ⟨.empty, true⟩)
      | _ => acc) #[]

/-- The rules that can begin `rule` and what follows each, by following left edges. -/
def beginningsOf (edges : Array (Array (Nat × Follow))) (rule : Nat) : Array (Nat × Follow) :=
  let spread (known : Array (Option Follow)) : Array (Option Follow) :=
    (List.range known.size).foldl (fun known i =>
      match known.getD i none with
      | none => known
      | some here =>
        (edges.getD i #[]).foldl (fun known (j, edge) =>
          let passed : Follow :=
            if edge.inherits then ⟨edge.tokens ∪ here.tokens, here.inherits⟩ else ⟨edge.tokens, false⟩
          known.modify j fun old => some ((old.getD {}).union passed)) known) known
  let rec settle : Nat → Array (Option Follow) → Array (Option Follow)
    | 0, known => known
    | fuel + 1, known =>
      let next := spread known
      if next == known then known else settle fuel next
  let initial := (Array.replicate edges.size none).setIfInBounds rule (some ⟨.empty, true⟩)
  let known := settle (2 * edges.size) initial
  (List.range known.size).foldl (fun acc i =>
    match known.getD i none with
    | some follow => acc.push (i, follow)
    | none => acc) #[]

def Closure.ofSyntax (s : Syntax) (items : Items) : Closure :=
  let coding := Coding.ofSyntax s
  let first := firstSets s
  let edges := leftEdges s first
  let inlined (v : Nat) : Bool := s.inlined.contains (.nonterminal v)
  { first := ((List.range coding.tokenCount).map TokenSet.singleton).toArray ++ first
    begins := (List.range s.nonterminals.size).toArray.map fun v =>
      (beginningsOf edges v).filter fun (j, _) => !inlined j
    starts := items.own.mapIdx fun v ls =>
      if inlined v then #[] else
        ls.foldl (fun acc l =>
          (items.opened.getD (items.start.getD l 0) #[]).foldl (fun acc i =>
            match items.next.getD i none with
            | none => acc
            | some x =>
              let target := items.after.getD i 0
              match acc.findIdx? (·.1 == x) with
              | some k => acc.modify k fun (x, ts) => (x, if ts.contains target then ts else ts.push target)
              | none => acc.push (x, #[target])) acc) #[]
    empties := items.own.map fun ls =>
      (ls.map fun l => items.start.getD l 0).filter fun i => (items.next.getD i none).isNone }

end Graft.Automaton
