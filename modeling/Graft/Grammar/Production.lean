import Graft.Grammar.Vocabulary
import Std.Data.HashSet

set_option autoImplicit false

/-!
# Productions

A rule with choices, options and repetitions is opened into plain sequences of symbols. Each
step of a sequence keeps the precedence, the alias and the field that hold at that place.
-/

namespace Graft.Grammar

/-- One symbol of a production with what is said about it there. -/
structure Step where
  symbol : Symbol
  precedence : Precedence := .unranked
  associativity : Option Associativity := none
  aliased : Option Alias := none
  field : Option String := none
  deriving BEq, DecidableEq, Hashable, Inhabited

/-- A sequence of steps that makes up one symbol. -/
structure Production where
  steps : Array Step
  dynamic : Int := 0
  deriving BEq, DecidableEq, Hashable, Inhabited

/-- Change the last step. -/
def Production.modifyLast (p : Production) (f : Step → Step) : Production :=
  { p with steps := p.steps.modify (p.steps.size - 1) f }

/-- A symbol with its productions. -/
structure Variable where
  name : String
  visibility : Visibility
  productions : Array Production
  deriving Inhabited

/-- A grammar as productions over numbered symbols. -/
structure Syntax where
  tokens : Array Token
  externals : Array ExternalToken
  nonterminals : Array Variable
  extras : List Symbol
  separators : List Pattern
  inlined : List Symbol
  supertypes : List Symbol
  orderings : List (List Rank)
  word : Symbol
  /-- Symbols that always appear under one other name, and that name. -/
  defaultAliases : List (Symbol × Alias)

/-! ## Repetitions

A repeated rule becomes a symbol of its own, which is either two of itself or one body. Equal
bodies share the symbol.
-/

/-- The symbols made for repetitions so far. -/
structure Repeats where
  /-- How many symbols come before those made here. -/
  base : Nat
  made : Array (Definition × Rule Symbol) := #[]
  /-- How many were made in the rule at hand. -/
  inRule : Nat := 0

mutual

def openRepeats (owner : String) : Rule Symbol → StateM Repeats (Rule Symbol)
  | .blank => return .blank
  | .ref s => return .ref s
  | .literal text => return .literal text
  | .pattern p => return .pattern p
  | .seq parts => return .seq (← openRepeatsAll owner parts)
  | .choice options => return .choice (← openRepeatsAll owner options)
  | .tagged a body => return .tagged a (← openRepeats owner body)
  | .repeat1 body => do
    let body ← openRepeats owner body
    let r ← get
    match r.made.findIdx? (·.2 == body) with
    | some i => return .ref (.nonterminal (r.base + i))
    | none =>
      let s := Symbol.nonterminal (r.base + r.made.size)
      let definition : Definition :=
        { name := s!"{owner}_repeat{r.inRule + 1}"
          visibility := .auxiliary
          body := Rule.oneOf [.seq [.ref s, .ref s], body] }
      set { r with made := r.made.push (definition, body), inRule := r.inRule + 1 }
      return .ref s

def openRepeatsAll (owner : String) : List (Rule Symbol) → StateM Repeats (List (Rule Symbol))
  | [] => return []
  | r :: rs => return (← openRepeats owner r) :: (← openRepeatsAll owner rs)

end

/-- The definitions without repetitions. A hidden rule that is a repetition as a whole becomes the
repeated symbol itself. -/
def openDefinitions (definitions : Array Definition) : Array Definition :=
  let walk : StateM Repeats (Array Definition) :=
    (definitions.mapIdx fun i d => (i, d)).mapM fun (i, d) => do
      modify fun r => { r with inRule := 0 }
      match d.visibility, d.body with
      | .hidden, .repeat1 body =>
        let body ← openRepeats d.name body
        let s := Symbol.nonterminal i
        return { d with
          visibility := .auxiliary
          body := Rule.oneOf [.seq [.ref s, .ref s], body] }
      | _, body => return { d with body := ← openRepeats d.name body }
  let (opened, repeats) := walk.run { base := definitions.size }
  opened ++ repeats.made.map (·.1)

/-! ## Choices -/

mutual

/-- The sequences that a rule stands for, one for each way through its choices. -/
def alternatives : Rule Symbol → List (Rule Symbol)
  | .seq parts => sequences [.blank] parts
  | .choice options => alternativesAll options
  | .tagged a body => (alternatives body).map (.tagged a)
  | .blank => [.blank]
  | .ref s => [.ref s]
  | .literal text => [.literal text]
  | .pattern p => [.pattern p]
  | .repeat1 body => [.repeat1 body]

def alternativesAll : List (Rule Symbol) → List (Rule Symbol)
  | [] => []
  | r :: rs => alternatives r ++ alternativesAll rs

/-- Continue every sequence found so far in every way. -/
def sequences (found : List (Rule Symbol)) : List (Rule Symbol) → List (Rule Symbol)
  | [] => found
  | r :: rs =>
    let next := alternatives r
    sequences (found.flatMap fun entry => next.map fun n => .seq [entry, n]) rs

end

/-! ## Steps -/

/-- The attributes that enclose the place where the walk stands, innermost first. -/
structure Enclosing where
  precedence : List Precedence := []
  associativity : List Associativity := []
  aliased : List Alias := []
  field : List String := []

/-- The steps so far and the strongest dynamic precedence. -/
abbrev Flattening := StateM Production

mutual

/-- Append the steps of a choice-free rule and tell whether there were any. Attributes that end
before the production does leave the enclosing precedence on their last step. -/
def flatten (e : Enclosing) (atEnd : Bool) : Rule Symbol → Flattening Bool
  | .seq parts => flattenAll e atEnd parts
  | .tagged a body => do
    let e' : Enclosing :=
      { precedence := if a.precedence == .unranked then e.precedence else a.precedence :: e.precedence
        associativity := (a.associativity.map (· :: e.associativity)).getD e.associativity
        aliased := (a.aliased.map (· :: e.aliased)).getD e.aliased
        field := (a.field.map (· :: e.field)).getD e.field }
    modify fun p => if a.dynamic.natAbs > p.dynamic.natAbs then { p with dynamic := a.dynamic } else p
    let pushed ← flatten e' atEnd body
    if pushed && !atEnd then modify fun p => p.modifyLast fun s =>
      { s with
        precedence := if a.precedence == .unranked then s.precedence else e.precedence.head?.getD .unranked
        associativity := if a.associativity.isNone then s.associativity else e.associativity.head? }
    return pushed
  | .ref s => do
    let step : Step :=
      { symbol := s
        precedence := e.precedence.head?.getD .unranked
        associativity := e.associativity.head?
        aliased := e.aliased.head?
        field := e.field.head? }
    modify fun p => { p with steps := p.steps.push step }
    return true
  | .blank | .literal _ | .pattern _ | .choice _ | .repeat1 _ => return false

def flattenAll (e : Enclosing) (atEnd : Bool) : List (Rule Symbol) → Flattening Bool
  | [] => return false
  | [r] => flatten e atEnd r
  | r :: rs => do
    let first ← flatten e false r
    let rest ← flattenAll e atEnd rs
    return first || rest

end

/-- The productions of a rule, without repetitions. -/
def productionsOf (body : Rule Symbol) : Array Production :=
  let all := (alternatives body).map fun r => ((flatten {} true r).run { steps := #[] }).2
  (all.foldl (fun (acc : Array Production × Std.HashSet Production) p =>
    if acc.2.contains p then acc else (acc.1.push p, acc.2.insert p)) (#[], {})).1

/-! ## Default aliases

A symbol that never appears under its own name takes its most frequent alias as its name; the
alias then need not be repeated at each place.
-/

/-- The aliases of a symbol with their number of uses, or none when it also appears bare. -/
structure AliasUse where
  bare : Bool := false
  uses : Array (Alias × Nat) := #[]
  deriving Inhabited

def AliasUse.add (u : AliasUse) : Option Alias → AliasUse
  | none => { u with bare := true }
  | some a => match u.uses.findIdx? (·.1 == a) with
    | some i => { u with uses := u.uses.modify i fun (a, n) => (a, n + 1) }
    | none => { u with uses := u.uses.push (a, 1) }

/-- The alias with most uses, the first of several. -/
def AliasUse.default? (u : AliasUse) : Option Alias :=
  if u.bare then none else
    (u.uses.foldl (fun best entry =>
      match best with
      | some (_, n) => if n < entry.2 then some entry else best
      | none => some entry) none).map (·.1)

/-- The symbols that always have an alias, with the alias that becomes their name. -/
def defaultAliasesOf (nonterminals : Array Variable) (extras inlined : List Symbol) :
    List (Symbol × Alias) :=
  let record (table : List (Symbol × AliasUse)) (s : Symbol) (a : Option Alias) :=
    match table.findIdx? (·.1 == s) with
    | some i => table.modify i fun (s, u) => (s, u.add a)
    | none => table ++ [(s, AliasUse.add {} a)]
  let table := nonterminals.foldl (fun table v =>
    v.productions.foldl (fun table p =>
      p.steps.foldl (fun table step =>
        if inlined.contains step.symbol then table else record table step.symbol step.aliased) table)
      table) []
  let table := extras.foldl (fun table s => record table s none) table
  table.filterMap fun (s, u) => u.default?.map (s, ·)

/-- Whether a production other than the `i`-th has the alias at place `j` on a symbol for which it
is no default. -/
def aliasNeeded (defaultOf : Symbol → Option Alias) (v : Variable) (i j : Nat) (a : Option Alias) : Bool :=
  (List.range v.productions.size).any fun k =>
    k != i && match (v.productions.getD k default).steps[j]? with
      | some other => other.aliased == a && defaultOf other.symbol != a
      | none => false

/-- Drop the aliases that a default makes redundant, except where a sibling production has the
same alias at the same place for another reason. -/
def dropRedundant (defaults : List (Symbol × Alias)) (v : Variable) : Variable :=
  let defaultOf (s : Symbol) : Option Alias := defaults.lookup s
  let simplify (i j : Nat) (step : Step) : Step :=
    if step.aliased.isNone || step.aliased != defaultOf step.symbol then step
    else if aliasNeeded defaultOf v i j step.aliased then step
    else { step with aliased := none }
  { v with productions := v.productions.mapIdx fun i p => { p with steps := p.steps.mapIdx (simplify i) } }

/-! ## The syntax of a grammar -/

/-- The productions of a grammar. -/
def Vocabulary.syntaxOf (v : Vocabulary) : Syntax :=
  let nonterminals := (openDefinitions v.definitions).map fun d =>
    { name := d.name, visibility := d.visibility, productions := productionsOf d.body : Variable }
  let defaults := defaultAliasesOf nonterminals v.extras v.inlined
  { tokens := v.tokens
    externals := v.externals
    nonterminals := nonterminals.map (dropRedundant defaults)
    extras := v.extras
    separators := v.separators
    inlined := v.inlined
    supertypes := v.supertypes
    orderings := v.orderings
    word := v.word
    defaultAliases := defaults }

end Graft.Grammar
