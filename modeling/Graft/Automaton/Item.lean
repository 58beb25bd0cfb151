import Graft.Automaton.TokenSet
import Graft.Grammar.Production
import Std.Data.HashMap

set_option autoImplicit false

/-!
# Items

An item is a production with a place in it: how far the parser has come. Two items that agree on
everything that can still matter are the same item here, whatever was read before; so items are
numbered by what they have ahead and by how they will be reduced.
-/

namespace Graft.Automaton

open Graft.Grammar

/-! ## Codes of symbols -/

/-- The sizes that determine the codes of symbols: external tokens come first, then the end of
the text, the ordinary tokens, and the rules. -/
structure Coding where
  externals : Nat
  tokens : Nat
  nonterminals : Nat
  deriving Inhabited

namespace Coding

def ofSyntax (s : Syntax) : Coding := ⟨s.externals.size, s.tokens.size, s.nonterminals.size⟩

def eof (c : Coding) : Nat := c.externals

/-- How many codes belong to tokens of any kind. -/
def tokenCount (c : Coding) : Nat := c.externals + 1 + c.tokens

def symbolCount (c : Coding) : Nat := c.tokenCount + c.nonterminals

def code (c : Coding) : Symbol → Nat
  | .external i => i
  | .eof => c.eof
  | .terminal i => c.externals + 1 + i
  | .nonterminal i => c.tokenCount + i

/-- The symbol of a code. -/
def symbol (c : Coding) (n : Nat) : Symbol :=
  if n < c.externals then .external n
  else if n == c.externals then .eof
  else if n < c.tokenCount then .terminal (n - c.externals - 1)
  else .nonterminal (n - c.tokenCount)

end Coding

/-! ## Productions with inlined rules -/

/-- The production with the rule at place `k` replaced by one of its own productions. -/
def inlineInto (p : Production) (k : Nat) (q : Production) : Production :=
  match p.steps[k]? with
  | none => p
  | some removed =>
    let inserted := q.steps.mapIdx fun i s =>
      { s with
        aliased := removed.aliased.or s.aliased
        field := removed.field.or s.field
        precedence :=
          if i + 1 == q.steps.size && s.precedence == .unranked then removed.precedence else s.precedence
        associativity := if i + 1 == q.steps.size then s.associativity.or removed.associativity
          else s.associativity }
    { steps := p.steps.extract 0 k ++ inserted ++ p.steps.extract (k + 1) p.steps.size
      dynamic := if q.dynamic.natAbs > p.dynamic.natAbs then q.dynamic else p.dynamic }

/-- Replace inlined rules at place `k` until another symbol stands there. -/
def inlineAt (s : Syntax) (k : Nat) : Nat → Production → List Production
  | 0, p => [p]
  | fuel + 1, p =>
    match p.steps[k]? with
    | some ⟨.nonterminal i, _, _, _, _⟩ =>
      if s.inlined.contains (.nonterminal i) then
        match s.nonterminals[i]? with
        | some v => v.productions.toList.flatMap fun q => inlineAt s k fuel (inlineInto p k q)
        | none => [p]
      else [p]
    | _ => [p]

/-- A production of a rule. Where an inlined rule is ahead, `opened` gives the place and the
productions that take over there. -/
structure Line where
  rule : Nat
  production : Production
  opened : Option (Nat × Array Nat) := none
  deriving Inhabited

/-- The first place at or after `k` where an inlined rule stands. -/
def firstInlined (s : Syntax) (p : Production) (k : Nat) : Option Nat :=
  ((List.range p.steps.size).drop k).find? fun i =>
    match p.steps[i]? with
    | some step => s.inlined.contains step.symbol
    | none => false

/-- Open the inlined rules of the production in line `l` from place `k` on. -/
def openLine (s : Syntax) : Nat → Array Line → Nat → Nat → Array Line
  | 0, lines, _, _ => lines
  | fuel + 1, lines, l, k =>
    match lines[l]? with
    | none => lines
    | some line =>
      match firstInlined s line.production k with
      | none => lines
      | some place =>
        let fresh := inlineAt s place (s.nonterminals.size + 1) line.production
        let base := lines.size
        let lines := lines.modify l fun line =>
          { line with opened := some (place, ((List.range fresh.length).map (base + ·)).toArray) }
        let lines := lines ++ (fresh.map fun p => { rule := line.rule, production := p : Line }).toArray
        (List.range fresh.length).foldl (fun lines i => openLine s fuel lines (base + i) place) lines

/-- Every production of the grammar, the productions of rule `v` being those numbered in `own[v]`,
and every production that inlining makes of them. -/
structure Lines where
  lines : Array Line
  own : Array (Array Nat)

def Lines.ofSyntax (s : Syntax) : Lines := Id.run do
  let mut lines : Array Line := #[]
  let mut own : Array (Array Nat) := #[]
  for v in [0:s.nonterminals.size] do
    let mut mine := #[]
    for p in (s.nonterminals.getD v default).productions do
      let l := lines.size
      mine := mine.push l
      lines := openLine s (p.steps.size + 40) (lines.push { rule := v, production := p }) l 0
    own := own.push mine
  return { lines, own }

/-! ## Fields of hidden rules -/

/-- The fields that a rule gives to its parent when it has no node of its own: those of its steps
and those of the hidden rules among them. -/
def fieldsOf (s : Syntax) : Array (List String) :=
  let add (acc : List String) (name : String) := if acc.contains name then acc else acc ++ [name]
  let round (known : Array (List String)) : Array (List String) :=
    s.nonterminals.mapIdx fun i v =>
      v.productions.foldl (fun acc p =>
        p.steps.foldl (fun acc step =>
          let acc := (step.field.map (add acc)).getD acc
          match step.symbol, step.aliased with
          | .nonterminal j, none =>
            if ((s.nonterminals.getD j default).visibility).isVisible then acc
            else (known.getD j []).foldl add acc
          | _, _ => acc) acc) (known.getD i [])
  (List.range 12).foldl (fun known _ => round known) (s.nonterminals.map fun _ => [])

/-! ## Order of items -/

def comparePrecedence (a b : Precedence) : Ordering :=
  match a, b with
  | .unranked, .unranked => .eq
  | .unranked, _ => .lt
  | _, .unranked => .gt
  | .level m, .level n => compare m n
  | .level _, .named _ => .lt
  | .named _, .level _ => .gt
  | .named m, .named n => compare m n

def compareOption {α : Type} (f : α → α → Ordering) : Option α → Option α → Ordering
  | none, none => .eq
  | none, some _ => .lt
  | some _, none => .gt
  | some a, some b => f a b

def compareAssociativity (a b : Associativity) : Ordering :=
  match a, b with
  | .left, .right => .lt
  | .right, .left => .gt
  | _, _ => .eq

def compareAlias (a b : Alias) : Ordering := (compare a.name b.name).then (compare a.named b.named)

def compareSymbol (a b : Symbol) : Ordering :=
  (compare a.key.1 b.key.1).then (compare a.key.2 b.key.2)

def compareLabels (a b : Step) : Ordering :=
  (compareOption compareAlias a.aliased b.aliased).then (compareOption compare a.field b.field)

def compareStep (a b : Step) : Ordering :=
  (compareSymbol a.symbol b.symbol).then <|
  (comparePrecedence a.precedence b.precedence).then <|
  (compareOption compareAssociativity a.associativity b.associativity).then <|
  compareLabels a b

/-! ## Numbered items -/

/-- What distinguishes an item: its rule and place, how it will be reduced, the names already
given to its children, and the steps ahead (the last two as numbers of interned lists). -/
structure ItemKey where
  rule : Nat
  place : Nat
  length : Nat
  dynamic : Int
  precedence : Precedence
  associativity : Option Associativity
  inherits : Bool
  behind : Nat
  ahead : Nat
  deriving BEq, Hashable

/-- An item: a line and a place in it. `inherits` tells that a hidden child with fields has been
read, after which the children's symbols matter too. -/
structure Item where
  line : Nat
  place : Nat
  inherits : Bool
  deriving Inhabited

/-- The items of a grammar, numbered in their order, with what the construction needs of each. -/
structure Items where
  lines : Array Line
  own : Array (Array Nat)
  items : Array Item
  /-- The item at the start of each line. -/
  start : Array Nat
  /-- The rule of the item. -/
  rule : Array Nat
  /-- The items that take the place of this one when an inlined rule is next. -/
  opened : Array (Array Nat)
  /-- The code of the next symbol. -/
  next : Array (Option Nat)
  /-- The item after the next symbol. -/
  after : Array Nat
  /-- The symbol behind the next one. -/
  second : Array (Option Nat)
  precedence : Array Precedence
  associativity : Array (Option Associativity)

/-- Compare items by place, rule, reduction and steps. -/
def compareItem (lines : Array Line) (a b : Item) : Ordering :=
  let la := lines.getD a.line default
  let lb := lines.getD b.line default
  let before (l : Line) (k : Nat) : Step := l.production.steps.getD (k - 1) default
  let prec (l : Line) (k : Nat) := if k == 0 then Precedence.unranked else (before l k).precedence
  let assoc (l : Line) (k : Nat) := if k == 0 then none else (before l k).associativity
  (compare a.place b.place).then <|
  (compare la.rule lb.rule).then <|
  (compare la.production.dynamic lb.production.dynamic).then <|
  (compare la.production.steps.size lb.production.steps.size).then <|
  (comparePrecedence (prec la a.place) (prec lb b.place)).then <|
  (compareOption compareAssociativity (assoc la a.place) (assoc lb b.place)).then <|
  (compare a.inherits b.inherits).then <|
  (List.range la.production.steps.size).foldl (fun acc i =>
    acc.then <|
      let x := la.production.steps.getD i default
      let y := lb.production.steps.getD i default
      if i < a.place then
        if a.inherits then (compareSymbol x.symbol y.symbol).then (compareLabels x y) else compareLabels x y
      else compareStep x y) .eq

/-- Interned lists: a list is the number of its head and of the rest. -/
structure Interned (α : Type) [BEq α] [Hashable α] where
  table : Std.HashMap (α × Nat) Nat := {}

def Interned.cons {α : Type} [BEq α] [Hashable α] (t : Interned α) (head : α) (rest : Nat) :
    Nat × Interned α :=
  match t.table[(head, rest)]? with
  | some n => (n, t)
  | none => (t.table.size + 1, ⟨t.table.insert (head, rest) (t.table.size + 1)⟩)

/-- Number the items of a grammar. Places behind an opened one are not reached in that line. -/
def Items.ofSyntax (s : Syntax) : Items := Id.run do
  let coding := Coding.ofSyntax s
  let fields := fieldsOf s
  let start : Line :=
    { rule := s.nonterminals.size, production := { steps := #[{ symbol := .nonterminal 0 }] } }
  let { lines, own } := Lines.ofSyntax s
  let lines := lines.push start
  let mut aheads : Interned Step := {}
  let mut behinds : Interned (Option Symbol × Option Alias × Option String) := {}
  let mut classes : Std.HashMap ItemKey Nat := {}
  let mut members : Array Item := #[]
  -- For every line, place and inheritance: the number of the item before sorting.
  let mut ids : Array (Array (Nat × Nat)) := #[]
  for l in [0:lines.size] do
    let line := lines.getD l default
    let steps := line.production.steps
    let mut ahead : Array Nat := #[0]
    for i in [0:steps.size] do
      let (n, t) := aheads.cons (steps.getD (steps.size - 1 - i) default) (ahead.back?.getD 0)
      aheads := t
      ahead := ahead.push n
    let mut behind := 0
    let mut behindFull := 0
    let mut mine : Array (Nat × Nat) := #[]
    let reached := match line.opened with
      | some (place, _) => place + 1
      | none => steps.size + 1
    for k in [0:reached] do
      let before := steps.getD (k - 1) default
      if k > 0 then
        let (n, t) := behinds.cons (none, before.aliased, before.field) behind
        behind := n
        let (m, t) := t.cons (some before.symbol, before.aliased, before.field) behindFull
        behindFull := m
        behinds := t
      let key (inherits : Bool) : ItemKey :=
        { rule := line.rule
          place := k
          length := steps.size
          dynamic := line.production.dynamic
          precedence := if k == 0 then .unranked else before.precedence
          associativity := if k == 0 then none else before.associativity
          inherits
          behind := if inherits then behindFull else behind
          ahead := ahead.getD (steps.size - k) 0 }
      let mut pair : Array Nat := #[]
      for inherits in [false, true] do
        match classes[key inherits]? with
        | some n => pair := pair.push n
        | none =>
          pair := pair.push members.size
          classes := classes.insert (key inherits) members.size
          members := members.push { line := l, place := k, inherits }
      mine := mine.push (pair.getD 0 0, pair.getD 1 0)
    ids := ids.push mine
  -- Number the items in their order.
  let order := (List.range members.size).toArray.qsort fun a b =>
    compareItem lines (members.getD a default) (members.getD b default) == .lt
  let mut rank : Array Nat := Array.replicate members.size 0
  for i in [0:order.size] do
    rank := rank.setIfInBounds (order.getD i 0) i
  let number (l k : Nat) (inherits : Bool) : Nat :=
    let pair := (ids.getD l #[]).getD k (0, 0)
    rank.getD (if inherits then pair.2 else pair.1) 0
  let items := order.map fun m => members.getD m default
  let stepAt (i : Item) (d : Nat) : Option Step := (lines.getD i.line default).production.steps[i.place + d]?
  return {
    lines
    own
    items
    start := (List.range lines.size).toArray.map fun l => number l 0 false
    rule := items.map fun i => (lines.getD i.line default).rule
    opened := items.map fun i =>
      match (lines.getD i.line default).opened with
      | some (place, ls) =>
        if place == i.place then ls.map fun l => number l i.place i.inherits
        else #[number i.line i.place i.inherits]
      | none => #[number i.line i.place i.inherits]
    next := items.map fun i => (stepAt i 0).map fun step => coding.code step.symbol
    after := items.map fun i =>
      match stepAt i 0 with
      | some step =>
        let inherits := match step.symbol with
          | .nonterminal j =>
            !((s.nonterminals.getD j default).visibility).isVisible && !(fields.getD j []).isEmpty
          | _ => false
        number i.line (i.place + 1) (i.inherits || inherits)
      | none => 0
    second := items.map fun i => (stepAt i 1).map fun step => coding.code step.symbol
    precedence := items.map fun i =>
      if i.place == 0 then .unranked
      else (((lines.getD i.line default).production.steps)[i.place - 1]?.map (·.precedence)).getD .unranked
    associativity := items.map fun i =>
      if i.place == 0 then none
      else ((lines.getD i.line default).production.steps)[i.place - 1]?.bind (·.associativity) }

end Graft.Automaton
