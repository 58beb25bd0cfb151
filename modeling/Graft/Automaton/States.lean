import Graft.Automaton.Conflict

set_option autoImplicit false

/-!
# States

A state is what the parser knows at some point: the items it may be in the middle of, each with
the tokens that can follow it. States are numbered in the order in which they are found, the first
two being the state after an error and the state at the start.
-/

namespace Graft.Automaton

open Graft.Grammar

/-! ## Reductions -/

/-- Names that a reduction gives to its children: aliases by place, and fields by place, where a
field may come from a hidden child. -/
structure Labels where
  aliases : Array (Option Alias) := #[]
  fields : Array (String × Nat × Bool) := #[]
  deriving BEq, Hashable, Inhabited

/-- The labels of a production, without trailing places that have no alias. -/
def labelsOf (s : Syntax) (fields : Array (List String)) (p : Production) : Labels :=
  let aliases := p.steps.toList.map (·.aliased)
  let own := (p.steps.mapIdx fun i step =>
    let direct := match step.field with
      | some name => [(name, i, false)]
      | none => []
    let inherited := match step.symbol with
      | .nonterminal j =>
        if ((s.nonterminals.getD j default).visibility).isVisible then []
        else (fields.getD j []).map fun name => (name, i, true)
      | _ => []
    direct ++ inherited).toList.flatten
  { aliases := ((aliases.reverse.dropWhile Option.isNone).reverse).toArray
    fields := (own.mergeSort fun a b => a.1 ≤ b.1).toArray }

/-- Make a symbol of the last `length` symbols; `accept` ends the parse instead. -/
structure Reduction where
  rule : Nat
  length : Nat
  dynamic : Int
  labels : Nat
  accept : Bool
  deriving BEq, Hashable, Inhabited

/-- A state: the reductions by token, the tokens that can be read and the rules that can be passed. -/
structure State where
  /-- The number of its set of items, whatever follows them. -/
  core : Nat
  /-- Lists of reductions, by number, with the tokens that allow each. -/
  reduces : Array (Nat × TokenSet) := #[]
  /-- For every token that can be read, the state after it and whether it continues a repetition. -/
  shifts : Array (Nat × Nat × Bool) := #[]
  /-- For every rule that can be passed, the state after it. -/
  gotos : Array (Nat × Nat) := #[]
  deriving Inhabited

/-- The states of a grammar, with the reductions that they refer to by number. -/
structure States where
  states : Array State := #[]
  reductions : Array Reduction := #[]
  /-- Lists of reductions. -/
  choices : Array (Array Nat) := #[]
  labels : Array Labels := #[]
  deriving Inhabited

/-! ## Numbering -/

/-- Values numbered in order of appearance. -/
structure Numbered (α : Type) [BEq α] [Hashable α] where
  values : Array α := #[]
  index : Std.HashMap α Nat := {}

namespace Numbered

variable {α : Type} [BEq α] [Hashable α]

/-- The number of a value, which is new if the value is. -/
def add (t : Numbered α) (a : α) : Nat × Numbered α :=
  match t.index[a]? with
  | some n => (n, t)
  | none => (t.values.size, ⟨t.values.push a, t.index.insert a t.values.size⟩)

def get (t : Numbered α) (n : Nat) (fallback : α) : α := t.values.getD n fallback

end Numbered

/-! ## Kernels

The items that a state starts from, before the rules that they begin with are added. An item and
the number of the set of tokens that can follow it are packed into one number.
-/

def pack (item follow : Nat) : Nat := item <<< 24 ||| follow

def packedItem (n : Nat) : Nat := n >>> 24

def packedFollow (n : Nat) : Nat := n &&& 0xFFFFFF

/-- The items of a kernel in order, with the following tokens of equal items joined. -/
def normalize (follows : Numbered TokenSet) (kernel : Array Nat) : Array Nat × Numbered TokenSet :=
  if kernel.size ≤ 1 then (kernel, follows)
  else (kernel.qsort (· < ·)).foldl (fun (out, follows) entry =>
    match out.back? with
    | none => (out.push entry, follows)
    | some previous =>
      if packedItem previous != packedItem entry then (out.push entry, follows)
      else if previous == entry then (out, follows)
      else
        let joined := follows.get (packedFollow previous) .empty ∪ follows.get (packedFollow entry) .empty
        let (n, follows) := follows.add joined
        (out.pop.push (pack (packedItem entry) n), follows))
    (Array.emptyWithCapacity kernel.size, follows)

/-! ## Construction -/

/-- What the construction knows of a grammar. -/
structure Blueprint where
  grammar : Syntax
  coding : Coding
  items : Items
  closure : Closure
  fields : Array (List String)
  names : Array String

def Blueprint.ofSyntax (s : Syntax) : Blueprint :=
  let items := Items.ofSyntax s
  { grammar := s
    coding := Coding.ofSyntax s
    items
    closure := Closure.ofSyntax s items
    fields := fieldsOf s
    names := s.nonterminals.map (·.name) }

namespace Blueprint

def auxiliary (b : Blueprint) (rule : Nat) : Bool :=
  (b.grammar.nonterminals.getD rule default).visibility == .auxiliary

/-- The line that stands for the whole text. -/
def startLine (b : Blueprint) : Nat := b.items.lines.size - 1

end Blueprint

/-- Everything that is numbered during the construction. -/
structure Search where
  follows : Numbered TokenSet := {}
  kernels : Numbered (Array Nat) := {}
  cores : Numbered (Array Nat) := {}
  reductions : Numbered Reduction := {}
  choices : Numbered (Array Nat) := {}
  labels : Numbered Labels := {}
  /-- The decisions made for a core, a token and the completed items that it may follow: the items
  to reduce, whether to read the token, and whether that continues a repetition. -/
  decided : Std.HashMap (Nat × Nat × List Nat) (List Nat × Bool × Bool) := {}
  /-- For every symbol, the items after it, while a state is being looked at. -/
  successors : Array (Array Nat)
  /-- For every rule, what can follow it, while a state is being looked at. -/
  opened : Array (Option TokenSet)

/-- The items of a state that matter for its actions: the completed ones with what can follow them,
and the unfinished ones. -/
structure Ready where
  done : Array (Nat × TokenSet) := #[]
  unfinished : Array Nat := #[]

/-- Follow every item of a kernel over its next symbol, and every rule that can begin there. -/
def expand (b : Blueprint) (kernel : Array Nat) (search : Search) : Ready × Search := Id.run do
  let { follows, kernels, cores, reductions, choices, labels, decided, successors, opened } := search
  let mut follows := follows
  let mut successors := successors
  let mut opened := opened
  let mut done : Array (Nat × TokenSet) := #[]
  let mut unfinished : Array Nat := #[]
  let mut touched : Array Nat := #[]
  for entry in kernel do
    let follow := follows.get (packedFollow entry) .empty
    for i in b.items.opened.getD (packedItem entry) #[] do
      match b.items.next.getD i none with
      | none => done := done.push (i, follow)
      | some x =>
        let target := pack (b.items.after.getD i 0) (packedFollow entry)
        successors := successors.modify x fun k => k.push target
        if (b.items.items.getD i default).place > 0 then unfinished := unfinished.push i
        if x ≥ b.coding.tokenCount then
          let behind := match b.items.second.getD i none with
            | some y => b.closure.first.getD y .empty
            | none => follow
          for (rule, f) in b.closure.begins.getD (x - b.coding.tokenCount) #[] do
            let add := if f.inherits then f.tokens ∪ behind else f.tokens
            match opened.getD rule none with
            | none =>
              touched := touched.push rule
              opened := opened.setIfInBounds rule (some add)
            | some old => opened := opened.setIfInBounds rule (some (old ∪ add))
  for rule in touched do
    let follow := (opened.getD rule none).getD .empty
    let (n, t) := follows.add follow
    follows := t
    opened := opened.setIfInBounds rule none
    for i in b.closure.empties.getD rule #[] do
      done := done.push (i, follow)
    for (x, targets) in b.closure.starts.getD rule #[] do
      for target in targets do
        let entry := pack target n
        successors := successors.modify x fun k => k.push entry
  return ({ done := done.qsort fun a b => a.1 < b.1, unfinished },
    { follows, kernels, cores, reductions, choices, labels, decided, successors, opened })

/-- Number the states after each symbol, in the order of the symbols. -/
def target (b : Blueprint) (search : Search) : (Array (Nat × Nat) × Array (Nat × Nat)) × Search := Id.run do
  let { follows, kernels, cores, reductions, choices, labels, decided, successors, opened } := search
  let mut follows := follows
  let mut kernels := kernels
  let mut successors := successors
  let mut shifts : Array (Nat × Nat) := #[]
  let mut gotos : Array (Nat × Nat) := #[]
  for x in [0:b.coding.symbolCount] do
    let next := successors.getD x #[]
    if next.size > 0 then
      successors := successors.setIfInBounds x #[]
      let (kernel, f) := normalize follows next
      follows := f
      let (state, ks) := kernels.add kernel
      kernels := ks
      if x < b.coding.tokenCount then shifts := shifts.push (x, state) else gotos := gotos.push (x, state)
  return ((shifts, gotos), { follows, kernels, cores, reductions, choices, labels, decided, successors, opened })

/-- The number of the reduction of a completed item. -/
def reductionOf (b : Blueprint) (search : Search) (i : Nat) : Nat × Search :=
  let item := b.items.items.getD i default
  let line := b.items.lines.getD item.line default
  let (l, labels) := search.labels.add (labelsOf b.grammar b.fields line.production)
  let (n, reductions) := search.reductions.add
    { rule := b.items.rule.getD i 0
      length := item.place
      dynamic := line.production.dynamic
      labels := l
      accept := item.line == b.startLine }
  (n, { search with labels, reductions })

/-- The number of the list of reductions of completed items. -/
def choiceOf (b : Blueprint) (search : Search) (items : List Nat) : Nat × Search :=
  let (numbers, search) := items.foldl (fun (numbers, search) i =>
    let (n, search) := reductionOf b search i
    (numbers.push n, search)) ((#[] : Array Nat), search)
  let (c, choices) := search.choices.add numbers
  (c, { search with choices })

/-- Decide between the actions of one token. -/
def decide (b : Blueprint) (core x : Nat) (ready : Ready) (canRead : Bool) (search : Search) :
    (List Nat × Bool × Bool) × Search :=
  let here := (ready.done.toList.filter fun d => d.2.contains x).map (·.1)
  match search.decided[(core, x, here)]? with
  | some decision => (decision, search)
  | none =>
    let going := ready.unfinished.toList.filter fun i =>
      match b.items.next.getD i none with
      | some y => (b.closure.first.getD y .empty).contains x
      | none => false
    let r := b.items.resolve b.names b.auxiliary b.grammar.orderings here going canRead
    let decision := (r.reduce, r.shift, r.repeats)
    (decision, { search with decided := search.decided.insert (core, x, here) decision })

/-- Join the tokens of equal choices. -/
def addChoice (known : Array (Nat × TokenSet)) (choice : Nat) (tokens : TokenSet) : Array (Nat × TokenSet) :=
  match known.findIdx? (·.1 == choice) with
  | some k => known.modify k fun (c, old) => (c, old ∪ tokens)
  | none => known.push (choice, tokens)

/-- The actions of a state: where only one completed item can be reduced and no token is read the
matter is clear, everywhere else it is decided token by token. -/
def actions (b : Blueprint) (core : Nat) (ready : Ready) (shifts : Array (Nat × Nat)) (search : Search) :
    (Array (Nat × TokenSet) × Array (Nat × Nat × Bool)) × Search := Id.run do
  let readable := shifts.foldl (fun acc (x, _) => acc.insert x) TokenSet.empty
  let (reducible, twice) := ready.done.foldl (fun (all, twice) (_, f) => (all ∪ f, twice ∪ (all ∩ f)))
    (TokenSet.empty, TokenSet.empty)
  let contested := twice ∪ (reducible ∩ readable)
  let mut search := search
  let mut reduces : Array (Nat × TokenSet) := #[]
  let mut unread := TokenSet.empty
  let mut repeating := TokenSet.empty
  for (i, f) in ready.done do
    let alone := f \ contested
    if !alone.isEmpty then
      let (c, s) := choiceOf b search [i]
      search := s
      reduces := addChoice reduces c alone
  for x in contested.toList (if contested.isEmpty then 0 else b.coding.tokenCount) do
    let ((reduce, read, repeats), s) := decide b core x ready (readable.contains x) search
    search := s
    if !reduce.isEmpty then
      let (c, s) := choiceOf b search reduce
      search := s
      reduces := addChoice reduces c (.singleton x)
    if !read then unread := unread.insert x
    if repeats then repeating := repeating.insert x
  let kept := (shifts.filter fun (x, _) => !unread.contains x).map fun (x, t) => (x, t, repeating.contains x)
  return ((reduces, kept), search)

/-- All states of a grammar; `limit` bounds their number. -/
def States.build (s : Syntax) (limit : Nat) : States := Id.run do
  let b := Blueprint.ofSyntax s
  let (ofEnd, follows) := ({} : Numbered TokenSet).add (.singleton b.coding.eof)
  let (_, kernels) := ({} : Numbered (Array Nat)).add #[]
  let (_, kernels) := kernels.add #[pack (b.items.start.getD b.startLine 0) ofEnd]
  let (_, labels) := ({} : Numbered Labels).add {}
  let mut search : Search :=
    { follows
      kernels
      labels
      successors := Array.replicate b.coding.symbolCount #[]
      opened := Array.replicate b.coding.nonterminals none }
  let mut states : Array State := #[]
  for id in [0:limit] do
    if id ≥ search.kernels.values.size then break
    let kernel := search.kernels.get id #[]
    let (core, cores) := search.cores.add (kernel.map packedItem)
    search := { search with cores }
    let (ready, s) := expand b kernel search
    let ((shifts, gotos), s) := target b s
    let ((reduces, shifts), s) := actions b core ready shifts s
    search := s
    states := states.push { core, reduces, shifts, gotos }
  return {
    states
    reductions := search.reductions.values
    choices := search.choices.values
    labels := search.labels.values }

end Graft.Automaton
