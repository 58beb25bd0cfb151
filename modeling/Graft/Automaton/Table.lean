import Graft.Automaton.Merge

set_option autoImplicit false

/-!
# The parse table

For every state and every token the table tells what to do. Several actions mean that the parser
has to follow each of them. The state with number zero is the one after an error: there every token
that can be recognised safely is taken, and the parser looks for a way back.
-/

namespace Graft.Automaton

open Graft.Grammar Graft.Lexicon

/-- What to do with a token. -/
inductive Action where
  /-- Read the token. One that `repeats` only continues a repetition, for which a reduction does
  as well. -/
  | shift (goal : Nat) (repeats : Bool)
  /-- Read the token and stay where we are. -/
  | shiftExtra
  | reduce (r : Reduction)
  | accept
  /-- Look for a way back from an error. -/
  | recover
  deriving BEq, Inhabited

/-- The table of a grammar. States, tokens and rules are numbers; zero as the state behind a rule
means that there is none. -/
structure Table where
  coding : Coding
  /-- The different lists of actions; the first is empty. -/
  cells : Array (List Action)
  /-- For every state and token code, the number of its list of actions. -/
  actions : Array (Array Nat)
  /-- For every state and rule, the state behind the rule. -/
  gotos : Array (Array Nat)
  labels : Array Labels
  /-- For every state, its set of tokens for the scanner. -/
  lexicalMode : Array Nat
  /-- The sets of ordinary tokens that the scanner looks for together, and whether the end of the
  text is among them. -/
  lexicalModes : Array (TokenSet × Bool)
  /-- For every state, the tokens of the hand-written scanner that are expected. -/
  externals : Array TokenSet
  keywords : TokenSet
  deriving Inhabited

namespace Table

def actionsAt (t : Table) (state token : Nat) : List Action :=
  t.cells.getD ((t.actions.getD state #[]).getD token 0) []

/-- The state behind a symbol, or zero. -/
def next (t : Table) (state symbol : Nat) : Nat :=
  if symbol < t.coding.tokenCount then
    match (t.actionsAt state symbol).getLast? with
    | some (.shift goal _) => goal
    | some .shiftExtra => state
    | _ => 0
  else (t.gotos.getD state #[]).getD (symbol - t.coding.tokenCount) 0

end Table

/-! ## Rows

While states are joined, the actions of a state are kept as numbers: for every token the choice of
reductions plus one, and the state behind it plus one.
-/

structure Row where
  /-- For every token, one plus the number of the choice of reductions, or zero. -/
  reduces : Array Nat
  /-- For every token, twice one plus the state behind it, plus one if it repeats, or zero. -/
  shifts : Array Nat
  /-- For every rule, the state behind it, or zero. -/
  gotos : Array Nat
  /-- How many entries there are. -/
  size : Nat := 0
  deriving Inhabited

namespace Row

/-- Replace the states that a row refers to. -/
def mapTargets (r : Row) (f : Nat → Nat) : Row :=
  { r with
    shifts := r.shifts.map fun n => if n == 0 then 0 else 2 * (f (n / 2 - 1) + 1) + n % 2
    gotos := r.gotos.map fun n => if n == 0 then 0 else f n }

/-- The states that a row refers to. -/
def targets (r : Row) : List Nat :=
  (r.shifts.toList.filterMap fun n => if n == 0 then none else some (n / 2 - 1)) ++
    r.gotos.toList.filter (· != 0)

/-- The actions of a group of states taken together. -/
def ofStates (c : Coding) (extras : TokenSet) (group : Array Nat) (states : List State) : Row := Id.run do
  let mut shifts : Array Nat := Array.replicate c.tokenCount 0
  let mut gotos : Array Nat := Array.replicate c.nonterminals 0
  let mut reduces : Array Nat := Array.replicate c.tokenCount 0
  let mut choices : Array (Nat × TokenSet) := #[]
  for s in states do
    for (x, goal, repeats) in s.shifts do
      shifts := shifts.setIfInBounds x (2 * (group.getD goal 0 + 1) + if repeats then 1 else 0)
    for (x, goal) in s.gotos do
      gotos := gotos.setIfInBounds (x - c.tokenCount) (group.getD goal 0)
    for (choice, tokens) in s.reduces do
      choices := addChoice choices choice tokens
  for (choice, tokens) in choices do
    for x in tokens.toList c.tokenCount do
      reduces := reduces.setIfInBounds x (choice + 1)
  let mut size := 0
  for x in [0:c.tokenCount] do
    if shifts.getD x 0 != 0 || reduces.getD x 0 != 0 || extras.contains x then size := size + 1
  for n in gotos do
    if n != 0 then size := size + 1
  return { reduces, shifts, gotos, size }

end Row

/-! ## Unit reductions

A state that can do nothing but turn one symbol into a hidden one is skipped: whoever would enter
it enters the state behind the hidden symbol at once.
-/

/-- The rules whose nodes nobody would miss. -/
def passingRules (s : Syntax) : Array Bool :=
  let named := s.nonterminals.foldl (fun acc v =>
    v.productions.foldl (fun acc p =>
      p.steps.foldl (fun acc step => match step.symbol, step.aliased with
        | .nonterminal i, some _ => acc.insert i
        | _, _ => acc) acc) acc) TokenSet.empty
  s.nonterminals.mapIdx fun i v =>
    v.visibility != .named && !named.contains i && !s.supertypes.contains (.nonterminal i) &&
      !s.extras.contains (.nonterminal i) && (s.defaultAliases.lookup (.nonterminal i)).isNone

/-- The hidden rule that a state only ever makes of one symbol. -/
def unitRule (passing : Array Bool) (reductions : Array Reduction) (choices : Array (Array Nat)) (row : Row) :
    Option Nat :=
  if row.shifts.any (· != 0) then none
  else
    let found := row.reduces.foldl (fun acc n => if n == 0 || acc.contains (n - 1) then acc else acc.push (n - 1))
      (#[] : Array Nat)
    let all := found.toList.flatMap fun c => (choices.getD c #[]).toList.map fun i => reductions.getD i default
    match all with
    | [] => none
    | r :: rest =>
      if passing.getD r.rule false && (r :: rest).all (fun q =>
          q.rule == r.rule && q.length == 1 && q.labels == 0 && q.dynamic == 0 && !q.accept) then some r.rule
      else none

/-- Follow a row's own gotos past states that are only unit reductions. -/
def skipUnits (units : Array (Option Nat)) (gotos : Array Nat) : Nat → Nat → Nat
  | 0, state => state
  | fuel + 1, state =>
    match units.getD state none with
    | none => state
    | some rule =>
      let goal := gotos.getD rule 0
      if goal == 0 then state else skipUnits units gotos fuel goal

/-! ## Lexical modes -/

/-- Whether two sets of tokens can be looked for together. -/
def compatible (f : TokenFacts) (never : Array TokenSet) (a b : TokenSet) : Bool :=
  let clash (only other : TokenSet) : Bool :=
    !only.isEmpty && (only.toList f.coding.tokens).any fun t => (never.getD t .empty).meets other
  !clash (a \ b) b && !clash (b \ a) a

/-- For every token, the tokens beside which the scanner must not look for it unless the grammar
does. -/
def TokenFacts.apart (f : TokenFacts) : Array TokenSet :=
  (List.range f.coding.tokens).toArray.map fun i =>
    TokenSet.ofList ((List.range f.coding.tokens).filter fun j =>
      f.overlaps.conflicts i j || (f.overlaps.get i j).ends ||
        (!(f.together.getD i .empty).contains j &&
          ((f.overlaps.get i j).goesOn || (f.overlaps.get j i).goesOn)))

/-- Put the states into as few modes as possible, in their order. -/
def modesOf (f : TokenFacts) (sets : Array (TokenSet × Bool)) : Array Nat × Array (TokenSet × Bool) :=
  let never := f.apart
  sets.foldl (fun (mode, modes) (tokens, ending) =>
    match modes.findIdx? fun m => compatible f never m.1 tokens with
    | some i => (mode.push i, modes.modify i fun (old, e) => (old ∪ tokens, e || ending))
    | none => (mode.push modes.size, modes.push (tokens, ending))) (#[], #[])

/-! ## The whole table -/

/-- Facts about the tokens of a grammar, given its states. -/
def TokenFacts.ofStates (s : Syntax) (overlaps : Overlaps) (profiles : Array Profile) : TokenFacts :=
  let coding := Coding.ofSyntax s
  let expected := (profiles.foldl (fun (acc : Numbered TokenSet) p => (acc.add (coding.terminals p.valid)).2)
    {}).values.toList
  let word := match s.word with
    | .terminal i => i
    | _ => 0
  let withoutWord := coincidence s.tokens.size (expected.filter fun v => !v.contains word)
  { coding
    overlaps
    together := coincidence s.tokens.size expected
    keywords := keywordsOf s.tokens overlaps word withoutWord
    word }

/-- The states of a grammar joined into groups. -/
def joinStates (s : Syntax) (states : Array State) (facts : TokenFacts) (profiles : Array Profile)
    (profileOf : Array Nat) : Groups :=
  let rivals := facts.rivals
  let watched := TokenSet.ofList (List.range facts.coding.externals ++
    s.externals.toList.filterMap fun e => e.internal.map fun i => facts.coding.code (.terminal i))
  let cores := states.map (·.core)
  let members := (List.range states.size).foldl (fun members i => members.modify (cores.getD i 0) (·.push i))
    (Array.replicate (cores.foldl max 0 + 1) #[])
  let apart (a b : Nat) : Bool :=
    (profiles.getD a default).apart facts.coding rivals watched (profiles.getD b default)
  let byProfile := ({ of := cores, members : Groups }.split (fun _ => keepByProfile profileOf apart) states.size).1
  let successors := states.map fun s => (s.shifts.map fun (x, goal, _) => (x, goal)) ++ s.gotos
  settleGroups successors states.size states.size byProfile

/-- The rows that are still referred to, in the order of their size, with the first two in front. -/
def orderRows (rows : Array Row) : Array Row :=
  let used := rows.foldl (fun used row => row.targets.foldl (fun used t => used.setIfInBounds t true) used)
    ((Array.replicate rows.size false).setIfInBounds 0 true |>.setIfInBounds 1 true)
  let kept := (List.range rows.size).filter fun i => used.getD i false
  let key (i : Nat) : Nat := (rows.getD i default).size
  let sorted := kept.take 2 ++ ((kept.drop 2).mergeSort fun a b => key b ≤ key a)
  let place := (sorted.zip (List.range sorted.length)).foldl
    (fun place (old, new) => place.setIfInBounds old new) (Array.replicate rows.size 0)
  sorted.toArray.map fun i => (rows.getD i default).mapTargets fun t => place.getD t 0

/-- Number the lists of actions of all rows. -/
def cellsOf (c : Coding) (extras recovering : TokenSet) (states : States) (rows : Array Row) :
    Array (List Action) × Array (Array Nat) := Id.run do
  let mut numbers : Std.HashMap Nat Nat := ({} : Std.HashMap Nat Nat).insert 0 0
  let mut cells : Array (List Action) := #[[]]
  let mut out : Array (Array Nat) := #[]
  let mut first := true
  for row in rows do
    let mut line : Array Nat := Array.emptyWithCapacity c.tokenCount
    for x in [0:c.tokenCount] do
      let reduces := row.reduces.getD x 0
      let shifts := row.shifts.getD x 0
      let extra := extras.contains x
      let recovers := first && recovering.contains x
      let key := 4 * (reduces * 0x1000000 + shifts) + (if extra then 1 else 0) + (if recovers then 2 else 0)
      match numbers[key]? with
      | some n => line := line.push n
      | none =>
        let reductions := if reduces == 0 then [] else
          (states.choices.getD (reduces - 1) #[]).toList.map fun i =>
            let r := states.reductions.getD i default
            if r.accept then Action.accept else .reduce r
        let actions := if extra then [Action.shiftExtra]
          else if recovers then [.recover]
          else if shifts == 0 then reductions
          else reductions ++ [.shift (shifts / 2 - 1) (shifts % 2 == 1)]
        numbers := numbers.insert key cells.size
        line := line.push cells.size
        cells := cells.push actions
    out := out.push line
    first := false
  return (cells, out)

/-- The table of a grammar; `limit` bounds the number of states before they are joined. -/
def Table.build (s : Syntax) (patterns : Patterns) (limit : Nat) : Table :=
  let states := States.build s limit
  let coding := Coding.ofSyntax s
  let extras := TokenSet.ofList (s.extras.map coding.code)
  let (numbered, profileOf) := states.states.foldl (fun ((known, out) : Numbered Profile × Array Nat) state =>
    let (n, known) := known.add (state.profile extras)
    (known, out.push n)) ({}, #[])
  let overlaps := Overlaps.ofPatterns patterns (followersOf s)
  let facts := TokenFacts.ofStates s overlaps numbered.values
  let groups := joinStates s states.states facts numbered.values profileOf
  let rows := groups.members.map fun members =>
    Row.ofStates coding extras groups.of (members.toList.map fun i => states.states.getD i default)
  let passing := passingRules s
  let units := rows.map (unitRule passing states.reductions states.choices)
  let rows := rows.map fun row => row.mapTargets (skipUnits units row.gotos rows.size)
  let rows := orderRows rows
  let recovering := TokenSet.ofList (coding.eof ::
    ((recoverable facts).toList coding.tokens).map (fun i => coding.code (.terminal i)) ++
    (List.range coding.externals).filter fun i => ((s.externals.getD i default).internal).isNone)
  let (cells, actions) := cellsOf coding extras recovering states rows
  let valid := actions.map fun line => (List.range coding.tokenCount).foldl
    (fun acc x => if line.getD x 0 == 0 then acc else acc.insert x) TokenSet.empty
  let lexical := valid.map fun v =>
    let tokens := coding.terminals v
    let plain := tokens \ facts.keywords
    (if tokens.meets facts.keywords then plain.insert facts.word else plain, v.contains coding.eof)
  let (lexicalMode, lexicalModes) := modesOf facts lexical
  { coding
    cells
    actions
    gotos := rows.map (·.gotos)
    labels := states.labels
    lexicalMode
    lexicalModes
    externals := valid.map fun v => TokenSet.ofList ((List.range coding.externals).filter fun i =>
      v.contains i || match (s.externals.getD i default).internal with
        | some t => v.contains (coding.code (.terminal t))
        | none => false)
    keywords := facts.keywords }

end Graft.Automaton
