import Graft.Grammar.Rule

set_option autoImplicit false

/-!
# The vocabulary of a grammar

A grammar text mixes spelling and structure. This module separates the two: every literal and
every pattern becomes a numbered token, and what is left of the rules refers to tokens and to
other rules by number.
-/

namespace Graft.Grammar

/-- What a rule can refer to. -/
inductive Symbol where
  /-- A token that the scanner recognises by hand. -/
  | external (index : Nat)
  /-- The end of the text. -/
  | eof
  | terminal (index : Nat)
  | nonterminal (index : Nat)
  deriving BEq, DecidableEq, Inhabited, Hashable

namespace Symbol

/-- The order in which symbols are visited: external tokens, the end, tokens, rules. -/
def key : Symbol → Nat × Nat
  | external i => (0, i)
  | eof => (1, 0)
  | terminal i => (2, i)
  | nonterminal i => (3, i)

end Symbol

/-- How a symbol shows in a syntax tree. -/
inductive Visibility where
  /-- It gives no node; its children belong to its parent. -/
  | hidden
  /-- As hidden, for symbols that the grammar text does not name. -/
  | auxiliary
  /-- Its node is named by its spelling. -/
  | anonymous
  | named
  deriving BEq, DecidableEq, Inhabited

namespace Visibility

/-- Names that start with an underscore are hidden. -/
def ofName (name : String) : Visibility := if name.startsWith "_" then hidden else named

def isVisible : Visibility → Bool
  | anonymous | named => true
  | hidden | auxiliary => false

end Visibility

/-- A token: its name, how it shows, and the literal or pattern that spells it. -/
structure Token where
  name : String
  visibility : Visibility
  body : NamedRule
  deriving Inhabited

/-- A token of the hand-written scanner, and the ordinary token that it stands for, if any. -/
structure ExternalToken where
  name : String
  visibility : Visibility
  internal : Option Nat
  deriving Inhabited

/-- A rule whose references are numbered. -/
structure Definition where
  name : String
  visibility : Visibility
  body : Rule Symbol
  deriving Inhabited

/-- A grammar with its tokens separated from its structure. -/
structure Vocabulary where
  tokens : Array Token
  externals : Array ExternalToken
  definitions : Array Definition
  /-- Tokens that may stand anywhere. -/
  extras : List Symbol
  /-- What is skipped in front of a token. -/
  separators : List Pattern
  inlined : List Symbol
  supertypes : List Symbol
  orderings : List (List Rank)
  word : Symbol

/-! ## Separating tokens -/

/-- The tokens found so far, and how often each is used. -/
structure TokenTable where
  tokens : Array (Token × Nat) := #[]

namespace TokenTable

/-- The number of a token; a token that is spelled the same is shared. -/
def intern (t : TokenTable) (body : NamedRule) (fresh : Unit → String × Visibility) : Nat × TokenTable :=
  match t.tokens.findIdx? (·.1.body == body) with
  | some i => (i, ⟨t.tokens.modify i fun (token, uses) => (token, uses + 1)⟩)
  | none =>
    let (name, visibility) := fresh ()
    (t.tokens.size, ⟨t.tokens.push (⟨name, visibility, body⟩, 1)⟩)

end TokenTable

/-- The state of the walk through one rule: the table, and how many unnamed tokens the rule has. -/
abbrev Separation := StateM (TokenTable × Nat)

/-- A token named by its spelling if it has one, else by the rule that it stands in. -/
def separateToken (owner : String) (body : NamedRule) (spelling : Option String) :
    Separation (Rule Symbol) := do
  let (table, unnamed) ← get
  match spelling with
  | some text =>
    let (i, table) := table.intern body fun _ => (text, .anonymous)
    set (table, unnamed)
    return .ref (.terminal i)
  | none =>
    let fresh := table.tokens.all (·.1.body != body)
    let (i, table) := table.intern body fun _ => (s!"{owner}_token{unnamed + 1}", .auxiliary)
    set (table, if fresh then unnamed + 1 else unnamed)
    return .ref (.terminal i)

mutual

/-- Replace the literals and patterns of a rule by references to tokens. -/
def separate (owner : String) (resolve : String → Symbol) : NamedRule → Separation (Rule Symbol)
  | .blank => return .blank
  | .ref name => return .ref (resolve name)
  | .literal text => separateToken owner (.literal text) (some text)
  | .pattern p => separateToken owner (.pattern p) none
  | .seq parts => return .seq (← separateAll owner resolve parts)
  | .choice options => return .choice (← separateAll owner resolve options)
  | .repeat1 body => return .repeat1 (← separate owner resolve body)
  | .tagged a body =>
    if a.isToken then
      let spelling := match body with
        | .literal text => some text
        | _ => none
      let plain := { a with isToken := false } == {}
      separateToken owner (if plain then body else .tagged a body) spelling
    else
      return .tagged a (← separate owner resolve body)

def separateAll (owner : String) (resolve : String → Symbol) :
    List NamedRule → Separation (List (Rule Symbol))
  | [] => return []
  | r :: rs => return (← separate owner resolve r) :: (← separateAll owner resolve rs)

end

mutual

/-- Rename the references of a rule. -/
def Rule.mapRefs (f : Symbol → Symbol) : Rule Symbol → Rule Symbol
  | .blank => .blank
  | .ref s => .ref (f s)
  | .literal text => .literal text
  | .pattern p => .pattern p
  | .seq parts => .seq (Rule.mapRefsAll f parts)
  | .choice options => .choice (Rule.mapRefsAll f options)
  | .repeat1 body => .repeat1 (body.mapRefs f)
  | .tagged a body => .tagged a (body.mapRefs f)

def Rule.mapRefsAll (f : Symbol → Symbol) : List (Rule Symbol) → List (Rule Symbol)
  | [] => []
  | r :: rs => r.mapRefs f :: Rule.mapRefsAll f rs

end

namespace RuleSet

/-- The symbol that a name refers to: a rule of the grammar, else an external token. -/
def resolve (g : RuleSet) (name : String) : Symbol :=
  match g.rules.findIdx? (·.1 == name) with
  | some i => .nonterminal i
  | none => match g.externals.findIdx? (· == .ref name) with
    | some i => .external i
    | none => .eof

/-- The rules with their tokens separated, in order, and the external tokens after them. -/
def separated (g : RuleSet) : (List (Rule Symbol) × List (Rule Symbol)) × TokenTable :=
  let one (owner : String) (r : NamedRule) : StateM TokenTable (Rule Symbol) := do
    let (r, (table, _)) := (separate owner g.resolve r).run (← get, 0)
    set table
    return r
  let all : StateM TokenTable (List (Rule Symbol) × List (Rule Symbol)) := do
    let rules ← g.rules.mapM fun (name, r) => one name r
    let externals ← g.externals.mapM (one "")
    return (rules, externals)
  all.run {}

/-- Separate the tokens of a grammar. A rule that is nothing but a token of its own becomes that
token and leaves the structure. -/
def vocabulary (g : RuleSet) : Vocabulary :=
  let ((rules, externals), table) := g.separated
  let names := (g.rules.map (·.1)).toArray
  -- For every rule, the token that it becomes, if it becomes one.
  let becomes : Array (Option Nat) := rules.toArray.mapIdx fun i r =>
    match r with
    | .ref (.terminal t) =>
      if i > 0 && (table.tokens[t]?.map (·.2)) == some 1 then some t else none
    | _ => none
  let shift : Array Nat := Id.run do
    let mut out := #[]
    let mut kept := 0
    for b in becomes do
      out := out.push kept
      if b.isNone then kept := kept + 1
    return out
  let rename : Symbol → Symbol
    | .nonterminal i => match becomes.getD i none with
      | some t => .terminal t
      | none => .nonterminal (shift.getD i i)
    | s => s
  let supertypes := g.supertypes.map g.resolve
  let visibility (i : Nat) : Visibility :=
    if supertypes.contains (.nonterminal i) then .hidden else Visibility.ofName (names.getD i "")
  let tokens := Id.run do
    let mut tokens := table.tokens.map (·.1)
    for i in [0:becomes.size] do
      match becomes.getD i none with
      | some t => tokens := tokens.modify t fun token =>
          { token with name := names.getD i "", visibility := visibility i }
      | none => pure ()
    return tokens
  let definitions := Id.run do
    let mut out := #[]
    let mut i := 0
    for r in rules do
      if (becomes.getD i none).isNone then
        out := out.push ⟨names.getD i "", visibility i, r.mapRefs rename⟩
      i := i + 1
    return out
  let externalTokens := (g.externals.zip externals).toArray.map fun (named, r) =>
    match r.mapRefs rename, named with
    | .ref (.terminal t), _ => { name := (tokens.getD t default).name, visibility := .named, internal := some t : ExternalToken }
    | _, .ref name => { name, visibility := Visibility.ofName name, internal := none }
    | _, _ => { name := "", visibility := .hidden, internal := none }
  { tokens
    externals := externalTokens
    definitions
    extras := g.extras.filterMap fun
      | .ref name => some (rename (g.resolve name))
      | _ => none
    separators := g.extras.filterMap fun
      | .pattern p => some p
      | _ => none
    inlined := g.inlined.map fun name => rename (g.resolve name)
    supertypes := supertypes.map rename
    orderings := g.orderings
    word := rename (g.resolve g.word) }

end RuleSet

end Graft.Grammar
