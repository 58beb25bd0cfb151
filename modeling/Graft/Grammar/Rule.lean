import Graft.Text.CharSet

set_option autoImplicit false

/-!
# Grammar rules

The notation in which a grammar is written down. A rule is built from literals, character
patterns and references to other rules; attributes on a rule say how strongly it binds, under
which name its node appears and in which field of its parent it stands.
-/

namespace Graft.Grammar

/-! ## Patterns of tokens -/

/-- A regular pattern over characters. -/
inductive Pattern where
  | chars (set : CharSet)
  | seq (parts : List Pattern)
  | alt (options : List Pattern)
  | plus (body : Pattern)
  deriving BEq, Inhabited

namespace Pattern

/-- The pattern of the empty text. -/
def nothing : Pattern := seq []

/-- The characters of a text, one after the other. -/
def text (s : String) : Pattern := seq (s.toList.map fun c => chars (CharSet.single c))

/-- The pattern or nothing. -/
def opt (p : Pattern) : Pattern := alt [p, nothing]

/-- Any number of repetitions, also none. -/
def star (p : Pattern) : Pattern := alt [plus p, nothing]

/-- Exactly `n` repetitions. -/
def times (n : Nat) (p : Pattern) : Pattern := seq (List.replicate n p)

/-- At least `lo` repetitions and at most `hi`. -/
def between (lo hi : Nat) (p : Pattern) : Pattern :=
  seq (List.replicate lo p ++ List.replicate (hi - lo) (opt p))

end Pattern

/-! ## Attributes -/

/-- How strongly a rule binds: not stated, as a level, or as a name that the grammar ranks. -/
inductive Precedence where
  | unranked
  | level (n : Int)
  | named (name : String)
  deriving BEq, DecidableEq, Hashable, Inhabited

/-- On which side a chain of one operator nests. -/
inductive Associativity where
  | left
  | right
  deriving BEq, DecidableEq, Hashable, Inhabited

/-- The name under which a node appears in place of its own, and whether it counts as named. -/
structure Alias where
  name : String
  named : Bool
  deriving BEq, DecidableEq, Hashable, Inhabited

/-- What can be said about a rule besides what it matches. -/
structure Attributes where
  precedence : Precedence := .unranked
  associativity : Option Associativity := none
  dynamic : Int := 0
  aliased : Option Alias := none
  field : Option String := none
  isToken : Bool := false
  isImmediate : Bool := false
  deriving BEq, DecidableEq, Inhabited

/-! ## Rules -/

/-- A rule over references of type `σ`: names while a grammar is written, symbols later. -/
inductive Rule (σ : Type) where
  | blank
  | ref (target : σ)
  | literal (text : String)
  | pattern (body : Pattern)
  | seq (parts : List (Rule σ))
  | choice (options : List (Rule σ))
  | repeat1 (body : Rule σ)
  | tagged (attributes : Attributes) (body : Rule σ)
  deriving BEq, Inhabited

namespace Rule

variable {σ : Type}

/-- Set an attribute, on the attributes that are there already unless they close a token. -/
def tag (f : Attributes → Attributes) : Rule σ → Rule σ
  | tagged a r => if a.isToken then tagged (f {}) (tagged a r) else tagged (f a) r
  | r => tagged (f {}) r

/-- The options of a choice; any other rule is its own only option. -/
def options : Rule σ → List (Rule σ)
  | choice rs => rs
  | r => [r]

/-- A choice with nested choices opened and repeated options dropped. -/
def oneOf [BEq σ] (rs : List (Rule σ)) : Rule σ :=
  choice (((rs.map options).flatten).foldl (fun acc r => if acc.contains r then acc else acc ++ [r]) [])

end Rule

/-! ## The words of a grammar text -/

/-- A rule that refers to other rules by name. -/
abbrev NamedRule := Rule String

instance : Coe String NamedRule := ⟨Rule.literal⟩

/-- A reference to the rule of this name. -/
def ref (name : String) : NamedRule := .ref name

def seq (parts : List NamedRule) : NamedRule := .seq parts

def choice (options : List NamedRule) : NamedRule := Rule.oneOf options

def optional (r : NamedRule) : NamedRule := choice [r, .blank]

/-- One or more. -/
def many1 (r : NamedRule) : NamedRule := .repeat1 r

/-- None or more. -/
def many (r : NamedRule) : NamedRule := choice [many1 r, .blank]

def sepBy1 (separator r : NamedRule) : NamedRule := seq [r, many (seq [separator, r])]

def commaSep1 (r : NamedRule) : NamedRule := sepBy1 "," r

def commaSep (r : NamedRule) : NamedRule := optional (commaSep1 r)

def field (name : String) (r : NamedRule) : NamedRule := r.tag fun a => { a with field := some name }

/-- The node of this rule appears under the given name. -/
def renamed (r : NamedRule) (name : String) : NamedRule :=
  r.tag fun a => { a with aliased := some ⟨name, true⟩ }

/-- The node of this rule appears as the given literal. -/
def respelled (r : NamedRule) (text : String) : NamedRule :=
  r.tag fun a => { a with aliased := some ⟨text, false⟩ }

def prec (name : String) (r : NamedRule) : NamedRule :=
  r.tag fun a => { a with precedence := .named name }

def precLevel (n : Int) (r : NamedRule) : NamedRule := r.tag fun a => { a with precedence := .level n }

def precLeft (p : Precedence) (r : NamedRule) : NamedRule :=
  r.tag fun a => { a with precedence := p, associativity := some .left }

def precRight (p : Precedence) (r : NamedRule) : NamedRule :=
  r.tag fun a => { a with precedence := p, associativity := some .right }

def precDynamic (n : Int) (r : NamedRule) : NamedRule := r.tag fun a => { a with dynamic := n }

/-- Everything inside is one token. -/
def token (r : NamedRule) : NamedRule := r.tag fun a => { a with isToken := true }

/-- Everything inside is one token, with no blank before it. -/
def tokenImmediate (r : NamedRule) : NamedRule :=
  r.tag fun a => { a with isToken := true, isImmediate := true }

/-! ## Grammars -/

/-- A place in an ordering of precedences: a name, or the rule of a name. -/
inductive Rank where
  | name (name : String)
  | rule (name : String)
  deriving BEq, Inhabited

/-- A grammar: rules by name, the first being the start, and what holds for all of them. -/
structure RuleSet where
  rules : List (String × NamedRule)
  /-- Tokens that the scanner recognises by hand. -/
  externals : List NamedRule
  /-- Tokens that may stand between any two others. -/
  extras : List NamedRule
  /-- Rules that are replaced by their contents wherever they are used. -/
  inlined : List String
  /-- Rules that only list alternatives and give no node. -/
  supertypes : List String
  /-- Orderings of precedences, from the strongest to the weakest. -/
  orderings : List (List Rank)
  /-- The token of words, of which keywords are special cases. -/
  word : String

end Graft.Grammar
