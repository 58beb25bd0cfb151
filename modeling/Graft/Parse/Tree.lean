import Graft.Parse.Parser
import Graft.Tree.Document

set_option autoImplicit false

/-!
# From subtrees to syntax trees

Hidden symbols have no node: their children become children of the next symbol above that has one,
and so do the parts that the children play. A name given at a place takes the place of the symbol's
own.
-/

namespace Graft.Parse

open Graft.Automaton Graft.Grammar

/-- How a symbol shows in the tree: its kind and whether it is named. -/
structure Appearance where
  kind : String
  named : Bool
  deriving Inhabited

/-- How the symbols of a grammar show by themselves, by code. -/
def appearances (s : Syntax) : Array (Option Appearance) :=
  let c := Coding.ofSyntax s
  let plain (name : String) (v : Visibility) : Option Appearance :=
    match v with
    | .named => some ⟨name, true⟩
    | .anonymous => some ⟨name, false⟩
    | .hidden | .auxiliary => none
  (List.range c.symbolCount).toArray.map fun n =>
    let symbol := c.symbol n
    match s.defaultAliases.lookup symbol with
    | some a => some ⟨a.name, a.named⟩
    | none => match symbol with
      | .external i => let e := s.externals.getD i default; plain e.name e.visibility
      | .eof => none
      | .terminal i => let t := s.tokens.getD i default; plain t.name t.visibility
      | .nonterminal i => let v := s.nonterminals.getD i default; plain v.name v.visibility

/-- How a subtree shows, given the name that its place gives it. -/
def Subtree.appearance (looks : Array (Option Appearance)) (t : Subtree) (name : Option Alias) : Option Appearance :=
  match t.kind with
  | .error => some ⟨"ERROR", true⟩
  | .skipped => none
  | .symbol code => match name with
    | some a => some ⟨a.name, a.named⟩
    | none => looks.getD code none

/-- The part that labels give to a place directly. -/
def fieldAt (labels : Labels) (place : Nat) : Option String :=
  (labels.fields.find? fun (_, i, inherited) => i == place && !inherited).map (·.1)

/-- The family of kinds that a symbol stands for, if it stands for one. -/
def familyOf (l : Language) : Kind → Option String
  | .symbol code => match l.table.coding.symbol code with
    | .nonterminal i =>
      if l.grammar.supertypes.contains (.nonterminal i) then some (l.grammar.nonterminals.getD i default).name else none
    | _ => none
  | _ => none

/-- Mark the nodes of the child at a place whose part some later place plays again. -/
def markRecurring (labels : Labels) (place : Nat) (nodes : List Node) : List Node :=
  let later := labels.fields.filterMap fun (field, i, _) => if place < i then some field else none
  if later.isEmpty then nodes
  else nodes.map fun
    | .mk l cs => if l.field.any later.contains then .mk { l with fieldRecurs := true } cs else .mk l cs

/-- Put the nodes of a child before those of the children behind it. Only its last node has nothing
behind it in the child itself. -/
def joinNodes : List Node → List Node → List Node
  | [], later => later
  | [.mk l cs], later => .mk { l with followed := later.any (·.named) } cs :: later
  | n :: ns, later => n :: joinNodes ns later

mutual

/-- The nodes of a subtree: itself, or those of its children if it is hidden. `field` is the part
that it plays, `families` are those of the hidden symbols around it, `name` is the name that its place
gives it. -/
def Subtree.nodes (l : Language) (looks : Array (Option Appearance)) (source : Source) (field : Option String)
    (families : List String) (name : Option Alias) : Subtree → List Node
  | .mk s children =>
    let labels := l.table.labels.getD s.labels {}
    match (Subtree.mk s children).appearance looks name with
    | some look =>
      let flaw := if s.kind == .error then some Flaw.error else if s.missing then some .missing else none
      let below := Subtree.nodesOf l looks source labels none [] 0 children.toList
      [.mk
        { kind := look.kind
          named := look.named
          field
          families
          start := source.offset s.start
          stop := source.offset s.stop
          flaw
          flawed := (Subtree.mk s children).cost > 0
          extra := s.extra } below]
    | none => Subtree.nodesOf l looks source labels field ((familyOf l s.kind).toList ++ families) 0 children.toList

/-- The nodes of the children of a subtree; `place` counts those that are no extras. -/
def Subtree.nodesOf (l : Language) (looks : Array (Option Appearance)) (source : Source) (labels : Labels)
    (field : Option String) (families : List String) (place : Nat) : List Subtree → List Node
  | [] => []
  | t :: ts =>
    if t.summary.extra then
      joinNodes (t.nodes l looks source none families none)
        (Subtree.nodesOf l looks source labels field families place ts)
    else
      let own := (fieldAt labels place).or field
      let nodes := t.nodes l looks source own families (labels.aliases.getD place none)
      joinNodes (markRecurring labels place nodes)
        (Subtree.nodesOf l looks source labels field families (place + 1) ts)

end

/-- The syntax tree of a text. -/
def Language.tree (l : Language) (looks : Array (Option Appearance)) (source : Source) : Node :=
  match (parse l source).nodes l looks source none [] none with
  | root :: _ => (root.numbered 0).1
  | [] => default

/-- Everything needed to parse texts of a grammar. -/
structure Parser where
  language : Language
  looks : Array (Option Appearance)

/-- More states than the tables of a grammar have. -/
def stateLimit : Nat := 0x100000

/-- Prepare a grammar for parsing. -/
def Parser.ofGrammar (g : RuleSet) : Parser :=
  let vocabulary := g.vocabulary
  let s := vocabulary.syntaxOf
  let patterns := Lexicon.Patterns.ofTokens vocabulary.tokens vocabulary.separators
  let table := Table.build s patterns stateLimit
  let c := table.coding
  let modes := table.lexicalModes.toList.map fun (tokens, ending) => (tokens.toList c.tokens, ending)
  let scanner := Lexicon.Scanner.build patterns (modes ++ [(table.keywords.toList c.tokens, false)]) stateLimit
  let word := c.code s.word
  let terminals := (List.range c.tokens).map fun i => c.code (.terminal i)
  let order := word :: terminals.filter (· != word) ++ List.range c.externals
  let rank := ((c.eof :: order ++ (List.range c.nonterminals).map (c.tokenCount + ·)).zip
    (List.range c.symbolCount)).foldl (fun rank (code, i) => rank.setIfInBounds code i) (Array.replicate c.symbolCount 0)
  let looks := appearances s
  { language :=
      { grammar := s
        table
        scanner
        keywordMode := modes.length
        word
        visible := looks.map Option.isSome
        order := order.toArray
        rank }
    looks }

/-- The syntax tree of a text. -/
def Parser.tree (p : Parser) (text : String) : Node := p.language.tree p.looks (.ofString text)

/-- A text with its syntax tree. -/
def Parser.document (p : Parser) (text : String) : Document := ⟨text, p.tree text⟩

end Graft.Parse
