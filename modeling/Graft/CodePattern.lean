import Graft.Tree.Document

set_option autoImplicit false

/-!
# Code patterns

A pattern is a piece of code with holes: `$NAME` stands for one node and `$$$NAME` for any number of
neighbours. It is parsed like other code and then compared with the nodes of a tree. Everything in the
pattern has to be found; punctuation in the code that the pattern does not have is passed over, and
so is whatever comes behind the last part of it.
-/

namespace Graft

/-- What a hole takes. A name that starts with an underscore does not bind anything. -/
inductive Hole where
  | one (name : String) (named : Bool)
  | anyOne (named : Bool)
  | many (name : String)
  | anyMany
  deriving BEq, DecidableEq, Inhabited, Repr

namespace Hole

def isNameStart (c : Char) : Bool := c.isUpper || c == '_'

def isNameChar (c : Char) : Bool := isNameStart c || c.isDigit

/-- The hole that a text stands for, if it stands for one. Two marks take nodes without a name too. -/
def ofText? (text : List Char) : Option Hole :=
  let single (named : Bool) (name : List Char) : Option Hole :=
    if !name.head?.any isNameStart || !name.all isNameChar then none
    else if name.head? == some '_' then some (.anyOne named)
    else some (.one (String.ofList name) named)
  match text with
  | ['$', '$', '$'] => some .anyMany
  | '$' :: '$' :: '$' :: name =>
    if !name.all isNameChar then none
    else if name.head? == some '_' then some .anyMany
    else some (.many (String.ofList name))
  | '$' :: '$' :: name => single false name
  | '$' :: name => single true name
  | _ => none

end Hole

inductive CodePattern where
  | hole (h : Hole)
  /-- A node without children. -/
  | leaf (kind : String) (named : Bool) (text : String)
  | tree (kind : String) (named : Bool) (children : List CodePattern)
  deriving Inhabited

/-- Why a text is no pattern: it has to be one piece of code. -/
inductive PatternError where
  | nothing (text : String)
  | several (text : String)
  deriving BEq, DecidableEq, Inhabited, Repr

namespace PatternError

def reason : PatternError → String
  | nothing text => "No AST root is detected. Please check the pattern source `" ++ text ++ "`."
  | several text => "Multiple AST nodes are detected. Please check the pattern source `" ++ text ++ "`."

def text : PatternError → String
  | nothing text => text
  | several text => text

def message (e : PatternError) : String := "invalid pattern `" ++ e.text ++ "`: " ++ e.reason

end PatternError

namespace CodePattern

/-! ## Compiling -/

/-- Whether a node is nothing more than its first child. -/
def isWrapping (n : Node) : Bool :=
  match n.children with
  | [_] => true
  | [_, c] => c.flaw == some .missing || c.kind == ""
  | _ => false

/-- The first node on the way down from a node that is more than its first child. -/
def core : Node → Node
  | .mk l [] => .mk l []
  | .mk l (first :: rest) => if isWrapping (.mk l (first :: rest)) then core first else .mk l (first :: rest)

mutual

/-- The pattern of a node. Nodes that are missing from the text are left out. -/
def ofNode (d : Document) : Node → CodePattern
  | .mk l cs =>
    let text := d.text (.mk l cs)
    match Hole.ofText? text.toList with
    | some h => hole h
    | none => if cs.isEmpty then leaf l.kind l.named text else tree l.kind l.named (ofNodes d cs)

def ofNodes (d : Document) : List Node → List CodePattern
  | [] => []
  | n :: ns => if n.flaw == some .missing then ofNodes d ns else ofNode d n :: ofNodes d ns

end

/-- Compile a pattern. -/
def compile (parse : String → Document) (text : String) : Except PatternError CodePattern :=
  let d := parse text
  if d.root.children.isEmpty then .error (.nothing text)
  else if !isWrapping d.root then .error (.several text)
  else .ok (ofNode d (core d.root))

end CodePattern

/-! ## Bindings -/

/-- What the holes of a pattern have taken. -/
structure Bindings where
  one : List (String × Node) := []
  many : List (String × List Node) := []

namespace Node

/-- Whether a node has no named children. -/
def isSimple (n : Node) : Bool := n.children.all (!·.named)

mutual

/-- Whether two nodes are the same code. Simple nodes are compared by their text. -/
def sameCode (d : Document) : Node → Node → Bool
  | .mk l cs, n =>
    if l.id == n.id then true
    else if (Node.mk l cs).isSimple || n.isSimple then d.text (.mk l cs) == d.text n
    else l.kind == n.kind && l.named == n.named && sameCodes d cs n.children

def sameCodes (d : Document) : List Node → List Node → Bool
  | [], [] => true
  | m :: ms, n :: ns => sameCode d m n && sameCodes d ms ns
  | _, _ => false

end

end Node

namespace Bindings

/-- Bind one node; a name that is bound already has to stand for the same code. -/
def bindOne (d : Document) (b : Bindings) (name : String) (n : Node) : Option Bindings :=
  match b.one.lookup name with
  | some m => if m.sameCode d n then some { b with one := (name, n) :: b.one } else none
  | none => some { b with one := (name, n) :: b.one }

/-- Bind neighbours; the named ones have to be the same code each time. -/
def bindMany (d : Document) (b : Bindings) (name : String) (ns : List Node) : Option Bindings :=
  match b.many.lookup name with
  | some ms =>
    if Node.sameCodes d (ms.filter (·.named)) (ns.filter (·.named)) then some { b with many := (name, ns) :: b.many }
    else none
  | none => some { b with many := (name, ns) :: b.many }

/-- Bind the neighbours that a hole takes, without the last ones, which stand for skipped punctuation. -/
def bindRow (d : Document) (b : Bindings) (name : Option String) (ns : List Node) (skipped : Nat) : Option Bindings :=
  match name with
  | some name => b.bindMany d name (ns.take (ns.length - skipped))
  | none => some b

/-- The texts bound to names, in the order of the names. -/
def texts (d : Document) (b : Bindings) : List (String × String) :=
  let names := (b.many.map (·.1) ++ b.one.map (·.1)).eraseDups.mergeSort (fun a b => a ≤ b)
  names.map fun name => match b.many.lookup name with
    | some ns => (name, "[" ++ ", ".intercalate (ns.map d.text) ++ "]")
    | none => (name, ((b.one.lookup name).map d.text).getD "")

end Bindings

/-! ## Matching -/

/-- What came of comparing a part of a pattern with a node. -/
inductive Comparison where
  | fits
  /-- The node may be passed over. -/
  | skip
  | differs
  deriving BEq, DecidableEq, Inhabited, Repr

namespace CodePattern

/-- The name of a hole for neighbours, if it has one. -/
def many? : CodePattern → Option (Option String)
  | hole (.many name) => some (some name)
  | hole .anyMany => some none
  | _ => none

/-- Whether a part of a pattern is punctuation. -/
def isTrivial : CodePattern → Bool
  | leaf _ named _ => !named
  | _ => false

/-- Whether nodes of a kind can stand for a part of a pattern; errors in a pattern fit everything. -/
def kindFits (kind : String) (named : Bool) (n : Node) : Bool := (kind == n.kind && named == n.named) || kind == "ERROR"

/-- Compare a hole with a node. -/
def compareHole (d : Document) (n : Node) (b : Bindings) : Hole → Comparison × Bindings
  | .one name named =>
    if named && !n.named then (.differs, b)
    else match b.bindOne d name n with
      | some b => (.fits, b)
      | none => (.differs, b)
  | .anyOne named => (if named && !n.named then .differs else .fits, b)
  | .anyMany => (.fits, b)
  | .many name => match b.bindOne d name n with
    | some b => (.fits, b)
    | none => (.differs, b)

/-- Pass over nodes until one fits: what is left behind it, if any does. -/
def skipTo (test : Node → Bindings → Comparison × Bindings) : List Node → Bindings → Option (List Node) × Bindings
  | [], b => (none, b)
  | n :: ns, b => match test n b with
    | (.fits, b) => (some ns, b)
    | (.skip, b) => skipTo test ns b
    | (.differs, b) => (none, b)

/-- The nodes in front of the first one that fits, and from there on. -/
def splitAtFit (test : Node → Bindings → Comparison × Bindings) :
    List Node → Bindings → Option (List Node × List Node) × Bindings
  | [], b => (none, b)
  | n :: ns, b => match test n b with
    | (.fits, b) => (some ([], n :: ns), b)
    | (_, b) => match splitAtFit test ns b with
      | (some (before, rest), b) => (some (n :: before, rest), b)
      | (none, b) => (none, b)

mutual

/-- Compare a part of a pattern with a node. What has been bound on the way stays bound. -/
def compareNode (d : Document) : CodePattern → Node → Bindings → Comparison × Bindings
  | hole h, n, b => compareHole d n b h
  | leaf kind named text, n, b =>
    if kindFits kind named n && (!named || text == d.text n) then (.fits, b)
    else (if n.named then .differs else .skip, b)
  | tree kind named parts, n, b =>
    if !kindFits kind named n || n.children.isEmpty then (.differs, b)
    else match compareRow d parts none n.children b with
      | (true, b) => (.fits, b)
      | (false, b) => (.differs, b)

/-- Compare parts with neighbours. `pending` is a hole for neighbours that has not been filled yet, and
how much punctuation behind it was skipped in the pattern. -/
def compareRow (d : Document) : List CodePattern → Option (Option String × Nat) → List Node → Bindings → Bool × Bindings
  | [], none, _, b => (true, b)
  | [], some (name, skipped), ns, b => match b.bindRow d name ns skipped with
    | some b => (true, b)
    | none => (false, b)
  | p :: ps, none, ns, b => match p.many? with
    | some name => compareRow d ps (some (name, 0)) ns b
    | none => match skipTo (compareNode d p) ns b with
      | (some rest, b) =>
        if ps.isEmpty then (true, b) else if rest.isEmpty then (false, b) else compareRow d ps none rest b
      | (none, b) => (false, b)
  | p :: ps, some (name, skipped), ns, b =>
    if p.isTrivial then compareRow d ps (some (name, skipped + 1)) ns b
    else match p.many? with
      | some other => match ns with
        | n :: next :: rest => match b.bindRow d name [n] skipped with
          | some b => compareRow d ps (some (other, 0)) (next :: rest) b
          | none => (false, b)
        | _ => (false, b)
      | none => match splitAtFit (compareNode d p) ns b with
        | (some (before, n :: rest), b) => match b.bindRow d name before skipped with
          | some b => match compareNode d p n b with
            | (.fits, b) =>
              if ps.isEmpty then (true, b) else if rest.isEmpty then (false, b) else compareRow d ps none rest b
            | (_, b) => (false, b)
          | none => (false, b)
        | (_, b) => (false, b)

end

/-- Whether a node is worth comparing with a pattern. -/
def mayFit (n : Node) : CodePattern → Bool
  | hole _ => true
  | leaf kind named _ => kind == n.kind && named == n.named
  | tree kind named _ => kindFits kind named n

end CodePattern

/-- A node that a pattern was found at. -/
structure PatternMatch where
  start : Nat
  stop : Nat
  text : String
  /-- What the holes took, in the order of their names. -/
  captures : List (String × String)
  deriving BEq, DecidableEq, Inhabited, Repr

/-- All nodes of a document that a pattern fits, in the order of the text. -/
def CodePattern.findAll (p : CodePattern) (d : Document) : List PatternMatch :=
  d.root.walk.filterMap fun n =>
    if !p.mayFit n then none
    else match p.compareNode d n {} with
      | (.fits, b) => some ⟨n.start, n.stop, d.text n, b.texts d⟩
      | _ => none

end Graft
