import Graft.Query.Step
import Graft.Tree.Document

set_option autoImplicit false

/-!
# Conditions of queries

Predicates restrict matches by the text of what they captured. Predicates with other names than the
known ones say nothing about a match.
-/

namespace Graft.Query

/-- The name of a capture. -/
def captureName (names : Array String) (id : Nat) : String := names.getD id ""

/-- Properties are not used, but have to be given in the right form: up to one capture, a key and
perhaps a value. -/
def checkProperty (row : Nat) (function : String) (names : Array String) (arguments : List Argument) :
    Except Fault Unit := do
  let invalid (reason : String) : Except Fault Unit :=
    .error (.predicate row (s!"Invalid arguments to {function} predicate. " ++ reason))
  if arguments.isEmpty || 3 < arguments.length then
    throw (.predicate row
      s!"Wrong number of arguments to {function} predicate. Expected 1 to 3, got {arguments.length}.")
  let rec go (captured : Bool) (texts : Nat) : List Argument → Except Fault Unit
    | [] => if texts == 0 then invalid "Missing key argument" else .ok ()
    | .capture id :: rest =>
      if captured then invalid s!"Unexpected second capture name @{captureName names id}" else go true texts rest
    | .text value :: rest =>
      if texts < 2 then go captured (texts + 1) rest else invalid s!"Unexpected third argument @{value}"
  go false 0 arguments

/-- The capture that a predicate is about. -/
def firstCapture (row : Nat) (function : String) : Argument → Except Fault Nat
  | .capture id => .ok id
  | .text value => .error (.predicate row
      (s!"First argument to #{function} predicate must be a capture name. Got literal \"" ++ value ++ "\"."))

/-- The two arguments that a predicate has to have. -/
def twoArguments (row : Nat) (function : String) : List Argument → Except Fault (Argument × Argument)
  | [a, b] => .ok (a, b)
  | arguments => .error (.predicate row
      s!"Wrong number of arguments to #{function} predicate. Expected 2, got {arguments.length}.")

/-- The texts of a list of choices. -/
def choices (row : Nat) (names : Array String) (arguments : List Argument) : Except Fault (List String) :=
  arguments.mapM fun
    | .text value => .ok value
    | .capture id => .error (.predicate row
        s!"Arguments to #any-of? predicate must be literals. Got capture @{captureName names id}.")

/-- The condition that a predicate states, if it states one. -/
def Condition.ofPredicate (row : Nat) (names : Array String) : List Argument → Except Fault (Option Condition)
  | [] => .ok none
  | .capture id :: _ => .error (.predicate row
      s!"Expected predicate to start with a function name. Got @{captureName names id}.")
  | .text function :: arguments => do
    let positive := !function.startsWith "not-" && !function.startsWith "any-not-"
    let all := !function.startsWith "any-"
    match function with
    | "eq?" | "not-eq?" | "any-eq?" | "any-not-eq?" =>
      let (a, b) ← twoArguments row "eq?" arguments
      let id ← firstCapture row "eq?" a
      match b with
      | .capture other => return some (.sameText id other positive all)
      | .text value => return some (.hasText id value positive all)
    | "match?" | "not-match?" | "any-match?" | "any-not-match?" =>
      let (a, b) ← twoArguments row "match?" arguments
      let id ← firstCapture row "match?" a
      match b with
      | .capture other => throw (.predicate row
          s!"Second argument to #match? predicate must be a literal. Got capture @{captureName names other}.")
      | .text value => match Text.Regex.read value with
        | some r => return some (.fits id r positive all)
        | none => throw (.predicate row s!"Invalid regex '{value}'")
    | "set!" | "is?" | "is-not?" =>
      checkProperty row function names arguments
      return none
    | "any-of?" | "not-any-of?" => match arguments with
      | [] => throw (.predicate row
          "Wrong number of arguments to #any-of? predicate. Expected at least 1, got 0.")
      | a :: rest =>
        let id ← firstCapture row "any-of?" a
        return some (.oneOf id (← choices row names rest) positive)
    | _ => return none

namespace Condition

/-- Whether a test comes out as it should on all nodes. If it only has to on any of them, no match is
excluded. -/
def decide (test : Node → Bool) (positive all : Bool) (nodes : List Node) : Bool :=
  !all || nodes.all fun n => test n == positive

/-- Whether the texts of two captures agree, node by node. -/
def decidePairs (d : Document) (positive all : Bool) : List Node → List Node → Bool
  | [], [] => true
  | m :: ms, n :: ns =>
    let same := d.text m == d.text n
    if same != positive && all then false
    else if same == positive && !all then true
    else decidePairs d positive all ms ns
  | _, _ => false

/-- Whether a condition holds of the captures of a match. -/
def holds (d : Document) (captures : List (Nat × Node)) (c : Condition) : Bool :=
  let nodes (id : Nat) : List Node := captures.filterMap fun (k, n) => if k == id then some n else none
  match c with
  | sameText left right positive all => decidePairs d positive all (nodes left) (nodes right)
  | hasText id text positive all => decide (fun n => d.text n == text) positive all (nodes id)
  | fits id r positive all => decide (fun n => r.occursIn (d.text n)) positive all (nodes id)
  | oneOf id texts positive => (nodes id).all fun n => texts.contains (d.text n) == positive

end Condition

end Graft.Query
