import Graft.Import.Resolve
import Graft.Text.Quoted

set_option autoImplicit false

/-!
# The outcome of a session

The generated code and what went wrong on the way. Most problems concern one request, which is then
left out; a few leave the session without code.
-/

namespace Graft

/-- What can go wrong. -/
inductive GenerationError where
  | parseFailure (reason : String)
  | importConflict (conflict : ImportConflict)
  | targetNotFound (request target : String) (suggestion : Option String)
  | textNotFound (search : String)
  | rangeConflict (request other : String) (start stop : Nat)
  | duplicateDeclaration (name component : String)
  | invalidEdit (request reason : String)
  | syntaxRegression (count : Nat)
  deriving BEq, DecidableEq, Inhabited, Repr

namespace GenerationError

def message : GenerationError → String
  | parseFailure reason => s!"parse failure: {reason}"
  | importConflict conflict => s!"import conflict: {conflict.message}"
  | targetNotFound request target suggestion =>
    let hint := match suggestion with
      | some tag => s!" (did you mean <{tag}>?)"
      | none => ""
    s!"target not found for {request}: {target}{hint}"
  | textNotFound search => s!"text not found: {Text.quoted search}"
  | rangeConflict request other start stop =>
    s!"range conflict: {request} overlaps {other} at bytes {start}..{stop}"
  | duplicateDeclaration name component => s!"duplicate declaration: '{name}' is already declared in {component}"
  | invalidEdit request reason => s!"invalid edit for {request}: {reason}"
  | syntaxRegression count => s!"generated code has {count} new syntax error(s)"

/-- Whether the error leaves the session without code. -/
def isFatal : GenerationError → Bool
  | parseFailure _ | syntaxRegression _ => true
  | _ => false

end GenerationError

/-- What a session comes to. -/
structure Outcome where
  /-- Nothing fatal happened; requests may still have been left out. -/
  success : Bool
  code : Option String
  errors : List GenerationError
  deriving BEq, DecidableEq, Inhabited, Repr

namespace Outcome

def emitted (code : String) (errors : List GenerationError) : Outcome := ⟨true, some code, errors⟩

def failed (errors : List GenerationError) : Outcome := ⟨false, none, errors⟩

/-- Whether every request was carried out. -/
def isClean (o : Outcome) : Bool := o.success && o.errors.isEmpty

end Outcome

end Graft
