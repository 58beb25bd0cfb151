import Graft.Plan.Decode
import Graft.Session
import Graft.Text.Blank
import Graft.Toml

set_option autoImplicit false

/-!
# Plans

A plan is a list of requests that is written down once and carried out on many files. It is read
from TOML and must be complete: every request has the texts that it cannot do without, and no import
asks for what one statement cannot say.
-/

namespace Graft

structure Plan where
  name : String := ""
  description : Option String := none
  options : SessionOptions := {}
  requests : List Request := []
  deriving BEq, DecidableEq, Inhabited, Repr

/-- What a plan lacks. Requests are counted from one. -/
inductive PlanIssue where
  | noRequests
  | missingField (request : Nat) (field : String)
  | ambiguousImport (request : Nat) (cause : AmbiguousImport)
  deriving BEq, DecidableEq, Inhabited, Repr

def PlanIssue.message : PlanIssue → String
  | noRequests => "plan contains no requests"
  | missingField request field => s!"request #{request} missing required field '{field}'"
  | ambiguousImport request cause => s!"request #{request} has invalid configuration: {cause.message}"

namespace Request

/-- The tag of the element that a request is about. -/
def tagField : Target → List (String × String)
  | .locate locator => [("target.tag", locator.tag)]
  | .node _ => []

/-- The texts that a request cannot do without, under the names of their fields. -/
def requiredTexts : Request → List (String × String)
  | addImport spec => [("module", spec.path)]
  | addState state => [("name", state.name), ("setter", state.setter), ("initial_value", state.initialValue)]
  | addEffect effect => [("body", effect.body)]
  | wrap target wrapper => tagField target ++ [("component", wrapper.component)] ++
      wrapper.source.toList.map fun spec => ("import.module", spec.path)
  | insert target _ markup => tagField target ++ [("markup", markup)]
  | delete target => tagField target
  | replace search _ => [("search", search)]

/-- The import that a request asks for itself. -/
def ownImport? : Request → Option ImportSpec
  | addImport spec => some spec
  | wrap _ wrapper => wrapper.source
  | _ => none

/-- What the request at a place in a plan lacks. -/
def issues (number : Nat) (r : Request) : List PlanIssue :=
  (r.requiredTexts.filter fun f => Text.isAllBlank f.2).map (fun f => .missingField number f.1) ++
    match r.ownImport?.map ImportSpec.validate with
    | some (.error cause) => [.ambiguousImport number cause]
    | _ => []

end Request

/-- Why there is no plan. -/
inductive PlanError where
  /-- The text is no TOML, or not that of a plan. -/
  | malformed
  | incomplete (issues : List PlanIssue)
  deriving BEq, DecidableEq, Inhabited, Repr

/-- All that a plan lacks, line by line. -/
def PlanIssue.summary (issues : List PlanIssue) : String := "\n".intercalate (issues.map message)

/-- What is wrong with a plan, which may come from a file. -/
def PlanError.message (path : Option String) (e : PlanError) : String :=
  let plan := match path with
    | some path => "plan " ++ path
    | none => "plan"
  match e with
  | malformed => plan ++ " is not valid TOML"
  | incomplete issues => plan ++ " is invalid: " ++ PlanIssue.summary issues

namespace Plan

/-- Everything that a plan lacks. -/
def issues (p : Plan) : List PlanIssue :=
  (if p.requests.isEmpty then [.noRequests] else []) ++
    p.requests.zipIdx.flatMap fun (r, i) => r.issues (i + 1)

open Data in
/-- A plan as it is written down; it may lack something. -/
def decode (surplus : Bool) : Decoder Plan := fun d => do
  match ← fields? surplus [["meta"], ["options"], ["requests"]] d with
  | [about, options, requests] =>
    match ← orElse [none, none] (fields? surplus [["name"], ["description"]]) about with
    | [name, description] =>
      return { name := ← orElse "" text? name, description := ← orElse none (nullable text?) description
               options := ← orElse {} (SessionOptions.decode surplus) options
               requests := ← orElse [] (list? Request.decode) requests }
    | _ => none
  | _ => none

/-- Read a plan from TOML. -/
def read (source : String) : Except PlanError Plan :=
  match (Toml.read source).bind (decode true) with
  | none => .error .malformed
  | some p => if p.issues.isEmpty then .ok p else .error (.incomplete p.issues)

/-- Queue requests, counted from a number; the number of a request that cannot be queued is given. -/
def queueAll (s : Session) : Nat → List Request → Except (Nat × AmbiguousImport) Session
  | _, [] => .ok s
  | number, r :: rest => match s.request r with
    | .ok s => queueAll s (number + 1) rest
    | .error cause => .error (number, cause)

/-- Carry out a plan on a source. -/
def apply (parse : String → Document) (p : Plan) (source : String) : Except (Nat × AmbiguousImport) Outcome :=
  (queueAll (Session.start parse source p.options) 1 p.requests).map Session.generate

end Plan

/-- Why a request of a plan was not queued. -/
def ambiguousRequestMessage (number : Nat) (cause : AmbiguousImport) : String := s!"request #{number}: {cause.message}"

end Graft
