import Graft.Session.Generate

set_option autoImplicit false

/-!
# Sessions

A session has one source and a queue of requests. Some requests bring an import with them, which is
queued right behind.
-/

namespace Graft

structure Session where
  workspace : Workspace
  /-- Why the source is not accepted. -/
  parseFailure : Option String := none
  queue : List Request := []

namespace Session

/-- Begin a session on a source. -/
def start (parse : String → Document) (source : String) (options : SessionOptions) : Session :=
  let document := parse source
  { workspace := { document, options, parse }
    parseFailure :=
      if options.strictParse && document.root.flawed then
        some s!"source has {document.root.flaws.length} syntax error(s)"
      else none }

def push (s : Session) (requests : List Request) : Session := { s with queue := s.queue ++ requests }

/-- The import of a hook. -/
def hookImport (s : Session) (hook : String) : Request :=
  .addImport { path := s.workspace.options.hooks.path, named := [hook] }

def addImport (s : Session) (spec : ImportSpec) : Except AmbiguousImport Session := do
  spec.validate
  return s.push [.addImport spec]

def addState (s : Session) (state : StateVariable) : Session :=
  s.push [.addState state, s.hookImport s.workspace.options.hooks.state]

def addEffect (s : Session) (effect : Effect) : Session :=
  s.push [.addEffect effect, s.hookImport s.workspace.options.hooks.effect]

def wrap (s : Session) (target : Target) (wrapper : Wrapper) : Except AmbiguousImport Session := do
  match wrapper.source with
  | some spec =>
    spec.validate
    return s.push [.wrap target wrapper, .addImport spec]
  | none => return s.push [.wrap target wrapper]

def insert (s : Session) (target : Target) (position : InsertPosition) (markup : String) : Session :=
  s.push [.insert target position markup]

def delete (s : Session) (target : Target) : Session := s.push [.delete target]

def replace (s : Session) (search replacement : String) : Session := s.push [.replace search replacement]

/-- Queue a request with what it brings along. -/
def request (s : Session) : Request → Except AmbiguousImport Session
  | .addImport spec => s.addImport spec
  | .addState state => .ok (s.addState state)
  | .addEffect effect => .ok (s.addEffect effect)
  | .wrap target wrapper => s.wrap target wrapper
  | .insert target position markup => .ok (s.insert target position markup)
  | .delete target => .ok (s.delete target)
  | .replace search replacement => .ok (s.replace search replacement)

/-- Carry out all requests. -/
def generate (s : Session) : Outcome :=
  match s.parseFailure with
  | some reason => .failed [.parseFailure reason]
  | none => s.workspace.generate s.queue

end Session

end Graft
