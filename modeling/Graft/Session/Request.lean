import Graft.Import.Spec
import Graft.Markup
import Graft.Text.Quoted

set_option autoImplicit false

/-!
# Requests

What can be asked of a session. A request names its target; where that is in the text is found out
later.
-/

namespace Graft

/-- The names of the hooks that generated code calls, and the module they come from. -/
structure HookNames where
  path : String := "react"
  state : String := "useState"
  effect : String := "useEffect"
  deriving BEq, DecidableEq, Inhabited, Repr

structure SessionOptions where
  hooks : HookNames := {}
  /-- A source with errors is not accepted. -/
  strictParse : Bool := false
  /-- Code with more errors than the source is not given out. -/
  validateOutput : Bool := true
  deriving BEq, DecidableEq, Inhabited, Repr

/-- The element that a request is about. -/
inductive Target where
  /-- A node of the tree. -/
  | node (span : Span)
  /-- The first element that fits a description. -/
  | locate (locator : Locator)
  deriving BEq, DecidableEq, Inhabited, Repr

def Target.render : Target → String
  | node span => span.render
  | locate locator => locator.render

/-- Where markup goes. -/
inductive InsertPosition where
  | before
  | after
  | startOfChildren
  | endOfChildren
  deriving BEq, DecidableEq, Inhabited, Repr

def InsertPosition.render : InsertPosition → String
  | before => "before"
  | after => "after"
  | startOfChildren => "start of children of"
  | endOfChildren => "end of children of"

/-- A state variable with its setter. -/
structure StateVariable where
  name : String
  setter : String
  initialValue : String
  /-- The component to add it to; the default one if there is none. -/
  component : Option String := none
  deriving BEq, DecidableEq, Inhabited, Repr

structure Effect where
  body : String
  /-- Without a list, the effect has none; with an empty one it has an empty one. -/
  dependencies : Option (List String) := none
  component : Option String := none
  deriving BEq, DecidableEq, Inhabited, Repr

/-- What an element is wrapped in. -/
structure Wrapper where
  component : String
  /-- What stands in the opening tag. -/
  props : Option String := none
  /-- The import that the component comes from. -/
  source : Option ImportSpec := none
  deriving BEq, DecidableEq, Inhabited, Repr

namespace Wrapper

/-- Take the component from a module as its default. -/
def defaultFrom (w : Wrapper) (path : String) : Wrapper :=
  { w with source := some { path, defaultName := some w.component } }

/-- Take the component from a module by its name. -/
def namedFrom (w : Wrapper) (path : String) : Wrapper :=
  { w with source := some { path, named := [w.component] } }

end Wrapper

inductive Request where
  | addImport (spec : ImportSpec)
  | addState (state : StateVariable)
  | addEffect (effect : Effect)
  | wrap (target : Target) (wrapper : Wrapper)
  | insert (target : Target) (position : InsertPosition) (markup : String)
  | delete (target : Target)
  | replace (search replacement : String)
  deriving BEq, DecidableEq, Inhabited, Repr

def Request.render : Request → String
  | addImport spec => s!"add import from '{spec.path}'"
  | addState state => s!"add state '{state.name}'"
  | addEffect effect => match effect.component with
    | some component => s!"add effect to {component}"
    | none => "add effect"
  | wrap target wrapper => s!"wrap {target.render} in <{wrapper.component}>"
  | insert target position _ => s!"insert markup {position.render} {target.render}"
  | delete target => s!"delete {target.render}"
  | replace search _ => s!"replace text {Text.quoted search}"

end Graft
