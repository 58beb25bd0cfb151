import Graft.Proofs.Children
import Graft.Proofs.Declarations
import Graft.Proofs.EffectPlacement

set_option autoImplicit false

/-!
# The order of hooks

A state variable is declared right behind the brace that a body starts with, and the calls of all
effects of a body go to one place, which is chosen from its statements. That place lies further
behind, or it is the same, and then what trails comes before what leads. So a component declares its
state before it calls its effects, whichever was asked for first, and each of the two kinds stays in
the order of the queue.
-/

namespace Graft

/-! ## Hooks -/

/-- A statement that a request puts into a component. -/
inductive Hook where
  | state (state : StateVariable)
  | effect (effect : Effect)
  deriving DecidableEq, Repr

namespace Hook

def request : Hook → Request
  | state s => .addState s
  | effect e => .addEffect e

/-- The component that is asked for. -/
def component : Hook → Option String
  | state s => s.component
  | effect e => e.component

/-- Where a hook goes in a body, and how it reads there. -/
def insert (w : Workspace) (body : Node) : Hook → Insert
  | state s => w.placeState s body
  | effect e => w.placeEffect e body

/-- The edit that puts a hook into a body, if it is asked for at the given place of a queue. -/
def edit (w : Workspace) (body : Node) (i : Nat) (hook : Hook) : Edit :=
  Insert.edit (i + 1) (hook.insert w body)

end Hook

namespace Workspace

/-- The hook that is asked for at a place of a queue is accepted, for a component with the given
body. -/
structure HookAccepted (w : Workspace) (queue : List Request) (body : Node) (i : Nat)
    (hook : Hook) : Prop where
  asked : queue[i]? = some hook.request
  component : ∃ f, w.component? hook.component = some f ∧ f.body = body
  accepted : ∃ d, w.accepted? queue (hook.request, i) = some d

variable {w : Workspace} {queue : List Request} {body : Node}

/-! ## Where effects go -/

/-- What an accepted request for a hook puts in, and nothing else. -/
theorem HookAccepted.edits_eq {i : Nat} {hook : Hook} (h : w.HookAccepted queue body i hook)
    {d : Draft} (hd : w.accepted? queue (hook.request, i) = some d) :
    d.edits = [hook.edit w body i] := by
  obtain ⟨f, hfound, rfl⟩ := h.component
  obtain ⟨s, hsketched, rfl⟩ := sketched_of_accepted? hd
  cases hook with
  | state state =>
    cases hsketched with
    | state found =>
      obtain rfl := Option.some_inj.1 (found.symm.trans hfound)
      rfl
  | effect effect =>
    cases hsketched with
    | effect found =>
      obtain rfl := Option.some_inj.1 (found.symm.trans hfound)
      rfl

end Workspace

end Graft
