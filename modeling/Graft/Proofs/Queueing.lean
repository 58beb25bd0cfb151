import Mathlib.Tactic.ByContra
import Graft.Plan

set_option autoImplicit false

/-!
# What is queued

Every request that is accepted is queued with the import that it brings along right behind it
(`Request.expansion`), whichever operation it comes through. A request whose own import is ambiguous
is refused before anything is queued, so nothing in a queue is ambiguous.
-/

namespace Graft

/-! ## Ambiguous requests -/

/-- Both a default and a namespace are asked for. -/
def ImportSpec.Ambiguous (s : ImportSpec) : Prop :=
  s.defaultName.isSome = true ∧ s.namespaceName.isSome = true

theorem ImportSpec.validate_eq_ok_iff {s : ImportSpec} : s.validate = .ok () ↔ ¬ s.Ambiguous := by
  rw [validate, Ambiguous]
  cases s.defaultName <;> cases s.namespaceName <;> simp

namespace Request

/-- The import that a request asks for itself is ambiguous. -/
def Ambiguous (r : Request) : Prop := ∃ spec, r.ownImport? = some spec ∧ spec.Ambiguous

/-- Whether a request can be queued. -/
def admission (r : Request) : Except AmbiguousImport Unit :=
  (r.ownImport?.map ImportSpec.validate).getD (.ok ())

theorem admission_eq_ok_iff {r : Request} : r.admission = .ok () ↔ ¬ r.Ambiguous := by
  rw [admission, Ambiguous]
  cases r.ownImport? with
  | none => simp
  | some spec => simp [ImportSpec.validate_eq_ok_iff]

/-! ## Requests with what they bring along -/

/-- The import that a request brings along. -/
def broughtImport? (hooks : HookNames) : Request → Option ImportSpec
  | addState _ => some { path := hooks.path, named := [hooks.state] }
  | addEffect _ => some { path := hooks.path, named := [hooks.effect] }
  | wrap _ wrapper => wrapper.source
  | _ => none

/-- A request and the import that it brings along. -/
def expansion (hooks : HookNames) (r : Request) : List Request :=
  r :: ((r.broughtImport? hooks).map .addImport).toList

theorem mem_expansion {hooks : HookNames} {r q : Request} :
    q ∈ r.expansion hooks ↔ q = r ∨ ∃ spec, r.broughtImport? hooks = some spec ∧
      q = .addImport spec := by
  rw [expansion, List.mem_cons, Option.mem_toList, Option.map_eq_some_iff]
  simp only [eq_comm]

/-- The import that a request brings along is its own, or that of a hook, which is never
ambiguous. -/
theorem not_ambiguous_of_mem_expansion {hooks : HookNames} {r q : Request} (h : ¬ r.Ambiguous)
    (hq : q ∈ r.expansion hooks) : ¬ q.Ambiguous := by
  obtain rfl | ⟨spec, hspec, rfl⟩ := mem_expansion.1 hq
  · exact h
  · rintro ⟨_, ⟨⟩, hambiguous⟩
    cases r with
    | addState | addEffect =>
      cases hspec
      cases hambiguous.1
    | wrap target wrapper => exact h ⟨spec, hspec, hambiguous⟩
    | addImport | insert | delete | replace => cases hspec

end Request

namespace Session

@[simp] theorem push_queue (s : Session) (requests : List Request) :
    (s.push requests).queue = s.queue ++ requests := rfl

@[simp] theorem push_workspace (s : Session) (requests : List Request) :
    (s.push requests).workspace = s.workspace := rfl

theorem push_push (s : Session) (requests requests' : List Request) :
    (s.push requests).push requests' = s.push (requests ++ requests') := by
  simp only [push, List.append_assoc]

/-- **A request is queued with what it brings along, or it is refused.** -/
theorem request_eq (s : Session) (r : Request) :
    s.request r = r.admission.map fun _ => s.push (r.expansion s.workspace.options.hooks) := by
  cases r with
  | addImport spec =>
    show (spec.validate >>= fun _ => .ok (s.push [.addImport spec])) = spec.validate.map _
    cases spec.validate <;> rfl
  | wrap target wrapper =>
    rcases wrapper with ⟨component, props, _ | spec⟩
    · rfl
    · show (spec.validate >>= fun _ => .ok (s.push _)) = spec.validate.map _
      cases spec.validate <;> rfl
  | addState | addEffect | insert | delete | replace => rfl

/-! ## Calls -/

/-- A call on a session: of the operation for a kind of request, or of the one for requests of all
kinds. -/
inductive Call where
  | addImport (spec : ImportSpec)
  | addState (state : StateVariable)
  | addEffect (effect : Effect)
  | wrap (target : Target) (wrapper : Wrapper)
  | insert (target : Target) (position : InsertPosition) (markup : String)
  | delete (target : Target)
  | replace (search replacement : String)
  | request (request : Request)

/-- What a call asks for. -/
def Call.requested : Call → Request
  | addImport spec => .addImport spec
  | addState state => .addState state
  | addEffect effect => .addEffect effect
  | wrap target wrapper => .wrap target wrapper
  | insert target position markup => .insert target position markup
  | delete target => .delete target
  | replace search replacement => .replace search replacement
  | request r => r

/-- What a call returns. -/
def call (s : Session) : Call → Except AmbiguousImport Session
  | .addImport spec => s.addImport spec
  | .addState state => .ok (s.addState state)
  | .addEffect effect => .ok (s.addEffect effect)
  | .wrap target wrapper => s.wrap target wrapper
  | .insert target position markup => .ok (s.insert target position markup)
  | .delete target => .ok (s.delete target)
  | .replace search replacement => .ok (s.replace search replacement)
  | .request r => s.request r

/-- It does not matter which operation a request comes through. -/
theorem call_eq (s : Session) (c : Call) : s.call c = s.request c.requested := by
  cases c <;> rfl

theorem exists_call_eq_error_iff {s : Session} {c : Call} :
    (∃ e, s.call c = .error e) ↔ c.requested.Ambiguous := by
  rw [← not_iff_not, ← Request.admission_eq_ok_iff, call_eq, request_eq]
  cases c.requested.admission <;> simp [Except.map]

/-! ## Calls on a session that is changed in place

A session that is changed in place takes one request at a time, and keeps what it has taken if there
is an error later on. -/

abbrev InPlace := EStateM AmbiguousImport Session

namespace InPlace

def push (r : Request) : InPlace Unit := modify fun s => s.push [r]

def check (spec : ImportSpec) : InPlace Unit :=
  match spec.validate with
  | .ok () => pure ()
  | .error e => throw e

def addImport (spec : ImportSpec) : InPlace Unit := do
  check spec
  push (.addImport spec)

def addState (state : StateVariable) : InPlace Unit := do
  push (.addState state)
  let s ← get
  push (s.hookImport s.workspace.options.hooks.state)

def addEffect (effect : Effect) : InPlace Unit := do
  push (.addEffect effect)
  let s ← get
  push (s.hookImport s.workspace.options.hooks.effect)

def wrap (target : Target) (wrapper : Wrapper) : InPlace Unit := do
  wrapper.source.forM check
  push (.wrap target wrapper)
  wrapper.source.forM fun spec => push (.addImport spec)

end InPlace

/-- What a call does to a session in place. -/
def Call.inPlace : Call → InPlace Unit
  | addImport spec | request (.addImport spec) => InPlace.addImport spec
  | addState state | request (.addState state) => InPlace.addState state
  | addEffect effect | request (.addEffect effect) => InPlace.addEffect effect
  | wrap target wrapper | request (.wrap target wrapper) => InPlace.wrap target wrapper
  | insert target position markup => InPlace.push (.insert target position markup)
  | delete target => InPlace.push (.delete target)
  | replace search replacement => InPlace.push (.replace search replacement)
  | request r => InPlace.push r

/-- What is left of a session in place when a call returns: if it returns an error, the session as
it was. -/
def settle (s : Session) :
    Except AmbiguousImport Session → EStateM.Result AmbiguousImport Session Unit
  | .ok t => .ok () t
  | .error e => .error e s

namespace InPlace

theorem run_addImport (spec : ImportSpec) (s : Session) :
    (addImport spec).run s = s.settle (s.addImport spec) := by
  show (EStateM.bind (check spec) fun _ => push (.addImport spec)) s =
    s.settle (spec.validate >>= fun _ => .ok (s.push [.addImport spec]))
  unfold check
  cases spec.validate <;> rfl

theorem run_wrap (target : Target) (wrapper : Wrapper) (s : Session) :
    (wrap target wrapper).run s = s.settle (s.wrap target wrapper) := by
  rcases wrapper with ⟨component, props, _ | spec⟩
  · rfl
  · -- The import is checked before anything is pushed, so an error finds the session as it was.
    let wrapper : Wrapper := ⟨component, props, some spec⟩
    show (EStateM.bind (check spec) fun _ => EStateM.bind (push (.wrap target wrapper)) fun _ =>
      push (.addImport spec)) s =
        s.settle (spec.validate >>= fun _ => .ok (s.push [.wrap target wrapper, .addImport spec]))
    unfold check
    cases spec.validate with
    | error e => rfl
    | ok u => exact congrArg (EStateM.Result.ok ()) (s.push_push _ _)

end InPlace

/-- **A call is done as a whole or not at all.** -/
theorem Call.run_inPlace (c : Call) (s : Session) : c.inPlace.run s = s.settle (s.call c) := by
  have hstate : ∀ state, (InPlace.addState state).run s = s.settle (.ok (s.addState state)) :=
    fun state =>
    congrArg (EStateM.Result.ok ()) (s.push_push _ _)
  have heffect : ∀ effect, (InPlace.addEffect effect).run s = s.settle (.ok (s.addEffect effect)) :=
    fun effect =>
    congrArg (EStateM.Result.ok ()) (s.push_push _ _)
  cases c with
  | addImport spec => exact InPlace.run_addImport spec s
  | addState state => exact hstate state
  | addEffect effect => exact heffect effect
  | wrap target wrapper => exact InPlace.run_wrap target wrapper s
  | insert | delete | replace => rfl
  | request r =>
    cases r with
    | addImport spec => exact InPlace.run_addImport spec s
    | addState state => exact hstate state
    | addEffect effect => exact heffect effect
    | wrap target wrapper => exact InPlace.run_wrap target wrapper s
    | insert | delete | replace => rfl

/-! ## Runs of calls -/

/-- A call that returned, and the session that it left. -/
def outcome : EStateM.Result AmbiguousImport Session Unit → Bool × Session
  | .ok _ s => (true, s)
  | .error _ s => (false, s)

/-- The session after calls in place. An error does not end the run. -/
def after (s : Session) : List Call → Session
  | [] => s
  | c :: calls => (outcome (c.inPlace.run s)).2.after calls

/-- The calls that return no error. -/
def accepted (s : Session) : List Call → List Call
  | [] => []
  | c :: calls =>
    let (fine, t) := outcome (c.inPlace.run s)
    if fine then c :: t.accepted calls else t.accepted calls

/-- What one call comes to. -/
theorem outcome_cases (s : Session) (c : Call) :
    (¬ c.requested.Ambiguous ∧
      outcome (c.inPlace.run s) =
        (true, s.push (c.requested.expansion s.workspace.options.hooks))) ∨
    (c.requested.Ambiguous ∧ outcome (c.inPlace.run s) = (false, s)) := by
  rw [c.run_inPlace, call_eq, request_eq]
  cases hadmission : c.requested.admission with
  | ok u => exact .inl ⟨Request.admission_eq_ok_iff.1 hadmission, rfl⟩
  | error e =>
    refine .inr ⟨?_, rfl⟩
    by_contra hnot
    rw [Request.admission_eq_ok_iff.2 hnot] at hadmission
    cases hadmission

theorem not_ambiguous_of_mem_accepted {s : Session} {calls : List Call} {c : Call}
    (h : c ∈ s.accepted calls) : ¬ c.requested.Ambiguous := by
  induction calls generalizing s with
  | nil => exact absurd h List.not_mem_nil
  | cons d calls ih =>
    obtain ⟨hfine, hout⟩ | ⟨-, hout⟩ := s.outcome_cases d
    · rw [accepted, hout] at h
      obtain rfl | h := List.mem_cons.1 h
      · exact hfine
      · exact ih h
    · rw [accepted, hout] at h
      exact ih h

theorem after_queue (s : Session) (calls : List Call) :
    (s.after calls).queue =
      s.queue ++ (s.accepted calls).flatMap fun c =>
        c.requested.expansion s.workspace.options.hooks := by
  induction calls generalizing s with
  | nil => exact (List.append_nil _).symm
  | cons c calls ih =>
    obtain ⟨-, hout⟩ | ⟨-, hout⟩ := s.outcome_cases c
    · rw [after, accepted, hout]
      show ((s.push _).after calls).queue = s.queue ++ (c :: (s.push _).accepted calls).flatMap _
      rw [ih, push_queue, push_workspace, List.append_assoc, List.flatMap_cons]
    · rw [after, accepted, hout]
      exact ih s

/-- **What calls leave in a queue**: of every call that returns no error, its request and then
the import that the request brings along. So nothing in the queue is ambiguous. A call works as a
whole or leaves the session alone, does the same through either operation, and returns an error
exactly if its request is ambiguous. -/
theorem after_start_queue (parse : String → Document) (source : String) (options : SessionOptions)
    (calls : List Call) :
    ((start parse source options).after calls).queue =
        ((start parse source options).accepted calls).flatMap
          (fun c => c.requested.expansion options.hooks) ∧
      (∀ r ∈ ((start parse source options).after calls).queue, ¬ r.Ambiguous) ∧
      ∀ (s : Session) (c : Call),
        c.inPlace.run s = s.settle (s.call c) ∧
        (Call.request c.requested).inPlace.run s = c.inPlace.run s ∧
        ((∃ e, s.call c = .error e) ↔ c.requested.Ambiguous) := by
  have hqueue := (start parse source options).after_queue calls
  refine ⟨hqueue, ?_, fun s c => ⟨c.run_inPlace s, ?_, exists_call_eq_error_iff⟩⟩
  · intro r hr
    rw [hqueue] at hr
    obtain ⟨c, hc, hr⟩ := List.mem_flatMap.1 hr
    exact Request.not_ambiguous_of_mem_expansion (not_ambiguous_of_mem_accepted hc) hr
  · rw [Call.run_inPlace, Call.run_inPlace, call_eq, call_eq]
    rfl

end Session

end Graft
