import Graft.Proofs.Generation
import Graft.Proofs.TreeRanges

set_option autoImplicit false

/-!
# Names are declared once

A state variable declares two names at the top of a body. Whether they are free there is decided by
what the body binds in the source and by what accepted requests before it have declared. The list of
these names is carried along with the requests, by where a body starts; what it says about bodies is
proved here from the steps of a session.
-/

namespace Graft

/-- The names that a state variable declares. -/
def StateVariable.names (state : StateVariable) : List String := [state.name, state.setter]

namespace Progress

theorem fail_ne_self (p : Progress) (e : GenerationError) : p.fail e ≠ p :=
  fun h => by simpa [fail] using congrArg errors h

theorem accept_ne_self (p : Progress) (d : Draft) : p.accept d ≠ p :=
  fun h => by simpa [accept] using congrArg accepted h

theorem accept_ne_fail (p : Progress) (d : Draft) (e : GenerationError) : p.accept d ≠ p.fail e :=
  fun h => by simpa [accept, fail] using congrArg accepted h

theorem fail_inj_iff {p : Progress} {e e' : GenerationError} : p.fail e = p.fail e' ↔ e = e' := by
  simp [fail]

theorem accept_inj_iff {p : Progress} {d d' : Draft} : p.accept d = p.accept d' ↔ d = d' := by
  simp [accept]

end Progress

namespace Workspace

/-! ## One request -/

/-- A draft that cannot join the accepted ones is no duplicate. -/
theorem consider_ne_duplicate {w : Workspace} {baseline : Document} {progress : Progress}
    {d : Draft} {name component : String} :
    w.consider baseline progress d ≠ progress.fail (.duplicateDeclaration name component) := by
  rw [consider]
  split
  · rename_i e hscreened
    intro hfail
    obtain rfl := Progress.fail_inj_iff.1 hfail
    split at hscreened
    · obtain ⟨reason, hreason⟩ | ⟨reason, hreason⟩ := screen_eq_error hscreened <;> cases hreason
    · cases hscreened
  · split
    · intro hfail
      cases Progress.fail_inj_iff.1 hfail
    · exact progress.accept_ne_fail d _

/-- One request adds an error or a draft, or nothing if it is not about structure. -/
theorem step_cases (w : Workspace) (baseline : Document) (progress : Progress) (request : Request)
    (seq : Nat) :
    (request.isStructural = false ∧ w.step baseline progress request seq = progress) ∨
      (∃ e, w.step baseline progress request seq = progress.fail e) ∨
      ∃ d, w.step baseline progress request seq = progress.accept d := by
  rw [step]
  split
  · rename_i hnone
    refine .inl ⟨?_, rfl⟩
    cases request with
    | addImport | replace => rfl
    | _ => cases hnone
  · exact .inr (.inl ⟨_, rfl⟩)
  · rename_i d _
    rcases w.consider_cases baseline progress d with ⟨-, h⟩ | ⟨-, e, -, h⟩
    · exact .inr (.inr ⟨d, h⟩)
    · exact .inr (.inl ⟨e, h⟩)

/-- What is accepted is the draft of a sketch. -/
theorem sketched_of_step_eq_accept {w : Workspace} {baseline : Document} {progress : Progress}
    {request : Request} {seq : Nat} {d : Draft}
    (h : w.step baseline progress request seq = progress.accept d) :
    ∃ s, Sketched w progress.declared request s ∧ d.declares = s.declares := by
  rw [step] at h
  split at h
  · exact absurd h.symm (progress.accept_ne_self d)
  · exact absurd h.symm (progress.accept_ne_fail d _)
  · rename_i d' hdraft
    rcases w.consider_cases baseline progress d' with ⟨-, hc⟩ | ⟨-, e, -, hc⟩
    · obtain rfl := Progress.accept_inj_iff.1 (hc.symm.trans h)
      obtain ⟨sketch, hsketch, hd⟩ := Option.map_eq_some_iff.1 hdraft
      cases sketch with
      | error e => cases hd
      | ok s =>
        cases hd
        exact ⟨s, sketched_of_sketch hsketch, rfl⟩
    · exact absurd (h.symm.trans hc) (progress.accept_ne_fail d e)

/-- A component that is not found is no duplicate. -/
theorem resolveComponent_ne_duplicate {w : Workspace} {name : Option String}
    {label candidate component : String} :
    w.resolveComponent name label ≠ .error (.duplicateDeclaration candidate component) := by
  unfold resolveComponent
  dsimp only
  intro h
  split at h
  · cases h
  · split at h <;> cases h

/-- A name is not free in a component: it is bound there, or it has been declared at its body. -/
def NameTaken (w : Workspace) (declared : List (Nat × String)) (f : FunctionMatch)
    (name : String) : Prop :=
  name ∈ w.document.boundNames f ∨ (f.body.start, name) ∈ declared

theorem sketchState_duplicate {w : Workspace} {declared : List (Nat × String)}
    {state : StateVariable} {label name component : String}
    (h : w.sketchState declared state label = .error (.duplicateDeclaration name component)) :
    ∃ f, w.component? state.component = some f ∧ f.hasBlock = true ∧ name ∈ state.names ∧
      w.NameTaken declared f name := by
  unfold sketchState at h
  cases hresolve : w.resolveComponent state.component label with
  | error e =>
    rw [hresolve] at h
    obtain rfl : e = .duplicateDeclaration name component := Except.error.inj h
    exact absurd hresolve resolveComponent_ne_duplicate
  | ok found =>
    obtain ⟨f, called⟩ := found
    rw [hresolve] at h
    simp only [bind, Except.bind] at h
    split at h
    · rename_i candidate htaken
      cases h
      obtain ⟨hfound, hblock⟩ := resolveComponent_eq_ok hresolve
      refine ⟨f, hfound, hblock, List.mem_of_find?_eq_some htaken, ?_⟩
      simpa [NameTaken] using List.find?_some htaken
    · cases h

theorem exists_sketchState_duplicate {w : Workspace} {declared : List (Nat × String)}
    {state : StateVariable} {f : FunctionMatch} (hfound : w.component? state.component = some f)
    (hblock : f.hasBlock = true) {name : String} (hname : name ∈ state.names)
    (htaken : w.NameTaken declared f name) (label : String) :
    ∃ name component, w.sketchState declared state label =
      .error (.duplicateDeclaration name component) := by
  obtain ⟨component, hresolve⟩ := exists_resolveComponent hfound hblock label
  have hsome : (state.names.find? fun candidate =>
      (w.document.boundNames f).contains candidate ||
        declared.contains (f.body.start, candidate)).isSome = true := by
    rw [List.find?_isSome]
    exact ⟨name, hname, by simpa [NameTaken] using htaken⟩
  obtain ⟨first, hfirst⟩ := Option.isSome_iff_exists.1 hsome
  refine ⟨first, component, ?_⟩
  unfold sketchState
  rw [StateVariable.names] at hfirst
  rw [hresolve]
  simp only [bind, Except.bind, hfirst]
  rfl

theorem step_eq_duplicate_iff {w : Workspace} {baseline : Document} {progress : Progress}
    {state : StateVariable} {seq : Nat} {name component : String} :
    w.step baseline progress (.addState state) seq =
      progress.fail (.duplicateDeclaration name component) ↔
      w.sketchState progress.declared state ((Request.addState state).label seq) =
        .error (.duplicateDeclaration name component) := by
  have hdraft : w.draft progress.declared (.addState state) seq =
      some ((w.sketchState progress.declared state ((Request.addState state).label seq)).map
        (Sketch.draft w.document.source seq ((Request.addState state).label seq))) := rfl
  rw [step, hdraft]
  cases w.sketchState progress.declared state ((Request.addState state).label seq) with
  | error e =>
    show progress.fail e = _ ↔ _
    rw [Progress.fail_inj_iff, Except.error.injEq]
  | ok s => exact iff_of_false consider_ne_duplicate (by rintro ⟨⟩)

/-! ## A queue, place by place -/

/-- The request at a place of a queue is accepted: it adds a draft to what has come of those before
it. -/
def AcceptedAt (w : Workspace) (queue : List Request) (i : Nat) (d : Draft) : Prop :=
  w.drafted (queue.take (i + 1)) = (w.drafted (queue.take i)).accept d

/-- The request at a place of a queue is turned down: it adds an error. -/
def RefusedAt (w : Workspace) (queue : List Request) (i : Nat) (e : GenerationError) : Prop :=
  w.drafted (queue.take (i + 1)) = (w.drafted (queue.take i)).fail e

variable {w : Workspace} {queue : List Request}

theorem drafted_take_succ {i : Nat} {request : Request} (h : queue[i]? = some request) :
    w.drafted (queue.take (i + 1)) =
      w.step (w.parse w.document.source) (w.drafted (queue.take i)) request (i + 1) := by
  obtain ⟨hlt, -⟩ := List.getElem?_eq_some_iff.1 h
  have hlen : (queue.take i).length = i := List.length_take_of_le (Nat.le_of_lt hlt)
  rw [List.take_add_one, h, drafted, draftAll, List.zipIdx_append,
    List.foldl_append, hlen, Nat.zero_add]
  rfl

/-- Behind the end of a queue nothing happens, and in it one step. -/
theorem drafted_take_cases (w : Workspace) (queue : List Request) (i : Nat) :
    w.drafted (queue.take (i + 1)) = w.drafted (queue.take i) ∨
      (∃ e, w.RefusedAt queue i e) ∨ ∃ d, w.AcceptedAt queue i d := by
  cases h : queue[i]? with
  | none => exact .inl (by rw [List.take_add_one, h, Option.toList_none, List.append_nil])
  | some request =>
    simp only [RefusedAt, AcceptedAt, drafted_take_succ h]
    exact (w.step_cases _ _ request (i + 1)).imp_left And.right

/-- **What is accepted** of the first requests is accepted at one of their places. -/
theorem mem_accepted_take_iff {n : Nat} {d : Draft} :
    d ∈ (w.drafted (queue.take n)).accepted ↔ ∃ i < n, w.AcceptedAt queue i d := by
  induction n with
  | zero => exact iff_of_false (by rintro ⟨⟩) (by rintro ⟨i, hi, -⟩; omega)
  | succ n ih =>
    rw [Nat.exists_lt_succ_right, ← ih, AcceptedAt]
    rcases w.drafted_take_cases queue n with h | ⟨e, h⟩ | ⟨d', h⟩ <;> rw [h]
    · exact (or_iff_left (Progress.accept_ne_self _ d).symm).symm
    · exact (or_iff_left (Progress.accept_ne_fail _ d e).symm).symm
    · rw [Progress.accept_inj_iff, eq_comm]
      exact List.mem_append.trans (or_congr_right List.mem_singleton)

/-- **What went wrong** with the first requests went wrong at one of their places. -/
theorem mem_errors_take_iff {n : Nat} {e : GenerationError} :
    e ∈ (w.drafted (queue.take n)).errors ↔ ∃ i < n, w.RefusedAt queue i e := by
  induction n with
  | zero => exact iff_of_false (by rintro ⟨⟩) (by rintro ⟨i, hi, -⟩; omega)
  | succ n ih =>
    rw [Nat.exists_lt_succ_right, ← ih, RefusedAt]
    rcases w.drafted_take_cases queue n with h | ⟨e', h⟩ | ⟨d, h⟩ <;> rw [h]
    · exact (or_iff_left (Progress.fail_ne_self _ e).symm).symm
    · rw [Progress.fail_inj_iff, eq_comm]
      exact List.mem_append.trans (or_congr_right List.mem_singleton)
    · exact (or_iff_left (Progress.accept_ne_fail _ d e)).symm

/-! ## State variables of a queue -/

/-- The state variable that is asked for at a place of a queue is accepted, for the given
component. -/
structure StateAccepted (w : Workspace) (queue : List Request) (i : Nat) (state : StateVariable)
    (f : FunctionMatch) : Prop where
  asked : queue[i]? = some (.addState state)
  component : w.component? state.component = some f
  accepted : ∃ d, w.AcceptedAt queue i d

/-- Something happens only where there is a request. -/
theorem exists_request {i : Nat} (h : w.drafted (queue.take (i + 1)) ≠ w.drafted (queue.take i)) :
    ∃ request, queue[i]? = some request := by
  cases hrequest : queue[i]? with
  | some request => exact ⟨request, rfl⟩
  | none =>
    rw [List.take_add_one, hrequest, Option.toList_none, List.append_nil] at h
    exact absurd rfl h

/-- Only state variables declare names. -/
theorem AcceptedAt.exists_state {i : Nat} {d : Draft} (h : w.AcceptedAt queue i d)
    {x : Nat × String} (hx : x ∈ d.declares) :
    ∃ state f, w.StateAccepted queue i state f ∧ f.body.start = x.1 ∧ x.2 ∈ state.names := by
  obtain ⟨request, hrequest⟩ := exists_request (h ▸ Progress.accept_ne_self _ d)
  have hstep := h
  rw [AcceptedAt, drafted_take_succ hrequest] at hstep
  obtain ⟨s, hsketched, hdeclares⟩ := sketched_of_step_eq_accept hstep
  rw [hdeclares] at hx
  cases hsketched with
  | @state state f found block free =>
    refine ⟨state, f, ⟨hrequest, found, d, h⟩, ?_⟩
    rcases List.mem_cons.1 hx with rfl | hx
    · exact ⟨rfl, List.mem_cons_self⟩
    · rw [List.mem_singleton.1 hx]
      exact ⟨rfl, List.mem_cons_of_mem _ List.mem_cons_self⟩
  | _ => exact absurd hx List.not_mem_nil

/-- An accepted state variable declares its names, which were free before. -/
theorem StateAccepted.declares {i : Nat} {state : StateVariable} {f : FunctionMatch}
    (h : w.StateAccepted queue i state f) : f.hasBlock = true ∧
      (∃ d, w.AcceptedAt queue i d ∧ ∀ name ∈ state.names, (f.body.start, name) ∈ d.declares) ∧
      ∀ name ∈ state.names, ¬w.NameTaken (w.drafted (queue.take i)).declared f name := by
  obtain ⟨d, haccepted⟩ := h.accepted
  have hstep := haccepted
  rw [AcceptedAt, drafted_take_succ h.asked] at hstep
  obtain ⟨s, hsketched, hdeclares⟩ := sketched_of_step_eq_accept hstep
  cases hsketched with
  | @state _ g found block free =>
    obtain rfl := Option.some_inj.1 (found.symm.trans h.component)
    refine ⟨block, ⟨d, haccepted, ?_⟩, fun name hname => not_or.2 (free name hname)⟩
    rw [hdeclares]
    simp [StateVariable.names]

/-- **What has been declared** before a place of a queue are the names of the state variables
accepted before it. -/
theorem mem_declared_iff {n offset : Nat} {name : String} :
    (offset, name) ∈ (w.drafted (queue.take n)).declared ↔
      ∃ i < n, ∃ state f, w.StateAccepted queue i state f ∧ f.body.start = offset ∧
        name ∈ state.names := by
  rw [Progress.declared, List.mem_flatMap]
  constructor
  · rintro ⟨d, hd, hx⟩
    obtain ⟨i, hi, haccepted⟩ := mem_accepted_take_iff.1 hd
    exact ⟨i, hi, haccepted.exists_state hx⟩
  · rintro ⟨i, hi, state, f, hstate, rfl, hname⟩
    obtain ⟨-, ⟨d, haccepted, hdeclares⟩, -⟩ := hstate.declares
    exact ⟨d, mem_accepted_take_iff.2 ⟨i, hi, haccepted⟩, hdeclares name hname⟩

/-- A name is taken in a component before a place of a queue: it is bound there, or a state variable
that was accepted before declares it in the same body. -/
def TakenBefore (w : Workspace) (queue : List Request) (i : Nat) (f : FunctionMatch)
    (name : String) : Prop :=
  name ∈ w.document.boundNames f ∨
    ∃ j < i, ∃ state g, w.StateAccepted queue j state g ∧ g.body = f.body ∧ name ∈ state.names

theorem body_kind {f : FunctionMatch} (h : f.hasBlock = true) :
    f.body.kind = "statement_block" := by
  simpa [FunctionMatch.hasBlock] using h

/-- Bodies that start at the same offset are one, so it does not matter that names are kept by
offsets. -/
theorem nameTaken_iff (hnested : w.document.Nested) {i : Nat} {called : Option String}
    {f : FunctionMatch} (hfound : w.component? called = some f) (hblock : f.hasBlock = true)
    {name : String} :
    w.NameTaken (w.drafted (queue.take i)).declared f name ↔ w.TakenBefore queue i f name := by
  refine or_congr_right (mem_declared_iff.trans ?_)
  constructor
  · rintro ⟨j, hj, state, g, hstate, hstart, hname⟩
    refine ⟨j, hj, state, g, hstate, ?_, hname⟩
    exact hnested.eq_of_block_start (body_mem_of_component? hstate.component)
      (body_mem_of_component? hfound) (body_kind hstate.declares.1) (body_kind hblock) hstart
  · rintro ⟨j, hj, state, g, hstate, hbody, hname⟩
    exact ⟨j, hj, state, g, hstate, congrArg Node.start hbody, hname⟩

/-- How the state variables of a queue get on with each other. -/
structure DeclaredOnce (w : Workspace) (queue : List Request) : Prop where
  /-- What is accepted at a place stays accepted. -/
  accepted_iff : ∀ d, d ∈ (w.drafted queue).accepted ↔ ∃ i, w.AcceptedAt queue i d
  /-- An error at a place stays one. -/
  errors_iff : ∀ e, e ∈ (w.drafted queue).errors ↔ ∃ i, w.RefusedAt queue i e
  /-- Every state variable is accepted or turned down. -/
  decided : ∀ i state, queue[i]? = some (.addState state) →
    (∃ f, w.StateAccepted queue i state f) ∨ ∃ e, w.RefusedAt queue i e
  /-- Two accepted ones have no name in common if they go into the same body. -/
  disjoint : ∀ i j state state' f f', i ≠ j → w.StateAccepted queue i state f →
    w.StateAccepted queue j state' f' → f.body = f'.body → state.names.Disjoint state'.names
  /-- No accepted one has a name that its component binds. -/
  unbound : ∀ i state f, w.StateAccepted queue i state f →
    state.names.Disjoint (w.document.boundNames f)
  /-- One that is turned down as a duplicate has a name that is taken, and that name is reported. -/
  duplicate : ∀ i state name component, queue[i]? = some (.addState state) →
    w.RefusedAt queue i (.duplicateDeclaration name component) →
      ∃ f, w.component? state.component = some f ∧ name ∈ state.names ∧ w.TakenBefore queue i f name
  /-- One that has a name that is taken is turned down as a duplicate. -/
  taken : ∀ i state f, queue[i]? = some (.addState state) → w.component? state.component = some f →
    f.hasBlock = true → (∃ name ∈ state.names, w.TakenBefore queue i f name) →
      ∃ name component, w.RefusedAt queue i (.duplicateDeclaration name component)

theorem exists_lt_length_iff {p : Nat → Prop} (h : ∀ i, p i → ∃ request, queue[i]? = some request) :
    (∃ i < queue.length, p i) ↔ ∃ i, p i := by
  constructor
  · rintro ⟨i, -, hi⟩
    exact ⟨i, hi⟩
  · rintro ⟨i, hi⟩
    obtain ⟨request, hrequest⟩ := h i hi
    exact ⟨i, (List.getElem?_eq_some_iff.1 hrequest).1, hi⟩

/-- The earlier of two state variables in one body has taken its names before the later one. -/
theorem disjoint_of_lt {i j : Nat} (hlt : i < j) {state state' : StateVariable}
    {f f' : FunctionMatch} (h : w.StateAccepted queue i state f)
    (h' : w.StateAccepted queue j state' f') (hbody : f.body = f'.body) :
    state.names.Disjoint state'.names := by
  intro name hname hname'
  refine h'.declares.2.2 name hname' (.inr (mem_declared_iff.2 ⟨i, hlt, state, f, h, ?_, hname⟩))
  exact congrArg Node.start hbody

/-- **Names are declared once.** State variables that are accepted for one body share no names with
each other, nor with what the component binds; and a state variable is turned down as a duplicate
exactly if one of its names is bound or was declared in the same body by a state variable accepted
before. -/
theorem drafted_declaredOnce (w : Workspace) (queue : List Request) (hnested : w.document.Nested) :
    w.DeclaredOnce queue where
  accepted_iff d := by
    rw [← exists_lt_length_iff fun i hi => exists_request (hi ▸ Progress.accept_ne_self _ d),
      ← mem_accepted_take_iff, List.take_length]
  errors_iff e := by
    rw [← exists_lt_length_iff fun i hi => exists_request (hi ▸ Progress.fail_ne_self _ e),
      ← mem_errors_take_iff, List.take_length]
  decided i state hasked := by
    simp only [RefusedAt, drafted_take_succ hasked]
    rcases w.step_cases (w.parse w.document.source) (w.drafted (queue.take i)) (.addState state)
      (i + 1) with ⟨hnot, -⟩ | herror | ⟨d, haccept⟩
    · cases hnot
    · exact .inr herror
    · obtain ⟨s, hsketched, -⟩ := sketched_of_step_eq_accept haccept
      cases hsketched with
      | @state _ f found =>
        exact .inl ⟨f, hasked, found, d, (drafted_take_succ hasked).trans haccept⟩
  disjoint i j state state' f f' hne h h' hbody := by
    rcases Nat.lt_or_gt_of_ne hne with hlt | hlt
    · exact disjoint_of_lt hlt h h' hbody
    · exact List.disjoint_symm (disjoint_of_lt hlt h' h hbody.symm)
  unbound i state f h := fun name hname hbound => h.declares.2.2 name hname (.inl hbound)
  duplicate i state name component hasked h := by
    rw [RefusedAt, drafted_take_succ hasked] at h
    obtain ⟨f, hfound, hblock, hname, htaken⟩ := sketchState_duplicate (step_eq_duplicate_iff.1 h)
    exact ⟨f, hfound, hname, (nameTaken_iff hnested hfound hblock).1 htaken⟩
  taken i state f hasked hfound hblock htaken := by
    obtain ⟨name, hname, htaken⟩ := htaken
    simp only [RefusedAt, drafted_take_succ hasked, step_eq_duplicate_iff]
    exact exists_sketchState_duplicate hfound hblock hname
      ((nameTaken_iff hnested hfound hblock).2 htaken) _

/-- A component with a parameter. -/
def oneComponent : Workspace where
  document :=
    { source := "function A(p) \x7b\x7d"
      root := .mk { kind := "program", start := 0, stop := 16 }
        [.mk { kind := "function_declaration", start := 0, stop := 16 }
          [.mk { kind := "function", named := false, start := 0, stop := 8 } [],
            .mk { kind := "identifier", field := some "name", start := 9, stop := 10 } [],
            .mk { kind := "formal_parameters", field := some "parameters", start := 10, stop := 13 }
              [.mk { kind := "identifier", start := 11, stop := 12 } []],
            .mk { kind := "statement_block", field := some "body", start := 14, stop := 16 }
              [.mk { kind := "\x7b", named := false, start := 14, stop := 15 } [],
                .mk { kind := "\x7d", named := false, start := 15, stop := 16 } []]]] }
  options := { validateOutput := false }
  parse := .rootOnly

/-- A state variable with the given names for the component. -/
def stateOf (name setter : String) : StateVariable :=
  { name, setter, initialValue := "0", component := some "A" }

/-- State variables, the second with a name of the first and the third with that of the
parameter. -/
def clashingStates : List Request :=
  [.addState (stateOf "a" "b"), .addState (stateOf "c" "b"), .addState (stateOf "p" "q"),
    .addState (stateOf "c" "d")]

theorem drafted_declaredOnce_clashingStates : oneComponent.document.Nested ∧
    oneComponent.DeclaredOnce clashingStates ∧
    (oneComponent.drafted clashingStates).accepted.map (·.declares) =
      [[(14, "a"), (14, "b")], [(14, "c"), (14, "d")]] ∧
    (oneComponent.drafted clashingStates).errors =
      [.duplicateDeclaration "b" "A", .duplicateDeclaration "p" "A"] := by
  have hnested : oneComponent.document.Nested := by decide +kernel
  exact ⟨hnested, drafted_declaredOnce oneComponent clashingStates hnested,
    by decide +kernel, by decide +kernel⟩

end Workspace

end Graft
