import Graft.Proofs.Slots

set_option autoImplicit false

/-!
# What requests are sketched as

`Sketched` says once what a request can come to: which node it is about, what has to hold, and what
is put in or taken out. Everything else about sketches follows by cases on it. What a request is
called in messages has no part in this; `Settled` is the property of a computation that its name
only shows up in errors.
-/

namespace Graft

/-! ## Computations with a name for messages -/

/-- A computation that gives the same result under every name, or else fails under every name, never
fatally. -/
def Settled {α : Type} (f : String → Except GenerationError α) (result : α → Prop) : Prop :=
  (∃ a, result a ∧ ∀ label, f label = .ok a) ∨ ∀ label, ∃ e, e.isFatal = false ∧ f label = .error e

namespace Settled

variable {α β : Type}

theorem pure {result : α → Prop} {a : α} (h : result a) : Settled (fun _ => .ok a) result :=
  .inl ⟨a, h, fun _ => rfl⟩

theorem throw {result : α → Prop} {error : String → GenerationError}
    (h : ∀ label, (error label).isFatal = false) :
    Settled (fun label => .error (error label)) result :=
  .inr fun label => ⟨error label, h label, rfl⟩

theorem bind {f : String → Except GenerationError α} {g : α → String → Except GenerationError β}
    {result : α → Prop} {result' : β → Prop} (hf : Settled f result)
    (hg : ∀ a, result a → Settled (g a) result') :
    Settled (fun label => f label >>= fun a => g a label) result' := by
  rcases hf with ⟨a, ha, hok⟩ | herr
  · rcases hg a ha with ⟨b, hb, hok'⟩ | herr'
    · refine .inl ⟨b, hb, fun label => ?_⟩
      simp only [hok label]
      exact hok' label
    · refine .inr fun label => ?_
      simp only [hok label]
      exact herr' label
  · refine .inr fun label => ?_
    obtain ⟨e, he, herr⟩ := herr label
    refine ⟨e, he, ?_⟩
    simp only [herr]
    rfl

end Settled

namespace Workspace

/-! ## Targets -/

/-- The node that a target stands for. -/
def target? (w : Workspace) : Target → Option Node
  | .node span => w.document.resolve span
  | .locate locator => w.document.findElement locator

/-- The component that a name stands for. -/
def component? (w : Workspace) : Option String → Option FunctionMatch
  | some name => w.document.findFunction name
  | none => w.document.defaultComponent

theorem resolveTarget_settled (w : Workspace) (target : Target) :
    Settled (w.resolveTarget target) fun node => w.target? target = some node := by
  cases hfound : w.target? target with
  | some node =>
    refine .inl ⟨node, rfl, fun label => ?_⟩
    cases target <;> simp only [target?] at hfound <;> simp only [resolveTarget, hfound]
  | none =>
    refine .inr fun label => ?_
    cases target <;> simp only [target?] at hfound <;>
      simp only [resolveTarget, hfound] <;> exact ⟨_, rfl, rfl⟩

theorem resolveComponent_settled (w : Workspace) (name : Option String) :
    Settled (w.resolveComponent name) fun found => w.component? name = some found.1 ∧
      found.1.hasBlock = true := by
  cases hfound : w.component? name with
  | some f =>
    by_cases hblock : f.hasBlock = true
    · refine .inl ⟨(f, ((f.declaration.child? "name").map w.document.text).getD "default export"),
        ⟨rfl, hblock⟩, fun label => ?_⟩
      cases name <;> simp only [component?] at hfound <;>
        simp only [resolveComponent, hfound, hblock, if_true]
    · refine .inr fun label => ?_
      cases name <;> simp only [component?] at hfound <;>
        simp only [resolveComponent, hfound, hblock] <;> exact ⟨_, rfl, rfl⟩
  | none =>
    refine .inr fun label => ?_
    cases name <;> simp only [component?] at hfound <;>
      simp only [resolveComponent, hfound] <;> exact ⟨_, rfl, rfl⟩

/-- A component that is found, with a block, is found under every name for messages. -/
theorem exists_resolveComponent {w : Workspace} {name : Option String} {f : FunctionMatch}
    (hfound : w.component? name = some f) (hblock : f.hasBlock = true) (label : String) :
    ∃ component, w.resolveComponent name label = .ok (f, component) := by
  refine ⟨((f.declaration.child? "name").map w.document.text).getD "default export", ?_⟩
  cases name <;> simp only [component?] at hfound <;>
    simp only [resolveComponent, hfound, hblock, if_true]

theorem resolveComponent_eq_ok {w : Workspace} {name : Option String} {label component : String}
    {f : FunctionMatch} (h : w.resolveComponent name label = .ok (f, component)) :
    w.component? name = some f ∧ f.hasBlock = true := by
  rcases w.resolveComponent_settled name with ⟨found, hfound, hok⟩ | herror
  · rw [hok label] at h
    cases h
    exact hfound
  · obtain ⟨e, -, he⟩ := herror label
    rw [he] at h
    cases h

/-! ## Sketches -/

/-- What a request is sketched as, when earlier requests have declared some names. -/
inductive Sketched (w : Workspace) (declared : List (Nat × String)) : Request → Sketch → Prop where
  | state {state : StateVariable} {f : FunctionMatch}
    (found : w.component? state.component = some f) (block : f.hasBlock = true)
      (free : ∀ name ∈ [state.name, state.setter],
        name ∉ w.document.boundNames f ∧ (f.body.start, name) ∉ declared) :
      Sketched w declared (.addState state)
        { inserts := [w.placeState state f.body]
          anchors := [⟨(w.placeState state f.body).offset, (w.placeState state f.body).offset⟩]
          declares := [(f.body.start, state.name), (f.body.start, state.setter)] }
  | effect {effect : Effect} {f : FunctionMatch} (found : w.component? effect.component = some f)
      (block : f.hasBlock = true) :
      Sketched w declared (.addEffect effect)
        { inserts := [w.placeEffect effect f.body]
          anchors :=
            [⟨(w.placeEffect effect f.body).offset, (w.placeEffect effect f.body).offset⟩] }
  | wrap {target : Target} {wrapper : Wrapper} {node : Node} (found : w.target? target = some node)
      (named : (trimmed wrapper.component).isEmpty = false) :
      Sketched w declared (.wrap target wrapper)
        { inserts := [⟨node.start, openingTag wrapper, .opening⟩,
            ⟨node.stop, closingTag wrapper, .closing⟩]
          anchors := [node.range] }
  | insert {target : Target} {position : InsertPosition} {markup : String} {node : Node}
      {insert : Insert} (found : w.target? target = some node)
      (placed : w.placeMarkup node position markup = .ok insert) :
      Sketched w declared (.insert target position markup)
        { inserts := [insert], anchors := [node.range] }
  | delete {target : Target} {node : Node} (found : w.target? target = some node) :
      Sketched w declared (.delete target)
        { removed := some (deletionRange w.chars node.start node.stop)
          anchors := [deletionRange w.chars node.start node.stop] }

theorem sketchState_settled (w : Workspace) (declared : List (Nat × String))
    (state : StateVariable) :
    Settled (w.sketchState declared state) (Sketched w declared (.addState state)) := by
  refine Settled.bind (w.resolveComponent_settled state.component) ?_
  rintro ⟨f, name⟩ ⟨hfound, hblock⟩
  cases htaken : [state.name, state.setter].find? fun candidate =>
      (w.document.boundNames f).contains candidate ||
        declared.contains (f.body.start, candidate) with
  | some candidate =>
    refine .inr fun label => ⟨.duplicateDeclaration candidate name, rfl, ?_⟩
    simp only [htaken]
    rfl
  | none =>
    refine .inl ⟨_, .state hfound hblock ?_, fun label => ?_⟩
    · intro candidate hmem
      have h := List.find?_eq_none.1 htaken candidate hmem
      simpa [List.contains_iff_mem] using h
    · simp only [htaken]
      rfl

theorem sketchEffect_settled (w : Workspace) (declared : List (Nat × String)) (effect : Effect) :
    Settled (w.sketchEffect effect) (Sketched w declared (.addEffect effect)) := by
  refine Settled.bind (w.resolveComponent_settled effect.component) ?_
  rintro ⟨f, name⟩ ⟨hfound, hblock⟩
  exact Settled.pure (.effect hfound hblock)

/-- A wrapper with a name goes around the node of the target. -/
theorem sketchWrap_eq (w : Workspace) (target : Target) {wrapper : Wrapper}
    (hnamed : (trimmed wrapper.component).isEmpty = false) :
    w.sketchWrap target wrapper = fun label => w.resolveTarget target label >>= fun node => .ok
      { inserts := [⟨node.start, openingTag wrapper, .opening⟩,
          ⟨node.stop, closingTag wrapper, .closing⟩]
        anchors := [node.range] } := by
  funext label
  simp only [sketchWrap, hnamed]
  rfl

theorem sketchWrap_settled (w : Workspace) (declared : List (Nat × String)) (target : Target)
    (wrapper : Wrapper) :
    Settled (w.sketchWrap target wrapper) (Sketched w declared (.wrap target wrapper)) := by
  cases hnamed : (trimmed wrapper.component).isEmpty with
  | true =>
    refine .inr fun label => ⟨.invalidEdit label "wrapper component name is empty", rfl, ?_⟩
    simp only [sketchWrap, hnamed]
    rfl
  | false =>
    rw [sketchWrap_eq w target hnamed]
    refine Settled.bind (w.resolveTarget_settled target) ?_
    intro node hfound
    exact Settled.pure (.wrap hfound hnamed)

/-- Markup that can be read goes where it is placed at the node of the target. -/
theorem sketchMarkup_eq (w : Workspace) (target : Target) (position : InsertPosition)
    {markup : String} (hblank : Text.isAllBlank markup = false)
    (hvalid : validateSnippet w.parse markup .markup = .ok ()) :
    w.sketchMarkup target position markup = fun label => w.resolveTarget target label >>=
      fun node =>
      ((w.placeMarkup node position markup).mapError (GenerationError.invalidEdit label)).map
        fun insert =>
        { inserts := [insert], anchors := [node.range] } := by
  funext label
  simp only [sketchMarkup, hblank, hvalid]
  refine congrArg (w.resolveTarget target label >>= ·) (funext fun node => ?_)
  cases w.placeMarkup node position markup <;> rfl

/-- Markup that cannot be read is refused. -/
theorem sketchMarkup_eq_error (w : Workspace) (target : Target) (position : InsertPosition)
    {markup : String} (hblank : Text.isAllBlank markup = false) {e : ValidationError}
    (hvalid : validateSnippet w.parse markup .markup = .error e) (label : String) :
    w.sketchMarkup target position markup label = .error (.invalidEdit label e.message) := by
  simp only [sketchMarkup, hblank, hvalid]
  rfl

theorem sketchMarkup_settled (w : Workspace) (declared : List (Nat × String)) (target : Target)
    (position : InsertPosition) (markup : String) :
    Settled (w.sketchMarkup target position markup)
      (Sketched w declared (.insert target position markup)) := by
  cases hblank : Text.isAllBlank markup with
  | true =>
    refine .inr fun label => ⟨.invalidEdit label "markup is empty", rfl, ?_⟩
    simp only [sketchMarkup, hblank]
    rfl
  | false =>
    cases hvalid : validateSnippet w.parse markup .markup with
    | error e => exact .inr fun label =>
      ⟨_, rfl, w.sketchMarkup_eq_error target position hblank hvalid label⟩
    | ok u =>
      rw [w.sketchMarkup_eq target position hblank hvalid]
      refine Settled.bind (w.resolveTarget_settled target) ?_
      intro node hfound
      cases hplaced : w.placeMarkup node position markup with
      | error reason => exact Settled.throw fun _ => rfl
      | ok insert => exact Settled.pure (.insert hfound hplaced)

theorem sketchDelete_settled (w : Workspace) (declared : List (Nat × String)) (target : Target) :
    Settled (w.sketchDelete target) (Sketched w declared (.delete target)) := by
  refine Settled.bind (w.resolveTarget_settled target) ?_
  intro node hfound
  exact Settled.pure (.delete hfound)

/-- Sketching a request does not depend on its name, and does not fail fatally. -/
theorem sketch_settled (w : Workspace) (declared : List (Nat × String)) {request : Request}
    (h : request.isStructural = true) :
    ∃ f, (∀ label, w.sketch declared request label = some (f label)) ∧
      Settled f (Sketched w declared request) := by
  cases request with
  | addImport spec => simp [Request.isStructural] at h
  | replace search replacement => simp [Request.isStructural] at h
  | addState state => exact ⟨_, fun _ => rfl, w.sketchState_settled declared state⟩
  | addEffect effect => exact ⟨_, fun _ => rfl, w.sketchEffect_settled declared effect⟩
  | wrap target wrapper => exact ⟨_, fun _ => rfl, w.sketchWrap_settled declared target wrapper⟩
  | insert target position markup =>
    exact ⟨_, fun _ => rfl, w.sketchMarkup_settled declared target position markup⟩
  | delete target => exact ⟨_, fun _ => rfl, w.sketchDelete_settled declared target⟩

theorem sketch_eq_none {w : Workspace} {declared : List (Nat × String)} {request : Request}
    (h : request.isStructural = false) (label : String) :
    w.sketch declared request label = none := by
  cases request <;> simp [Request.isStructural] at h <;> rfl

theorem sketched_of_sketch {w : Workspace} {declared : List (Nat × String)} {request : Request}
    {label : String} {s : Sketch} (h : w.sketch declared request label = some (.ok s)) :
    Sketched w declared request s := by
  have hstruct : request.isStructural = true := by
    by_contra hnot
    rw [sketch_eq_none (Bool.eq_false_of_not_eq_true hnot)] at h
    cases h
  obtain ⟨f, hf, hsettled⟩ := w.sketch_settled declared hstruct
  rw [hf] at h
  rcases hsettled with ⟨t, ht, hok⟩ | herr
  · rw [hok, Option.some_inj, Except.ok.injEq] at h
    exact h ▸ ht
  · obtain ⟨e, -, hfail⟩ := herr label
    rw [hfail] at h
    cases h

/-! ## Names that are declared -/

/-- Names that earlier requests have declared can stop a state variable, and do nothing else. -/
theorem sketchState_eq_ok_iff {w : Workspace} {declared : List (Nat × String)}
    {state : StateVariable} {label : String} {s : Sketch} :
    w.sketchState declared state label = .ok s ↔
      w.sketchState [] state label = .ok s ∧ ∀ x ∈ s.declares, x ∉ declared := by
  unfold sketchState
  cases w.resolveComponent state.component label with
  | error e => exact iff_of_false (by rintro ⟨⟩) (by rintro ⟨⟨⟩, -⟩)
  | ok found =>
    obtain ⟨f, name⟩ := found
    simp only [bind, Except.bind]
    have hfree : ∀ d : List (Nat × String), ([state.name, state.setter].find? fun candidate =>
        (w.document.boundNames f).contains candidate || d.contains (f.body.start, candidate)) =
          none ↔
        ∀ candidate ∈ [state.name, state.setter],
          candidate ∉ w.document.boundNames f ∧ (f.body.start, candidate) ∉ d := by
      intro d
      simp [List.find?_eq_none]
    constructor
    · intro h
      split at h
      · cases h
      · rename_i hnone
        have hall := (hfree declared).1 hnone
        rw [(hfree []).2 fun candidate hmem => ⟨(hall candidate hmem).1, List.not_mem_nil⟩]
        cases h
        refine ⟨rfl, ?_⟩
        simpa using fun candidate hmem => (hall candidate hmem).2
    · rintro ⟨h, hdeclares⟩
      split at h
      · cases h
      · rename_i hnone
        have hall := (hfree []).1 hnone
        cases h
        rw [(hfree declared).2 fun candidate hmem => ⟨(hall candidate hmem).1, ?_⟩]
        · rfl
        · refine hdeclares _ ?_
          simpa using hmem

/-- **What a request is sketched as depends on earlier ones only in that it must not declare their
names.** -/
theorem sketch_eq_some_ok_iff {w : Workspace} {declared : List (Nat × String)} {request : Request}
    {label : String} {s : Sketch} : w.sketch declared request label = some (.ok s) ↔
      w.sketch [] request label = some (.ok s) ∧ ∀ x ∈ s.declares, x ∉ declared := by
  have hnone : w.sketch declared request label = w.sketch [] request label →
      (w.sketch [] request label = some (.ok s) → s.declares = []) →
      (w.sketch declared request label = some (.ok s) ↔
        w.sketch [] request label = some (.ok s) ∧ ∀ x ∈ s.declares, x ∉ declared) := by
    intro heq hdeclares
    rw [heq]
    refine ⟨fun h => ⟨h, ?_⟩, And.left⟩
    rw [hdeclares h]
    exact fun x hx => absurd hx List.not_mem_nil
  cases request with
  | addState state =>
    simp only [sketch, Option.some_inj]
    exact sketchState_eq_ok_iff
  | addImport | replace => exact hnone rfl fun h => (by cases h)
  | addEffect | wrap | insert | delete =>
    refine hnone rfl fun h => ?_
    cases sketched_of_sketch h
    rfl

end Workspace

end Graft
