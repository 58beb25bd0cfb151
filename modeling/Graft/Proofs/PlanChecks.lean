import Mathlib.Data.List.TakeWhile
import Graft.Parse.Component
import Graft.Proofs.Consistency
import Graft.Proofs.Queueing
import Graft.Proofs.Substituting

set_option autoImplicit false

/-!
# Checked plans

What is found wrong with a plan before it is carried out agrees with what happens when it is: the
first request with an ambiguous import is the one that cannot be queued, and a complete plan never
runs into a wrapper without a name, markup without content, or a search for nothing.
-/

namespace Graft

/-! ## Texts that are not blank -/

namespace Text

theorem mem_trimStart {cs : List Char} {c : Char} (hc : isBlank c = false)
    (h : c ∈ cs) : c ∈ trimStart cs := by
  rw [← List.takeWhile_append_dropWhile (p := isBlank) (l := cs)] at h
  rcases List.mem_append.1 h with h | h
  · rw [List.mem_takeWhile_imp h] at hc
    cases hc
  · exact h

theorem mem_trim {cs : List Char} {c : Char} (hc : isBlank c = false) (h : c ∈ cs) : c ∈ trim cs :=
  List.mem_reverse.2 (mem_trimStart hc (List.mem_reverse.2 (mem_trimStart hc h)))

theorem exists_not_blank {text : String} (h : isAllBlank text = false) :
    ∃ c ∈ text.toList, isBlank c = false := by
  simpa [isAllBlank] using h

theorem isEmpty_trimmed {text : String} (h : isAllBlank text = false) :
    (Workspace.trimmed text).isEmpty = false := by
  obtain ⟨c, hmem, hc⟩ := exists_not_blank h
  have htrim := mem_trim hc hmem
  rw [← Bool.not_eq_true, String.isEmpty_iff, Workspace.trimmed]
  intro hempty
  rw [String.ofList_eq_empty_iff.1 hempty] at htrim
  exact absurd htrim List.not_mem_nil

end Text

/-! ## Errors about blank texts -/

/-- What is said about a wrapper without a name, and about markup without content. -/
def blankReasons : List String := ["wrapper component name is empty", "markup is empty"]

/-- Whether an error says that a text is missing. -/
def GenerationError.reportsBlank : GenerationError → Bool
  | invalidEdit _ reason => blankReasons.contains reason
  | textNotFound search => search.isEmpty
  | _ => false

theorem GenerationError.reportsBlank_of_aboutImports {e : GenerationError}
    (h : e.aboutImports = true) : e.reportsBlank = false := by
  cases e with
  | importConflict | rangeConflict => rfl
  | parseFailure | targetNotFound | textNotFound | duplicateDeclaration | invalidEdit |
    syntaxRegression => cases h

theorem Text.head?_append {a b : String} {c : Char} (h : a.toList.head? = some c) :
    (a ++ b).toList.head? = some c := by
  rw [String.toList_append, List.head?_append, h, Option.some_or]

theorem Text.getLast?_append {a b : String} {c : Char} (h : b.toList.getLast? = some c) :
    (a ++ b).toList.getLast? = some c := by
  rw [String.toList_append, List.getLast?_append, h, Option.some_or]

/-- A reason that begins in another way. -/
theorem contains_blankReasons_of_head {reason : String} {c : Char}
    (h : reason.toList.head? = some c) (hc : (c == 'w' || c == 'm') = false) :
    blankReasons.contains reason = false := by
  have hheads : (blankReasons.all fun r => r.toList.head?.any fun c => c == 'w' || c == 'm') =
      true := by
    decide +kernel
  rw [← Bool.not_eq_true, List.contains_iff_mem]
  intro hmem
  have hhead := List.all_eq_true.1 hheads reason hmem
  rw [h, Option.any_some, hc] at hhead
  cases hhead

/-- A reason that ends in another way. -/
theorem contains_blankReasons_of_last {reason : String} {c : Char}
    (h : reason.toList.getLast? = some c) (hc : (c == 'y') = false) :
    blankReasons.contains reason = false := by
  have hlasts : (blankReasons.all fun r => r.toList.getLast?.any fun c => c == 'y') = true := by
    decide +kernel
  rw [← Bool.not_eq_true, List.contains_iff_mem]
  intro hmem
  have hlast := List.all_eq_true.1 hlasts reason hmem
  rw [h, Option.any_some, hc] at hlast
  cases hlast

theorem ValidationError.contains_message (e : ValidationError) :
    blankReasons.contains e.message = false := by
  cases e with
  | introduced count errors =>
    refine contains_blankReasons_of_head (c := 'p') ?_ rfl
    exact Text.head?_append (Text.head?_append rfl)
  | snippet category context =>
    refine contains_blankReasons_of_head (c := 'i') ?_ rfl
    exact Text.head?_append (Text.head?_append (Text.head?_append rfl))
  | outOfBounds start stop length =>
    refine contains_blankReasons_of_head (c := 'e') ?_ rfl
    iterate 6 apply Text.head?_append
    rfl

theorem EditError.contains_message (e : EditError) : blankReasons.contains e.message = false := by
  cases e with
  | mismatch start stop expected found =>
    refine contains_blankReasons_of_head (c := 'b') ?_ rfl
    iterate 3 apply Text.head?_append
    rfl
  | invalidRange start stop length =>
    refine contains_blankReasons_of_head (c := 'i') ?_ rfl
    iterate 5 apply Text.head?_append
    rfl
  | notBoundary offset =>
    refine contains_blankReasons_of_head (c := 'b') ?_ rfl
    exact Text.head?_append (Text.head?_append rfl)
  | overlap a b c d =>
    refine contains_blankReasons_of_head (c := 'e') ?_ rfl
    iterate 8 apply Text.head?_append
    rfl

/-- A computation that does not fail for want of a text. -/
def Worded {α : Type} (x : Except GenerationError α) : Prop :=
  ∀ e, x = .error e → e.reportsBlank = false

namespace Worded

variable {α β : Type}

theorem ok (a : α) : Worded (.ok a : Except GenerationError α) := by
  rintro _ ⟨⟩

theorem error {e : GenerationError} (h : e.reportsBlank = false) :
    Worded (.error e : Except GenerationError α) := by
  rintro _ ⟨⟩
  exact h

theorem bind {x : Except GenerationError α} {f : α → Except GenerationError β} (hx : Worded x)
    (hf : ∀ a, Worded (f a)) : Worded (x >>= f) := by
  cases x with
  | error e => exact error (hx e rfl)
  | ok a => exact hf a

end Worded

/-! ## Requests without blank texts -/

/-- Nothing that a request cannot do without is blank. -/
def Request.Complete (r : Request) : Prop :=
  ∀ field ∈ r.requiredTexts, Text.isAllBlank field.2 = false

theorem Request.Complete.component {target : Target} {wrapper : Wrapper}
    (h : (wrap target wrapper).Complete) : Text.isAllBlank wrapper.component = false :=
  h ("component", wrapper.component) (by simp [requiredTexts])

theorem Request.Complete.markup {target : Target} {position : InsertPosition} {markup : String}
    (h : (insert target position markup).Complete) : Text.isAllBlank markup = false :=
  h ("markup", markup) (by simp [requiredTexts])

theorem Request.Complete.search {search replacement : String}
    (h : (replace search replacement).Complete) : search.isEmpty = false := by
  obtain ⟨c, hc, -⟩ := Text.exists_not_blank (h ("search", search) (by simp [requiredTexts]))
  rw [← Bool.not_eq_true, String.isEmpty_iff]
  rintro rfl
  exact absurd hc List.not_mem_nil

namespace Workspace

theorem resolveTarget_worded (w : Workspace) (target : Target) (label : String) :
    Worded (w.resolveTarget target label) := by
  unfold resolveTarget
  dsimp only
  split
  · exact .ok _
  · exact .error rfl

theorem resolveComponent_worded (w : Workspace) (name : Option String) (label : String) :
    Worded (w.resolveComponent name label) := by
  unfold resolveComponent
  dsimp only
  split
  · exact .error rfl
  · split
    · exact .ok _
    · exact .error (contains_blankReasons_of_last (c := 'd') (Text.getLast?_append rfl) rfl)

theorem sketchState_worded (w : Workspace) (declared : List (Nat × String)) (state : StateVariable)
    (label : String) : Worded (w.sketchState declared state label) := by
  refine (w.resolveComponent_worded state.component label).bind ?_
  rintro ⟨component, name⟩
  dsimp only
  split
  · exact .error rfl
  · exact .ok _

theorem sketchEffect_worded (w : Workspace) (effect : Effect) (label : String) :
    Worded (w.sketchEffect effect label) :=
  (w.resolveComponent_worded effect.component label).bind fun _ => .ok _

theorem sketchWrap_worded (w : Workspace) (target : Target) {wrapper : Wrapper} (label : String)
    (h : Text.isAllBlank wrapper.component = false) :
    Worded (w.sketchWrap target wrapper label) := by
  rw [w.sketchWrap_eq target (Text.isEmpty_trimmed h)]
  exact (w.resolveTarget_worded target label).bind fun _ => .ok _

theorem placeMarkup_reason {w : Workspace} {node : Node} {position : InsertPosition}
    {markup reason : String} (h : w.placeMarkup node position markup = .error reason) :
    blankReasons.contains reason = false := by
  have hchildren : ∀ n, blankReasons.contains s!"{w.describe n} has no children" = false := fun n =>
    contains_blankReasons_of_last (c := 'n') (Text.getLast?_append rfl) rfl
  unfold placeMarkup at h
  dsimp only at h
  repeat' split at h
  all_goals cases h
  all_goals exact hchildren node

theorem sketchMarkup_worded (w : Workspace) (target : Target) (position : InsertPosition)
    {markup : String} (label : String) (h : Text.isAllBlank markup = false) :
    Worded (w.sketchMarkup target position markup label) := by
  cases hvalid : validateSnippet w.parse markup .markup with
  | error e =>
    rw [w.sketchMarkup_eq_error target position h hvalid]
    exact .error e.contains_message
  | ok u =>
    rw [w.sketchMarkup_eq target position h hvalid]
    refine (w.resolveTarget_worded target label).bind ?_
    intro node
    cases hplaced : w.placeMarkup node position markup with
    | error reason => exact .error (placeMarkup_reason hplaced)
    | ok insert => exact .ok _

theorem sketchDelete_worded (w : Workspace) (target : Target) (label : String) :
    Worded (w.sketchDelete target label) :=
  (w.resolveTarget_worded target label).bind fun _ => .ok _

theorem sketch_worded (w : Workspace) (declared : List (Nat × String)) {request : Request}
    (h : request.Complete) (label : String) {x : Except GenerationError Sketch}
    (hx : w.sketch declared request label = some x) : Worded x := by
  cases request with
  | addImport | replace => cases hx
  | addState state =>
    obtain rfl := Option.some_inj.1 hx
    exact w.sketchState_worded declared state label
  | addEffect effect =>
    obtain rfl := Option.some_inj.1 hx
    exact w.sketchEffect_worded effect label
  | wrap target wrapper =>
    obtain rfl := Option.some_inj.1 hx
    exact w.sketchWrap_worded target label h.component
  | insert target position markup =>
    obtain rfl := Option.some_inj.1 hx
    exact w.sketchMarkup_worded target position label h.markup
  | delete target =>
    obtain rfl := Option.some_inj.1 hx
    exact w.sketchDelete_worded target label

/-! ## Errors of a queue -/

/-- None of the errors says that a text is missing. -/
def NoneBlank (errors : List GenerationError) : Prop := ∀ e ∈ errors, e.reportsBlank = false

theorem NoneBlank.nil : NoneBlank [] := fun _ he => absurd he List.not_mem_nil

theorem NoneBlank.append {errors more : List GenerationError} (h : NoneBlank errors)
    (hmore : NoneBlank more) : NoneBlank (errors ++ more) := by
  intro e he
  rcases List.mem_append.1 he with he | he
  · exact h e he
  · exact hmore e he

theorem NoneBlank.concat {errors : List GenerationError} (h : NoneBlank errors)
    {e : GenerationError} (he : e.reportsBlank = false) : NoneBlank (errors ++ [e]) :=
  h.append fun _ hmem => List.mem_singleton.1 hmem ▸ he

theorem consider_noneBlank (w : Workspace) (baseline : Document) {progress : Progress}
    (h : NoneBlank progress.errors) (d : Draft) :
    NoneBlank (w.consider baseline progress d).errors := by
  unfold consider
  dsimp only
  split
  · rename_i e hscreened
    split at hscreened
    · obtain ⟨reason, rfl⟩ | ⟨reason, rfl⟩ := screen_eq_error hscreened
      · exact h.concat reason.contains_message
      · exact h.concat reason.contains_message
    · cases hscreened
  · split
    · exact h.concat rfl
    · exact h

/-- A request in a queue is complete, or an import, which may have been brought along. -/
def Requested (r : Request) : Prop := r.Complete ∨ ∃ spec, r = .addImport spec

theorem step_noneBlank (w : Workspace) (baseline : Document) {progress : Progress}
    (h : NoneBlank progress.errors) {request : Request} (hrequest : Requested request) (seq : Nat) :
    NoneBlank (w.step baseline progress request seq).errors := by
  rcases hrequest with hcomplete | ⟨spec, rfl⟩
  · have hdraft : w.draft progress.declared request seq =
        (w.sketch progress.declared request (request.label seq)).map
        fun sketch => sketch.map (Sketch.draft w.document.source seq (request.label seq)) := rfl
    rw [step, hdraft]
    cases hsketch : w.sketch progress.declared request (request.label seq) with
    | none => exact h
    | some x =>
      have hx := w.sketch_worded progress.declared hcomplete _ hsketch
      cases x with
      | error e => exact h.concat (hx e rfl)
      | ok s => exact w.consider_noneBlank baseline h _
  · rw [step_not_structural rfl]
    exact h

theorem draftAll_noneBlank (w : Workspace) (baseline : Document) {queue : List Request}
    (hqueue : ∀ r ∈ queue, Requested r) : NoneBlank (w.draftAll baseline queue).errors := by
  refine List.foldlRecOn (motive := fun progress : Progress => NoneBlank progress.errors)
    queue.zipIdx _ NoneBlank.nil ?_
  rintro progress hprogress ⟨request, i⟩ hmem
  exact w.step_noneBlank baseline hprogress (hqueue request (List.fst_mem_of_mem_zipIdx hmem))
    (i + 1)

theorem substituteAll_noneBlank {substitutions : List (String × String)}
    (h : ∀ s ∈ substitutions, s.1.isEmpty = false) (code : String) :
    NoneBlank (substituteAll substitutions code).2 := by
  refine List.foldlRecOn (motive := fun state : String × List GenerationError => NoneBlank state.2)
    substitutions _ NoneBlank.nil ?_
  rintro ⟨code, errors⟩ herrors ⟨search, replacement⟩ hmem
  dsimp only
  split
  · exact herrors
  · rename_i missing hmissing
    rw [replaceAll_eq_error hmissing]
    exact herrors.concat (h (search, replacement) hmem)

/-- What a queue of complete requests comes to does not say that a text is missing. -/
theorem generate_noneBlank (w : Workspace) {queue : List Request}
    (hqueue : ∀ r ∈ queue, Requested r) : NoneBlank (w.generate queue).errors := by
  have himported : NoneBlank (w.imported queue).errors := fun e he =>
    GenerationError.reportsBlank_of_aboutImports (w.imported_aboutImports queue e he)
  have hdrafted := (w.draftAll_noneBlank (w.parse w.document.source) hqueue).append himported
  have hsearches : ∀ s ∈ queue.filterMap (·.substitution?), s.1.isEmpty = false := by
    intro s hs
    obtain ⟨r, hr, hsubstitution⟩ := List.mem_filterMap.1 hs
    cases r <;> cases hsubstitution
    rcases hqueue _ hr with hcomplete | ⟨spec, ⟨⟩⟩
    exact hcomplete.search
  rw [generate_eq]
  cases w.spliced queue with
  | error e => exact hdrafted.concat e.contains_message
  | ok code =>
    have herrors := hdrafted.append (substituteAll_noneBlank hsearches code)
    show NoneBlank (w.finish _ _ _).errors
    unfold finish
    split
    · split
      · exact herrors
      · exact herrors.concat rfl
      · exact herrors.concat rfl
    · exact herrors

end Workspace

/-! ## Issues -/

theorem Request.mem_issues_ambiguous {r : Request} {number i : Nat} {cause : AmbiguousImport} :
    PlanIssue.ambiguousImport i cause ∈ r.issues number ↔
      i = number ∧ r.admission = .error cause := by
  rw [issues, admission, List.mem_append, List.mem_map]
  have hmissing : ¬ ∃ field, field ∈ r.requiredTexts.filter (fun f => Text.isAllBlank f.2) ∧
      PlanIssue.missingField number field.1 = .ambiguousImport i cause := by
    rintro ⟨field, -, ⟨⟩⟩
  rw [or_iff_right hmissing]
  cases r.ownImport? with
  | none => simp
  | some spec =>
    cases hvalid : spec.validate with
    | ok u => simp [hvalid]
    | error e => simp [hvalid, eq_comm]

theorem Request.complete_of_issues {r : Request} {number : Nat}
    (h : r.issues number = []) : r.Complete := by
  rw [issues, List.append_eq_nil_iff, List.map_eq_nil_iff, List.filter_eq_nil_iff] at h
  intro field hfield
  exact Bool.eq_false_iff.2 (h.1 field hfield)

namespace Plan

/-- The requests of a plan are counted from one. -/
theorem mem_issues_ambiguous {p : Plan} {i : Nat} {cause : AmbiguousImport} :
    PlanIssue.ambiguousImport i cause ∈ p.issues ↔
      ∃ k r, p.requests[k]? = some r ∧ i = k + 1 ∧ r.admission = .error cause := by
  have hempty : PlanIssue.ambiguousImport i cause ∉
      if p.requests.isEmpty then [PlanIssue.noRequests] else [] := by
    split <;> simp
  rw [issues, List.mem_append, or_iff_right hempty, List.mem_flatMap]
  constructor
  · rintro ⟨⟨r, k⟩, hmem, hissue⟩
    obtain ⟨hnumber, hcause⟩ := Request.mem_issues_ambiguous.1 hissue
    exact ⟨k, r, List.mem_zipIdx_iff_getElem?.1 hmem, hnumber, hcause⟩
  · rintro ⟨k, r, hget, hnumber, hcause⟩
    exact ⟨(r, k), List.mem_zipIdx_iff_getElem?.2 hget,
      Request.mem_issues_ambiguous.2 ⟨hnumber, hcause⟩⟩

theorem complete_of_mem {p : Plan} (h : p.issues = []) {r : Request}
    (hr : r ∈ p.requests) : r.Complete := by
  obtain ⟨k, hget⟩ := List.mem_iff_getElem?.1 hr
  rw [issues, List.append_eq_nil_iff, List.flatMap_eq_nil_iff] at h
  exact Request.complete_of_issues (h.2 (r, k) (List.mem_zipIdx_iff_getElem?.2 hget))

/-! ## Queueing a plan -/

/-- All requests are queued if none is refused. -/
theorem queueAll_eq_ok {s : Session} {number : Nat} {requests : List Request}
    (h : ∀ r ∈ requests, r.admission = .ok ()) :
    queueAll s number requests =
      .ok (s.push (requests.flatMap (Request.expansion s.workspace.options.hooks))) := by
  induction requests generalizing s number with
  | nil => simp [queueAll, Session.push]
  | cons r requests ih =>
    have hrequest : s.request r = .ok (s.push (r.expansion s.workspace.options.hooks)) := by
      rw [Session.request_eq, h r List.mem_cons_self]
      rfl
    rw [queueAll, hrequest]
    show queueAll _ (number + 1) requests = _
    rw [ih fun q hq => h q (List.mem_cons_of_mem r hq), Session.push_push,
      Session.push_workspace, List.flatMap_cons]

/-- Queueing ends at the first request that is refused. -/
theorem queueAll_eq_error_iff {s : Session} {number i : Nat} {requests : List Request}
    {cause : AmbiguousImport} :
    queueAll s number requests = .error (i, cause) ↔
      ∃ k r, requests[k]? = some r ∧ i = number + k ∧ r.admission = .error cause ∧
        ∀ j < k, ∀ q, requests[j]? = some q → q.admission = .ok () := by
  induction requests generalizing s number with
  | nil => simp [queueAll]
  | cons r requests ih =>
    cases hadmission : r.admission with
    | error e =>
      have hrequest : s.request r = .error e := by
        rw [Session.request_eq, hadmission]
        rfl
      rw [queueAll, hrequest]
      constructor
      · rintro ⟨⟩
        exact ⟨0, r, rfl, rfl, hadmission, fun j hj => absurd hj (Nat.not_lt_zero j)⟩
      · rintro ⟨k, q, hget, rfl, hcause, hbefore⟩
        cases k with
        | zero =>
          cases hget
          rw [hadmission] at hcause
          cases hcause
          rfl
        | succ k =>
          rw [hbefore 0 k.succ_pos r rfl] at hadmission
          cases hadmission
    | ok u =>
      have hrequest : s.request r = .ok (s.push (r.expansion s.workspace.options.hooks)) := by
        rw [Session.request_eq, hadmission]
        rfl
      rw [queueAll, hrequest]
      show queueAll _ (number + 1) requests = _ ↔ _
      rw [ih]
      constructor
      · rintro ⟨k, q, hget, rfl, hcause, hbefore⟩
        refine ⟨k + 1, q, hget, by omega, hcause, ?_⟩
        rintro (_ | j) hj q' hq'
        · cases hq'
          exact hadmission
        · exact hbefore j (Nat.lt_of_succ_lt_succ hj) q' hq'
      · rintro ⟨k, q, hget, rfl, hcause, hbefore⟩
        cases k with
        | zero =>
          cases hget
          rw [hadmission] at hcause
          cases hcause
        | succ k =>
          refine ⟨k, q, hget, by omega, hcause, ?_⟩
          intro j hj q' hq'
          exact hbefore (j + 1) (Nat.succ_lt_succ hj) q' hq'

/-- A plan without ambiguous imports is carried out with all its requests and what they bring
along. -/
theorem apply_eq_ok {p : Plan} (h : ∀ i cause, PlanIssue.ambiguousImport i cause ∉ p.issues)
    (parse : String → Document) (source : String) :
    p.apply parse source = .ok ((Session.start parse source p.options).push
      (p.requests.flatMap (Request.expansion p.options.hooks))).generate := by
  have hadmitted : ∀ r ∈ p.requests, r.admission = .ok () := by
    intro r hr
    obtain ⟨k, hget⟩ := List.mem_iff_getElem?.1 hr
    cases hadmission : r.admission with
    | ok u => rfl
    | error cause =>
      exact absurd (mem_issues_ambiguous.2 ⟨k, r, hget, rfl, hadmission⟩) (h (k + 1) cause)
  rw [apply, queueAll_eq_ok hadmitted]
  rfl

theorem apply_eq_error_iff {p : Plan} {parse : String → Document} {source : String} {i : Nat}
    {cause : AmbiguousImport} : p.apply parse source = .error (i, cause) ↔
      PlanIssue.ambiguousImport i cause ∈ p.issues ∧
        ∀ j other, PlanIssue.ambiguousImport j other ∈ p.issues → i ≤ j := by
  have hqueue : p.apply parse source = .error (i, cause) ↔
      queueAll (Session.start parse source p.options) 1 p.requests = .error (i, cause) := by
    rw [apply]
    cases queueAll (Session.start parse source p.options) 1 p.requests <;> simp [Except.map]
  rw [hqueue, queueAll_eq_error_iff, mem_issues_ambiguous]
  constructor
  · rintro ⟨k, r, hget, rfl, hcause, hbefore⟩
    refine ⟨⟨k, r, hget, Nat.add_comm 1 k, hcause⟩, ?_⟩
    intro j other hissue
    obtain ⟨k', q, hq, rfl, hother⟩ := mem_issues_ambiguous.1 hissue
    by_contra hlt
    rw [hbefore k' (by omega) q hq] at hother
    cases hother
  · rintro ⟨⟨k, r, hget, rfl, hcause⟩, hfirst⟩
    refine ⟨k, r, hget, Nat.add_comm k 1, hcause, ?_⟩
    intro j hj q hq
    cases hadmission : q.admission with
    | ok u => rfl
    | error other =>
      have := hfirst (j + 1) other (mem_issues_ambiguous.2 ⟨j, q, hq, rfl, hadmission⟩)
      omega

/-- A complete plan is carried out, and none of its errors says that a text is missing. -/
theorem apply_noneBlank {p : Plan} (h : p.issues = []) (parse : String → Document)
    (source : String) : ∃ o, p.apply parse source = .ok o ∧ Workspace.NoneBlank o.errors := by
  refine ⟨_, apply_eq_ok (fun i cause hissue => ?_) parse source, ?_⟩
  · rw [h] at hissue
    exact absurd hissue List.not_mem_nil
  · unfold Session.generate
    split
    · exact fun e he => List.mem_singleton.1 he ▸ rfl
    · refine Workspace.generate_noneBlank _ ?_
      intro r hr
      obtain ⟨q, hq, hr⟩ :=
        List.mem_flatMap.1 (show r ∈ p.requests.flatMap (Request.expansion p.options.hooks) from hr)
      obtain rfl | ⟨spec, -, rfl⟩ := Request.mem_expansion.1 hr
      · exact .inl (complete_of_mem h hq)
      · exact .inr ⟨spec, rfl⟩

/-- **Checking a plan tells how it will be carried out.** It ends early exactly at the first request
that has been reported as ambiguous, with the same cause, and else has an outcome; and if nothing
has been reported at all, no error of the outcome is about a wrapper without a name, empty markup or
a search for nothing. -/
theorem apply_agrees_with_issues (p : Plan) (parse : String → Document) (source : String) :
    (∀ i cause, p.apply parse source = .error (i, cause) ↔
      PlanIssue.ambiguousImport i cause ∈ p.issues ∧
        ∀ j other, PlanIssue.ambiguousImport j other ∈ p.issues → i ≤ j) ∧
    ((∃ o, p.apply parse source = .ok o) ↔
      ∀ i cause, PlanIssue.ambiguousImport i cause ∉ p.issues) ∧
    (p.issues = [] → ∃ o, p.apply parse source = .ok o ∧ ∀ e ∈ o.errors, e ≠ .textNotFound "" ∧
      ∀ label, e ≠ .invalidEdit label "wrapper component name is empty" ∧
        e ≠ .invalidEdit label "markup is empty") := by
  refine ⟨fun i cause => apply_eq_error_iff, ⟨?_, fun h => ⟨_, apply_eq_ok h parse source⟩⟩, ?_⟩
  · -- Of the reported requests there is a first one, which would have ended the run.
    rintro ⟨o, hok⟩ i cause hissue
    let Reported (n : Nat) : Prop := ∃ other, PlanIssue.ambiguousImport n other ∈ p.issues
    have hsome : ∃ n, Reported n := ⟨i, cause, hissue⟩
    classical
    obtain ⟨other, hother⟩ := Nat.find_spec hsome
    have herror : p.apply parse source = .error (Nat.find hsome, other) :=
      apply_eq_error_iff.2 ⟨hother, fun j another hj => Nat.find_min' hsome ⟨another, hj⟩⟩
    rw [hok] at herror
    cases herror
  · intro h
    obtain ⟨o, hok, hblank⟩ := apply_noneBlank h parse source
    refine ⟨o, hok, fun e he => ⟨?_, fun label => ⟨?_, ?_⟩⟩⟩
    all_goals
      rintro rfl
      have := hblank _ he
      simp [GenerationError.reportsBlank, blankReasons] at this

/-- A complete plan: a wrapper with its import, markup, and a substitution. -/
def guarded : Plan where
  requests :=
    [.wrap (.locate { tag := "a" }) { component := "Guard",
                                      source := some { path := "m", defaultName := some "Guard" } },
      .insert (.locate { tag := "a" }) .before " <b/>", .replace "a" ""]

/-- Behind a complete request, two whose imports are ambiguous; one of them lacks a name as well. -/
def ambiguousTwice : Plan where
  requests :=
    let spec : ImportSpec := { path := "m", defaultName := some "A", namespaceName := some "N" }
    [.replace "a" "", .wrap (.locate { tag := "a" }) { component := " ", source := some spec },
      .addImport spec]

theorem apply_agrees_with_issues_guarded :
    guarded.issues = [] ∧
      (∃ o, guarded.apply parseComponent "<a/>;" = .ok o ∧ .textNotFound "" ∉ o.errors) ∧
      ambiguousTwice.issues =
        [.missingField 2 "component", .ambiguousImport 2 ⟨"m", "A", "N"⟩,
          .ambiguousImport 3 ⟨"m", "A", "N"⟩] ∧
      ambiguousTwice.apply parseComponent "<a/>;" = .error (2, ⟨"m", "A", "N"⟩) := by
  have hcomplete : guarded.issues = [] := by decide +kernel
  have hambiguous : ambiguousTwice.issues =
      [.missingField 2 "component", .ambiguousImport 2 ⟨"m", "A", "N"⟩,
        .ambiguousImport 3 ⟨"m", "A", "N"⟩] := by
    decide +kernel
  refine ⟨hcomplete, ?_, hambiguous, ?_⟩
  · obtain ⟨o, hok, herrors⟩ :=
      (apply_agrees_with_issues guarded parseComponent "<a/>;").2.2 hcomplete
    exact ⟨o, hok, fun hmem => (herrors _ hmem).1 rfl⟩
  · refine ((apply_agrees_with_issues ambiguousTwice parseComponent "<a/>;").1 2 _).2 ?_
    rw [hambiguous]
    refine ⟨by simp, fun j other hissue => ?_⟩
    simp only [List.mem_cons, PlanIssue.ambiguousImport.injEq, reduceCtorEq, List.not_mem_nil,
      or_false, false_or] at hissue
    omega

end Plan

end Graft
