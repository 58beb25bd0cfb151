import Graft.Proofs.Generation

set_option autoImplicit false

/-!
# The order of requests

Requests of the three kinds do not see each other, so it does not matter how they are interleaved.
Among requests about structure the order decides which of two that are in each other's way is
accepted. But a request is accepted behind others exactly if it is accepted alone and gets along
with each of them, and getting along is mutual. So if all requests are accepted in one order they
are in every order, and the code is the same unless two of them put text into the same place. The
last part needs a queue that is not too long: a slot has room for the numbers of 2^32 requests, and
behind that its insertions come between those of the next one.
-/

namespace Graft

/-! ## Sketches that get along -/

/-- Two sketches can be accepted together: they do not collide, and they declare different names. -/
structure Sketch.Compatible (source : String) (s t : Sketch) : Prop where
  clear : (s.draft source 1 "").conflict (t.draft source 1 "") = none
  apart : s.declares.Disjoint t.declares

theorem Sketch.Compatible.symm {source : String} {s t : Sketch}
    (h : s.Compatible source t) : t.Compatible source s :=
  ⟨Draft.conflict_eq_none_symm h.clear, fun _ ht hs => h.apart hs ht⟩

namespace Workspace

variable {w : Workspace} {baseline : Document}

theorem accepts_iff_sketch {accepted : List Sketch} {request : Request} {s : Sketch} :
    w.accepts baseline accepted request = some s ↔
      w.sketch (accepted.flatMap (·.declares)) request "" = some (.ok s) ∧
      w.admits baseline accepted s = true := by
  unfold accepts
  split
  · rename_i t ht
    rw [Option.ite_none_right_eq_some, ht, Option.some_inj, Option.some_inj, Except.ok.injEq]
    constructor
    · rintro ⟨hadmits, rfl⟩
      exact ⟨rfl, hadmits⟩
    · rintro ⟨rfl, hadmits⟩
      exact ⟨hadmits, rfl⟩
  · rename_i hnot
    exact iff_of_false (by rintro ⟨⟩) fun h => hnot s h.1

/-- **A request is accepted behind others exactly if it is accepted alone and gets along with each
of them.** -/
theorem accepts_eq_some_iff {accepted : List Sketch} {request : Request} {s : Sketch} :
    w.accepts baseline accepted request = some s ↔
      w.accepts baseline [] request = some s ∧
      ∀ other ∈ accepted, s.Compatible w.document.source other := by
  have hnames : (∀ x ∈ s.declares, x ∉ accepted.flatMap (·.declares)) ↔
      ∀ other ∈ accepted, s.declares.Disjoint other.declares := by
    simp only [List.mem_flatMap, not_exists, not_and, List.Disjoint]
    exact ⟨fun h other hother x hx hx' => h x hx other hother hx',
      fun h x hx other hother hx' => h other hother hx hx'⟩
  have hcompatible : (∀ other ∈ accepted, s.Compatible w.document.source other) ↔
      (∀ other ∈ accepted,
        (s.draft w.document.source 1 "").conflict (other.draft w.document.source 1 "") = none) ∧
        ∀ other ∈ accepted, s.declares.Disjoint other.declares :=
    ⟨fun h => ⟨fun other hother => (h other hother).clear,
      fun other hother => (h other hother).apart⟩,
      fun h other hother => ⟨h.1 other hother, h.2 other hother⟩⟩
  rw [accepts_iff_sketch, accepts_iff_sketch, sketch_eq_some_ok_iff, hnames, hcompatible]
  simp only [admits, List.all_nil, Bool.and_true, Bool.and_eq_true, List.all_eq_true,
    Option.isNone_iff_eq_none, List.flatMap_nil]
  tauto

/-! ## Queues that are accepted as a whole -/

/-- If all sketches get along, those of a queue are the ones its requests have alone. -/
theorem acceptAll_of_compatible {accepted : List Sketch} {queue : List Request}
    (h : (accepted ++ queue.filterMap (w.accepts baseline [])).Pairwise
      (Sketch.Compatible w.document.source)) :
    w.acceptAll baseline accepted queue = accepted ++ queue.filterMap (w.accepts baseline []) := by
  induction queue generalizing accepted with
  | nil => rw [acceptAll, List.filterMap_nil, List.append_nil]
  | cons request queue ih =>
    cases halone : w.accepts baseline [] request with
    | none =>
      have hnone : w.accepts baseline accepted request = none := by
        rw [Option.eq_none_iff_forall_not_mem]
        intro s hs
        have := (accepts_eq_some_iff.1 hs).1
        simp [halone] at this
      rw [List.filterMap_cons_none halone] at h ⊢
      rw [acceptAll, hnone, Option.toList_none, List.append_nil, ih h]
    | some s =>
      rw [List.filterMap_cons_some halone] at h ⊢
      have hsome : w.accepts baseline accepted request = some s := by
        refine accepts_eq_some_iff.2 ⟨halone, fun other hother => ?_⟩
        exact ((List.pairwise_append.1 h).2.2 other hother s List.mem_cons_self).symm
      rw [acceptAll, hsome, Option.toList_some, ih (by rwa [List.append_assoc]), List.append_assoc,
        List.singleton_append]

theorem length_acceptAll_le (w : Workspace) (baseline : Document) (accepted : List Sketch)
    (queue : List Request) :
    (w.acceptAll baseline accepted queue).length ≤
      accepted.length + (queue.filter (·.isStructural)).length := by
  induction queue generalizing accepted with
  | nil => rfl
  | cons request queue ih =>
    have hrest := ih (accepted ++ (w.accepts baseline accepted request).toList)
    rw [acceptAll]
    cases hstruct : request.isStructural with
    | false =>
      rw [accepts_eq_none_of_not_structural hstruct, Option.toList_none, List.append_nil] at hrest ⊢
      rwa [List.filter_cons_of_neg (by simp [hstruct])]
    | true =>
      have hone : (w.accepts baseline accepted request).toList.length ≤ 1 := by
        cases w.accepts baseline accepted request <;> simp
      rw [List.filter_cons_of_pos (by simpa using hstruct), List.length_cons]
      rw [List.length_append] at hrest
      omega

/-- If as many sketches are accepted as there are requests about structure, each is accepted alone
and all get along. -/
theorem compatible_of_length {accepted : List Sketch} {queue : List Request}
    (hacc : accepted.Pairwise (Sketch.Compatible w.document.source))
    (hlength : (w.acceptAll baseline accepted queue).length =
      accepted.length + (queue.filter (·.isStructural)).length) :
    (∀ request ∈ queue, request.isStructural = true →
      (w.accepts baseline [] request).isSome = true) ∧
      (accepted ++ queue.filterMap (w.accepts baseline [])).Pairwise
        (Sketch.Compatible w.document.source) := by
  induction queue generalizing accepted with
  | nil => exact ⟨fun _ h => absurd h List.not_mem_nil, by simpa using hacc⟩
  | cons request queue ih =>
    rw [acceptAll] at hlength
    cases hstruct : request.isStructural with
    | false =>
      rw [accepts_eq_none_of_not_structural hstruct, Option.toList_none, List.append_nil,
        List.filter_cons_of_neg (by simp [hstruct])] at hlength
      obtain ⟨halone, hpairs⟩ := ih hacc hlength
      rw [List.filterMap_cons_none (accepts_eq_none_of_not_structural hstruct)]
      refine ⟨List.forall_mem_cons.2 ⟨fun h => ?_, halone⟩, hpairs⟩
      simp [hstruct] at h
    | true =>
      rw [List.filter_cons_of_pos (by simpa using hstruct), List.length_cons] at hlength
      cases haccepts : w.accepts baseline accepted request with
      | none =>
        -- One request less is accepted, and the others cannot make up for it.
        rw [haccepts, Option.toList_none, List.append_nil] at hlength
        have := w.length_acceptAll_le baseline accepted queue
        omega
      | some s =>
        obtain ⟨halone, hcompatible⟩ := accepts_eq_some_iff.1 haccepts
        rw [haccepts, Option.toList_some] at hlength
        have hacc' : (accepted ++ [s]).Pairwise (Sketch.Compatible w.document.source) := by
          refine List.pairwise_append.2 ⟨hacc, List.pairwise_singleton _ _, ?_⟩
          intro other hother t ht
          rw [List.mem_singleton.1 ht]
          exact (hcompatible other hother).symm
        obtain ⟨hrest, hpairs⟩ :=
          ih hacc' (by rw [hlength, List.length_append, List.length_singleton]; omega)
        rw [List.filterMap_cons_some halone]
        refine ⟨List.forall_mem_cons.2 ⟨fun _ => by rw [halone]; rfl, hrest⟩, ?_⟩
        rwa [List.append_assoc, List.singleton_append] at hpairs

/-- Every request of a queue that is about structure is accepted. -/
def AcceptsAll (w : Workspace) (queue : List Request) : Prop :=
  (w.drafted queue).accepted.length = (queue.filter (·.isStructural)).length

theorem length_accepted_drafted (w : Workspace) (queue : List Request) :
    (w.drafted queue).accepted.length =
      (w.acceptAll (w.parse w.document.source) [] queue).length := by
  obtain ⟨verdicts, -, hrun, -, hall⟩ :=
    w.foldl_step (w.parse w.document.source) queue.zipIdx {} [] rfl .nil
  rw [List.zipIdx_map_fst, List.map_nil] at hall
  rw [← hall, List.length_map]
  exact (congrArg (·.accepted.length) hrun).trans (List.length_map _)

/-- **A queue is accepted as a whole exactly if each request is accepted alone and all get
along.** -/
theorem acceptsAll_iff {queue : List Request} : w.AcceptsAll queue ↔
    (∀ request ∈ queue, request.isStructural = true →
      (w.accepts (w.parse w.document.source) [] request).isSome = true) ∧
    (queue.filterMap (w.accepts (w.parse w.document.source) [])).Pairwise
      (Sketch.Compatible w.document.source) := by
  rw [AcceptsAll, length_accepted_drafted]
  constructor
  · intro h
    exact compatible_of_length .nil (by rw [h, List.length_nil, Nat.zero_add])
  · rintro ⟨halone, hpairs⟩
    rw [@acceptAll_of_compatible w _ [] queue hpairs, List.nil_append,
      List.length_filterMap_eq_countP, ← List.countP_eq_length_filter]
    refine List.countP_congr fun request hrequest => ⟨fun h => ?_, halone request hrequest⟩
    by_contra hnot
    simp [accepts_eq_none_of_not_structural (Bool.eq_false_of_not_eq_true hnot)] at h

/-- What requests have alone is seen from those about structure. -/
theorem filterMap_accepts_filter (queue : List Request) :
    (queue.filter (·.isStructural)).filterMap (w.accepts baseline []) =
      queue.filterMap (w.accepts baseline []) := by
  rw [List.filterMap_filter]
  congr 1
  funext request
  split
  · rfl
  · rename_i hnot
    exact (accepts_eq_none_of_not_structural (Bool.eq_false_of_not_eq_true hnot)).symm

/-- Whether a queue is accepted as a whole does not depend on its order. -/
theorem AcceptsAll.perm {queue queue' : List Request} (h : w.AcceptsAll queue)
    (hperm : (queue.filter (·.isStructural)).Perm (queue'.filter (·.isStructural))) :
    w.AcceptsAll queue' := by
  obtain ⟨halone, hpairs⟩ := acceptsAll_iff.1 h
  refine acceptsAll_iff.2 ⟨fun request hrequest hstruct => ?_, ?_⟩
  · have hmem := hperm.mem_iff.2 (List.mem_filter.2 ⟨hrequest, hstruct⟩)
    exact halone request (List.mem_of_mem_filter hmem) hstruct
  · rw [← filterMap_accepts_filter] at hpairs ⊢
    exact (hperm.filterMap _).pairwise hpairs Sketch.Compatible.symm

/-- The accepted sketches of a queue that is accepted as a whole. -/
theorem AcceptsAll.acceptAll_eq {queue : List Request} (h : w.AcceptsAll queue) :
    w.acceptAll (w.parse w.document.source) [] queue =
      queue.filterMap (w.accepts (w.parse w.document.source) []) :=
  @acceptAll_of_compatible w _ [] queue (acceptsAll_iff.1 h).2

end Workspace

/-! ## Texts with places of their own -/

/-- Two arrangements of at most one thing are the same. -/
theorem eq_of_perm_of_alone {α : Type} {l l' : List α} (hperm : l.Perm l')
    (h : l.Pairwise fun _ _ => False) : l = l' :=
  hperm.eq_of_pairwise (fun _ _ _ _ hfalse _ => hfalse.elim) h (hperm.pairwise h id)

namespace Sketch

/-- Two sketches put no text at the same offset into the same slot. -/
def Apart (s t : Sketch) : Prop :=
  ∀ i ∈ s.inserts, ∀ j ∈ t.inserts, i.offset = j.offset → i.slot ≠ j.slot

variable {accepted accepted' : List Sketch}

/-- If sketches stay apart, a slot takes at most one text at an offset. -/
theorem pairwise_textsAt (hone : ∀ s ∈ accepted, s.OnePerSlot) (hapart : accepted.Pairwise Apart)
    (slot : Slot) (p : Nat) : (textsAt accepted slot p).Pairwise fun _ _ => False := by
  have hplace : ∀ (s : Sketch) (i : Insert),
      (i ∈ s.inserts.filter fun i => i.slot = slot && i.offset == p) →
      i ∈ s.inserts ∧ i.slot = slot ∧ i.offset = p := by
    intro s i hi
    simpa using hi
  refine List.pairwise_flatMap.2 ⟨?_, ?_⟩
  · intro s hs
    rw [List.pairwise_map]
    refine ((hone s hs).filter _).imp_of_mem ?_
    intro i j hi hj hne
    exact hne ((hplace s i hi).2.1.trans (hplace s j hj).2.1.symm)
  · refine hapart.imp ?_
    intro s t hst text htext text' htext'
    obtain ⟨i, hi, -⟩ := List.mem_map.1 htext
    obtain ⟨j, hj, -⟩ := List.mem_map.1 htext'
    obtain ⟨hi, hslot, hoffset⟩ := hplace s i hi
    obtain ⟨hj, hslot', hoffset'⟩ := hplace t j hj
    exact hst i hi j hj (hoffset.trans hoffset'.symm) (hslot.trans hslot'.symm)

/-- Of sketches that get along at most one removes text from an offset on. -/
theorem pairwise_removed {source : String}
    (hordered : ∀ s ∈ accepted, ∀ r ∈ s.removed, r.start ≤ r.stop)
    (hclear : accepted.Pairwise (Compatible source)) (p : Nat) :
    (accepted.filterMap fun s => s.removed.filter fun r => r.start != r.stop &&
      r.start == p).Pairwise fun _ _ => False := by
  rw [List.pairwise_filterMap]
  refine hclear.imp_of_mem ?_
  intro s t hs ht hst r hr r' hr'
  obtain ⟨hr, hstart⟩ := Option.filter_eq_some_iff.1 hr
  obtain ⟨hr', hstart'⟩ := Option.filter_eq_some_iff.1 hr'
  simp only [Bool.and_eq_true, bne_iff_ne, ne_eq, beq_iff_eq] at hstart hstart'
  have hremoval : ∀ {s : Sketch} {r : ByteRange}, s.removed = some r →
      r.removal source ∈ (s.draft source 1 "").edits :=
    fun h => List.mem_append_right _ (List.mem_map_of_mem (Option.mem_toList.2 h))
  have hover := (Draft.conflict_eq_none_iff.1 hst.clear).2.2 _ (hremoval hr) _ (hremoval hr')
  have hle := hordered s hs r hr
  have hle' := hordered t ht r' hr'
  have hapart : r.stop ≤ r'.start ∨ r'.stop ≤ r.start := Edit.overlaps_eq_false_iff.1 hover
  omega

/-- Sketches that get along and stay apart leave a text laid out the same in every order. -/
theorem textLayout_perm {source : String} (hperm : accepted.Perm accepted')
    (hone : ∀ s ∈ accepted, s.OnePerSlot) (hapart : accepted.Pairwise Apart)
    (hclear : accepted.Pairwise (Compatible source))
    (hordered : ∀ s ∈ accepted, ∀ r ∈ s.removed, r.start ≤ r.stop) (merges : List Edit)
    (block : Option Edit) :
    textLayout merges block accepted = textLayout merges block accepted' := by
  have htexts : ∀ slot p, textsAt accepted slot p = textsAt accepted' slot p := fun slot p =>
    eq_of_perm_of_alone (hperm.flatMap_right _) (pairwise_textsAt hone hapart slot p)
  have hremoved : ∀ p, (accepted.findSome? fun s => s.removed.filter fun r => r.start != r.stop &&
      r.start == p) =
      accepted'.findSome? fun s => s.removed.filter fun r => r.start != r.stop && r.start == p := by
    intro p
    rw [← List.head?_filterMap, ← List.head?_filterMap,
      eq_of_perm_of_alone (hperm.filterMap _) (pairwise_removed hordered hclear p)]
  simp only [textLayout, htexts, hremoved]

end Sketch

namespace Workspace

variable {w : Workspace}

/-- Where a request puts text: offsets, each with a slot. -/
def places (w : Workspace) (request : Request) : List (Nat × Slot) :=
  match w.sketch [] request "" with
  | some (.ok s) => s.inserts.map fun i => (i.offset, i.slot)
  | _ => []

theorem places_of_accepts {baseline : Document} {request : Request} {s : Sketch}
    (h : w.accepts baseline [] request = some s) :
    w.places request = s.inserts.map fun i => (i.offset, i.slot) := by
  have hsketch : w.sketch [] request "" = some (.ok s) := (accepts_iff_sketch.1 h).1
  rw [places, hsketch]

theorem onePerSlot_of_accepts {baseline : Document} {request : Request} {s : Sketch}
    (h : w.accepts baseline [] request = some s) : s.OnePerSlot :=
  (sketched_of_sketch (accepts_iff_sketch.1 h).1).onePerSlot

theorem pairwise_apart {baseline : Document} {queue : List Request}
    (h : queue.Pairwise fun r r' => ∀ x ∈ w.places r, ∀ y ∈ w.places r', x ≠ y) :
    (queue.filterMap (w.accepts baseline [])).Pairwise Sketch.Apart := by
  rw [List.pairwise_filterMap]
  refine h.imp ?_
  intro r r' hplaces s hs t ht i hi j hj hoffset hslot
  rw [places_of_accepts hs, places_of_accepts ht] at hplaces
  exact hplaces (i.offset, i.slot) (List.mem_map_of_mem hi) (j.offset, j.slot)
    (List.mem_map_of_mem hj) (by rw [hoffset, hslot])

/-! ## Queues in another order -/

/-- Every request is of one of three kinds. -/
theorem length_eq_add (queue : List Request) :
    queue.length = (queue.filter (·.isStructural)).length +
    (queue.filterMap (·.importSpec?)).length + (queue.filterMap (·.substitution?)).length := by
  induction queue with
  | nil => rfl
  | cons request queue ih =>
    cases request <;>
      simp [Request.isStructural, Request.importSpec?, Request.substitution?, ih] <;> omega

theorem acceptAll_filter (w : Workspace) (baseline : Document) (accepted : List Sketch)
    (queue : List Request) :
    w.acceptAll baseline accepted (queue.filter (·.isStructural)) =
      w.acceptAll baseline accepted queue := by
  induction queue generalizing accepted with
  | nil => rfl
  | cons request queue ih =>
    cases hstruct : request.isStructural with
    | true =>
      rw [List.filter_cons_of_pos (by simpa using hstruct)]
      exact ih _
    | false =>
      rw [List.filter_cons_of_neg (by simp [hstruct]), ih, acceptAll,
        accepts_eq_none_of_not_structural hstruct, Option.toList_none, List.append_nil]

/-- In every order a queue that is accepted as a whole has the same accepted sketches. -/
theorem perm_acceptAll {queue queue' : List Request} (h : w.AcceptsAll queue)
    (hperm : (queue.filter (·.isStructural)).Perm (queue'.filter (·.isStructural))) :
    (w.acceptAll (w.parse w.document.source) [] queue).Perm
      (w.acceptAll (w.parse w.document.source) [] queue') := by
  rw [h.acceptAll_eq, (h.perm hperm).acceptAll_eq, ← filterMap_accepts_filter,
    ← filterMap_accepts_filter queue']
  exact hperm.filterMap _

/-- If no two of its requests put text into the same place, it leaves the text laid out the same. -/
theorem textLayout_acceptAll {queue queue' : List Request} (h : w.AcceptsAll queue)
    (hplaces : queue.Pairwise fun r r' => ∀ x ∈ w.places r, ∀ y ∈ w.places r', x ≠ y)
    (hperm : (queue.filter (·.isStructural)).Perm (queue'.filter (·.isStructural)))
    (hordered : ∀ s ∈ w.acceptAll (w.parse w.document.source) [] queue,
      ∀ r ∈ s.removed, r.start ≤ r.stop)
    (merges : List Edit) (block : Option Edit) :
    Sketch.textLayout merges block (w.acceptAll (w.parse w.document.source) [] queue) =
      Sketch.textLayout merges block (w.acceptAll (w.parse w.document.source) [] queue') := by
  have hone : ∀ s ∈ w.acceptAll (w.parse w.document.source) [] queue, s.OnePerSlot := by
    rw [h.acceptAll_eq]
    intro s hs
    obtain ⟨request, -, haccepts⟩ := List.mem_filterMap.1 hs
    exact onePerSlot_of_accepts haccepts
  have hapart : (w.acceptAll (w.parse w.document.source) [] queue).Pairwise Sketch.Apart := by
    rw [h.acceptAll_eq]
    exact pairwise_apart hplaces
  have hclear : (w.acceptAll (w.parse w.document.source) [] queue).Pairwise
      (Sketch.Compatible w.document.source) := by
    rw [h.acceptAll_eq]
    exact (acceptsAll_iff.1 h).2
  exact Sketch.textLayout_perm (perm_acceptAll h hperm) hone hapart hclear hordered merges block

end Workspace

namespace Session

theorem generate_congr {s : Session} {queue : List Request}
    (h : (s.workspace.generate queue).code = (s.workspace.generate s.queue).code) :
    ({ s with queue } : Session).generate.success = s.generate.success ∧
      ({ s with queue } : Session).generate.code = s.generate.code := by
  have hcode : ({ s with queue } : Session).generate.code = s.generate.code := by
    rw [generate, generate]
    cases s.parseFailure with
    | some reason => rfl
    | none => exact h
  exact ⟨by rw [generate_success, generate_success, hcode], hcode⟩

/-- **Requests of different kinds can be interleaved in any way**: queues with the same requests
about structure, the same imports and the same substitutions, each in the same order, give the same
code. -/
theorem generate_interleaved (s : Session) (queue : List Request)
    (hlen : s.queue.length < 0x100000000)
    (hstruct : queue.filter (·.isStructural) = s.queue.filter (·.isStructural))
    (himports : queue.filterMap (·.importSpec?) = s.queue.filterMap (·.importSpec?))
    (hsubst : queue.filterMap (·.substitution?) = s.queue.filterMap (·.substitution?)) :
    ({ s with queue } : Session).generate.success = s.generate.success ∧
      ({ s with queue } : Session).generate.code = s.generate.code := by
  have hlen' : queue.length < 0x100000000 := by
    rwa [Workspace.length_eq_add, hstruct, himports, hsubst, ← Workspace.length_eq_add]
  have hall (baseline : Document) :
      s.workspace.acceptAll baseline [] queue = s.workspace.acceptAll baseline [] s.queue := by
    rw [← Workspace.acceptAll_filter, hstruct, Workspace.acceptAll_filter]
  refine generate_congr (Workspace.generate_code_congr (fun code => ⟨?_, ?_⟩) hsubst)
  · exact Workspace.spliced_congr hlen' hlen (hall _) himports
  · exact Workspace.spliced_congr hlen hlen' (hall _).symm himports.symm

open Workspace in
theorem generate_interleaved_aroundElement :
    let s : Session := { workspace := oneElement, queue := aroundElement }
    let queue := aroundElement.drop 4 ++ aroundElement.take 4
    queue ≠ s.queue ∧ ({ s with queue } : Session).generate.code = s.generate.code :=
  ⟨by decide, (generate_interleaved _ _ (by decide) (by decide) (by decide) (by decide)).2⟩

/-- **Whether requests get along does not depend on their order**: if all requests of a queue that
are about structure are accepted, they are in every order. If no two requests put text into the same
place, and the slots have room for all of them, the code is the same too. -/
theorem generate_reordered (s : Session) (hall : s.workspace.AcceptsAll s.queue) :
    (∀ queue, s.queue.Perm queue → s.workspace.AcceptsAll queue) ∧
      (s.queue.length < 0x100000000 →
        (s.queue.Pairwise fun r r' =>
          ∀ x ∈ s.workspace.places r, ∀ y ∈ s.workspace.places r', x ≠ y) →
        ∀ queue, (s.queue.filter (·.isStructural)).Perm (queue.filter (·.isStructural)) →
          queue.filterMap (·.importSpec?) = s.queue.filterMap (·.importSpec?) →
          queue.filterMap (·.substitution?) = s.queue.filterMap (·.substitution?) →
          ({ s with queue } : Session).generate.success = s.generate.success ∧
            ({ s with queue } : Session).generate.code = s.generate.code) := by
  refine ⟨fun queue hperm => hall.perm (hperm.filter _), ?_⟩
  intro hlen hplaces queue hperm himports hsubst
  have hlen' : queue.length < 0x100000000 := by
    rwa [Workspace.length_eq_add, ← hperm.length_eq, himports, hsubst, ← Workspace.length_eq_add]
  have hsketches := Workspace.perm_acceptAll hall hperm
  have hlayout := Workspace.textLayout_acceptAll hall hplaces hperm
  refine generate_congr (Workspace.generate_code_congr (fun code => ⟨?_, ?_⟩) hsubst)
  · refine Workspace.spliced_rearrange hlen' hlen hsketches.symm
      (fun hordered merges block => ?_) himports
    exact (hlayout (fun t ht => hordered t (hsketches.mem_iff.1 ht)) merges block).symm
  · exact Workspace.spliced_rearrange hlen hlen' hsketches hlayout himports.symm

open Workspace in
theorem generate_reordered_aroundElement :
    let s : Session := { workspace := oneElement, queue := aroundElement.eraseIdx 1 |>.take 2 }
    s.workspace.AcceptsAll s.queue.reverse ∧ s.queue.reverse ≠ s.queue ∧
      ({ s with queue := s.queue.reverse } : Session).generate.code = s.generate.code := by
  intro s
  have hall : s.workspace.AcceptsAll s.queue := by unfold AcceptsAll; decide +kernel
  obtain ⟨hperms, hcode⟩ := generate_reordered s hall
  refine ⟨hperms _ s.queue.reverse_perm.symm, by decide, ?_⟩
  have hplaces : s.queue.Pairwise fun r r' => ∀ x ∈ s.workspace.places r,
      ∀ y ∈ s.workspace.places r', x ≠ y :=
    List.pairwise_pair.2 (by decide +kernel)
  exact (hcode (by decide) hplaces s.queue.reverse (s.queue.reverse_perm.filter _).symm rfl rfl).2

end Session

/-! ## Queues that are too long for the slots -/

theorem Request.eq_none_of_isStructural {request : Request} (h : request.isStructural = true) :
    request.importSpec? = none ∧ request.substitution? = none := by
  cases request <;> first | exact ⟨rfl, rfl⟩ | cases h

namespace Workspace

theorem substituteAll_of_notFound {substitutions : List (String × String)} {code : String}
    (h : ∀ s ∈ substitutions, replaceAll code s.1 s.2 = .error (.notFound s.1)) :
    (substituteAll substitutions code).1 = code := by
  unfold substituteAll
  refine List.foldlRecOn (motive := fun state : String × List GenerationError =>
    state.1 = code) _ _ rfl ?_
  rintro ⟨code', errors⟩ hcode s hs
  obtain rfl : code' = code := hcode
  simp only [h s hs]

/-- Two requests far apart, with substitutions between them that find nothing. -/
def farApart (n : Nat) (first last : Request) : List Request :=
  first :: (List.replicate n (.replace "?" "!") ++ [last])

theorem filterMap_farApart {α : Type} {f : Request → Option α} {first last : Request}
    (hfirst : f first = none) (hlast : f last = none) (n : Nat) :
    (farApart n first last).filterMap f =
      (List.replicate n (Request.replace "?" "!")).filterMap f := by
  rw [farApart, List.filterMap_cons_none hfirst, List.filterMap_append,
    List.filterMap_cons_none hlast, List.filterMap_nil, List.append_nil]

theorem drafted_farApart (w : Workspace) (n : Nat) (first last : Request) :
    w.drafted (farApart n first last) =
      w.step (w.parse w.document.source) (w.step (w.parse w.document.source) {} first 1) last
        (n + 2) := by
  have hskip (n k : Nat) (p : Progress) :
      ((List.replicate n (Request.replace "?" "!")).zipIdx k).foldl
      (fun p x => w.step (w.parse w.document.source) p x.1 (x.2 + 1)) p = p := by
    induction n generalizing k with
    | zero => rfl
    | succ n ih => exact ih (k + 1)
  show (farApart n first last).zipIdx.foldl (fun p x =>
    w.step (w.parse w.document.source) p x.1 (x.2 + 1)) {} = _
  rw [farApart, List.zipIdx_cons, List.foldl_cons, List.zipIdx_append, List.foldl_append, hskip]
  simp [Nat.add_comm, Nat.add_left_comm]

theorem filter_farApart {first last : Request} (hfirst : first.isStructural = true)
    (hlast : last.isStructural = true) (n : Nat) :
    (farApart n first last).filter (·.isStructural) = [first, last] := by
  have hskip : (List.replicate n (Request.replace "?" "!")).filter (·.isStructural) = [] :=
    List.filter_replicate_of_neg (by decide)
  rw [farApart, List.filter_cons_of_pos hfirst, List.filter_append, hskip, List.nil_append,
    List.filter_cons_of_pos hlast, List.filter_nil]

theorem places_farApart {w : Workspace} {first last : Request}
    (h : ∀ x ∈ w.places first, ∀ y ∈ w.places last, x ≠ y) (n : Nat) :
    (farApart n first last).Pairwise fun r r' => ∀ x ∈ w.places r, ∀ y ∈ w.places r', x ≠ y := by
  have hskip : ∀ r ∈ List.replicate n (Request.replace "?" "!"), w.places r = [] := by
    intro r hr
    rw [List.eq_of_mem_replicate hr]
    rfl
  refine List.pairwise_cons.2 ⟨?_, List.pairwise_append.2 ⟨?_, List.pairwise_singleton _ _, ?_⟩⟩
  · intro r hr
    rcases List.mem_append.1 hr with hr | hr
    · simp [hskip r hr]
    · rwa [List.mem_singleton.1 hr]
  · refine List.pairwise_of_forall_mem_list fun r hr r' _ => ?_
    simp [hskip r hr]
  · intro r hr r' _
    simp [hskip r hr]

theorem generate_code_farApart {n : Nat} {first last : Request} (edits : List Edit) {code : String}
    (hfirst : first.isStructural = true) (hlast : last.isStructural = true)
    (hedits : (oneElement.drafted (farApart n first last)).accepted.flatMap (·.edits) = edits)
    (hcode : Edit.applyBatch "<a/>" edits = .ok code)
    (hnone : replaceAll code "?" "!" = .error (.notFound "?")) :
    (oneElement.generate (farApart n first last)).code = some code := by
  obtain ⟨himport, hsubst⟩ := Request.eq_none_of_isStructural hfirst
  obtain ⟨himport', hsubst'⟩ := Request.eq_none_of_isStructural hlast
  have hspliced : oneElement.spliced (farApart n first last) = .ok code := by
    have hskip : (List.replicate n (Request.replace "?" "!")).filterMap (·.importSpec?) = [] :=
      List.filterMap_replicate_of_none rfl
    rw [spliced, imported, filterMap_farApart himport himport', hskip, hedits]
    exact hcode
  have hcompleted (errors : List GenerationError) :
      (oneElement.completed (farApart n first last) errors code).code =
        some (substituteAll ((farApart n first last).filterMap (·.substitution?)) code).1 := rfl
  rw [generate_eq, hspliced]
  refine (hcompleted _).trans (congrArg some (substituteAll_of_notFound fun s hs => ?_))
  have hsome : Request.substitution? (.replace "?" "!") = some ("?", "!") := rfl
  rw [filterMap_farApart hsubst hsubst', List.filterMap_replicate_of_some hsome] at hs
  rw [List.eq_of_mem_replicate hs]
  exact hnone

/-- **A queue that is too long for the slots**: an element is wrapped by the first request, and the
text that the last one puts before it ends up inside the wrapper. Exchanging the two gives different
code. -/
theorem exists_reordered_code_ne : ∃ queue queue' : List Request, queue.length = 0x100000002 ∧
    oneElement.AcceptsAll queue ∧
      (queue.Pairwise fun r r' => ∀ x ∈ oneElement.places r, ∀ y ∈ oneElement.places r', x ≠ y) ∧
      (queue.filter (·.isStructural)).Perm (queue'.filter (·.isStructural)) ∧
      queue'.filterMap (·.importSpec?) = queue.filterMap (·.importSpec?) ∧
      queue'.filterMap (·.substitution?) = queue.filterMap (·.substitution?) ∧
      (oneElement.generate queue').code ≠ (oneElement.generate queue).code := by
  let wrap : Request := .wrap (.locate { tag := "a" }) { component := "B" }
  let lead : Request := .insert (.locate { tag := "a" }) .before "x"
  have hwrapped : (oneElement.generate (farApart 0x100000000 wrap lead)).code =
      some "<B>x\n<a/></B>" := by
    let closing : Edit := Insert.edit 1 ⟨4, "</B>", .closing⟩
    let opening : Edit := Insert.edit 1 ⟨0, "<B>", .opening⟩
    let leading : Edit := Insert.edit 0x100000002 ⟨0, "x\n", .leading⟩
    have hsorted : Edit.sorted [opening, closing, leading] = [closing, leading, opening] :=
      Edit.sorted_eq_of_perm (by decide) (by decide)
    refine generate_code_farApart [opening, closing, leading] rfl rfl ?_ ?_ (by decide +kernel)
    · rw [drafted_farApart]
      decide +kernel
    · rw [Edit.applyBatch, hsorted]
      decide +kernel
  have hled : (oneElement.generate (farApart 0x100000000 lead wrap)).code =
      some "x\n<B><a/></B>" := by
    let closing : Edit := Insert.edit 0x100000002 ⟨4, "</B>", .closing⟩
    let opening : Edit := Insert.edit 0x100000002 ⟨0, "<B>", .opening⟩
    let leading : Edit := Insert.edit 1 ⟨0, "x\n", .leading⟩
    have hsorted : Edit.sorted [leading, opening, closing] = [closing, opening, leading] :=
      Edit.sorted_eq_of_perm (by decide) (by decide)
    refine generate_code_farApart [leading, opening, closing] rfl rfl ?_ ?_ (by decide +kernel)
    · rw [drafted_farApart]
      decide +kernel
    · rw [Edit.applyBatch, hsorted]
      decide +kernel
  refine ⟨farApart 0x100000000 wrap lead, farApart 0x100000000 lead wrap, ?_,
    ?_, ?_, ?_, ?_, ?_, ?_⟩
  · rw [farApart, List.length_cons, List.length_append, List.length_replicate,
      List.length_singleton]
  · rw [AcceptsAll, drafted_farApart, filter_farApart rfl rfl]
    decide +kernel
  · exact places_farApart (by decide +kernel) _
  · rw [filter_farApart rfl rfl, filter_farApart rfl rfl]
    exact .swap _ _ _
  · rw [filterMap_farApart rfl rfl, filterMap_farApart rfl rfl]
  · rw [filterMap_farApart rfl rfl, filterMap_farApart rfl rfl]
  · rw [hwrapped, hled]
    decide

end Workspace

end Graft
