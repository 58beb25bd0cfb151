import Graft.Proofs.Sketch

set_option autoImplicit false

/-!
# Which requests are accepted

Requests are taken one after the other, and whether one is accepted depends on what was accepted
before. It does not depend on numbers and names: `Workspace.accepts` decides it from sketches alone,
and `Workspace.acceptAll` is the run of a whole queue. The steps of a session follow it, with a
number and a name on every accepted sketch.
-/

namespace Graft

/-! ## Numbers do not matter -/

/-- An edit without its order. -/
def Edit.plain (e : Edit) : Edit := { e with order := 0 }

theorem Edit.check_plain (source : List Char) (e : Edit) :
    e.plain.check source = e.check source := rfl

theorem Edit.firstOverlap_map_plain (edits : List Edit) :
    firstOverlap (edits.map plain) = firstOverlap edits := by
  induction edits with
  | nil => rfl
  | cons later edits ih =>
    cases edits with
    | nil => rfl
    | cons earlier rest =>
      rw [List.map_cons] at ih
      rw [List.map_cons, List.map_cons, firstOverlap, firstOverlap, ih]
      rfl

theorem plain_batch (source : String) (merges : List Edit) (block : Option Edit)
    (accepted : List Numbered) :
    (Numbered.batch source merges block accepted).map Edit.plain =
      (merges ++ block.toList).map Edit.plain ++ (accepted.map (·.sketch)).flatMap fun s =>
        s.inserts.map (fun i => (Edit.insertion i.offset i.text).plain) ++
          s.removed.toList.map (ByteRange.removal source) := by
  rw [Numbered.batch, List.map_append, List.map_flatMap, List.flatMap_map]
  congr 2
  funext n
  show (n.sketch.inserts.map (Insert.edit n.seq) ++
    n.sketch.removed.toList.map (ByteRange.removal source)).map Edit.plain = _
  rw [List.map_append, List.map_map, List.map_map]
  rfl

/-- Sketches in another order, and with other numbers, make the same text of a source if they leave
it laid out the same. -/
theorem applyBatch_rearrange {merges : List Edit} {block : Option Edit}
    {accepted accepted' : List Numbered}
    (h : Orderly merges block accepted) (h' : Orderly merges block accepted')
    (hperm : (accepted.map (·.sketch)).Perm (accepted'.map (·.sketch)))
    (hlayout : (∀ s ∈ accepted.map (·.sketch), ∀ r ∈ s.removed, r.start ≤ r.stop) →
      Sketch.textLayout merges block (accepted.map (·.sketch)) =
        Sketch.textLayout merges block (accepted'.map (·.sketch))) {source code : String}
    (hok : Edit.applyBatch source (Numbered.batch source merges block accepted) = .ok code) :
    Edit.applyBatch source (Numbered.batch source merges block accepted') = .ok code := by
  rw [Edit.applyBatch_eq_ok_iff] at *
  have hordered : ∀ s ∈ accepted.map (·.sketch), ∀ r ∈ s.removed, r.start ≤ r.stop := by
    refine List.forall_mem_map.2 fun n hn r hr => ?_
    have hmem : r.removal source ∈ (n.draft source).edits :=
      List.mem_append_right _ (List.mem_map_of_mem (Option.mem_toList.2 hr))
    have hvalid := hok.1 _ (List.mem_append_right _ (List.mem_flatMap.2 ⟨n, hn, hmem⟩))
    exact (Edit.check_eq_ok_iff.1 hvalid).1.ordered
  -- Whether edits are valid and whether they overlap is seen without their orders.
  have hplain : ((Numbered.batch source merges block accepted).map Edit.plain).Perm
      ((Numbered.batch source merges block accepted').map Edit.plain) := by
    rw [plain_batch, plain_batch]
    exact (hperm.flatMap_right _).append_left _
  refine ⟨?_, ?_, ?_⟩
  · intro e he
    obtain ⟨f, hf, hfe⟩ := List.mem_map.1 (hplain.mem_iff.2 (List.mem_map_of_mem he))
    rw [← e.check_plain, ← hfe, f.check_plain]
    exact hok.1 f hf
  · have hpairs : ((Numbered.batch source merges block accepted).map Edit.plain).Pairwise
        fun e f => e.overlaps f = false := List.pairwise_map.2 (hok.2.1.imp id)
    have hpairs' := hplain.pairwise hpairs fun {e f} h => by rwa [Edit.overlaps_comm]
    exact (List.pairwise_map.1 hpairs').imp id
  · rw [hok.2.2, h.renderPieces_assembly, h'.renderPieces_assembly, hlayout hordered]

/-- A batch depends on orders only as far as they are compared. -/
theorem applyBatch_map_congr {ι : Type} {f g : ι → Edit} (hplain : ∀ i, (f i).plain = (g i).plain)
    (horder : ∀ i j, (f i).order ≤ (f j).order ↔ (g i).order ≤ (g j).order) (source : String)
    (items : List ι) :
    Edit.applyBatch source (items.map f) = Edit.applyBatch source (items.map g) := by
  have hmap : ∀ l : List ι, (l.map f).map Edit.plain = (l.map g).map Edit.plain := by
    intro l
    rw [List.map_map, List.map_map]
    exact List.map_congr_left fun i _ => hplain i
  have hchecks : ∀ edits : List Edit, edits.forM (Edit.check source.toList) =
      (edits.map Edit.plain).forM (Edit.check source.toList) := by
    intro edits
    rw [List.forM_eq_forM, List.forM_map]
    rfl
  have hsplices : ∀ edits : List Edit, edits.foldl Edit.splice source.toList =
      (edits.map Edit.plain).foldl Edit.splice source.toList := by
    intro edits
    rw [List.foldl_map]
    rfl
  -- Both are sorted the same way, and what follows does not look at orders.
  have hsorted : ∃ l : List ι, Edit.sorted (items.map f) = l.map f ∧
      Edit.sorted (items.map g) = l.map g := by
    refine ⟨items.mergeSort fun i j => (Edit.spliceOrder (f i) (f j)).isLE, ?_, ?_⟩
    · refine (List.map_mergeSort ?_).symm
      intro i _ j _
      rfl
    · refine (List.map_mergeSort ?_).symm
      intro i _ j _
      have hi := hplain i
      have hj := hplain j
      simp only [Edit.plain, Edit.mk.injEq] at hi hj
      rw [Bool.eq_iff_iff, Edit.spliceOrder_isLE_iff, Edit.spliceOrder_isLE_iff, Edit.isInsertion,
        Edit.isInsertion, Edit.isInsertion, Edit.isInsertion, hi.1, hi.2.1, hj.1, hj.2.1, horder]
  obtain ⟨l, hf, hg⟩ := hsorted
  rw [Edit.applyBatch, Edit.applyBatch, hf, hg, hchecks (items.map f), hchecks (items.map g),
    hsplices (l.map f), hsplices (l.map g), ← Edit.firstOverlap_map_plain (l.map f),
    ← Edit.firstOverlap_map_plain (l.map g), hmap, hmap]

/-! ## Conflicts -/

theorem Edit.overlaps_eq (e f : Edit) :
    e.overlaps f =
      !(decide (e.range.stop ≤ f.range.start) || decide (f.range.stop ≤ e.range.start)) := by
  by_cases h : e.stop ≤ f.start ∨ f.stop ≤ e.start
  · rw [Edit.overlaps_eq_false_iff.2 h]
    rcases h with h | h <;> simp [Edit.range, h]
  · rw [Bool.eq_true_of_not_eq_false (mt Edit.overlaps_eq_false_iff.1 h)]
    simp [Edit.range, not_or.1 h]

namespace Draft

theorem removals_eq (d : Draft) :
    d.removals = (d.edits.map Edit.range).filter fun r => r.start != r.stop := by
  rw [removals, List.filter_map]
  rfl

/-- Drafts do not collide if neither takes away what the other needs and no edit of one is in the
way of one of the other. -/
theorem conflict_eq_none_iff {d o : Draft} : d.conflict o = none ↔
    d.breaks o = none ∧ o.breaks d = none ∧ ∀ e ∈ d.edits, ∀ f ∈ o.edits, e.overlaps f = false := by
  simp only [conflict, Option.or_eq_none_iff, Option.map_eq_none_iff, List.find?_eq_none,
    List.any_eq_true, not_exists, not_and, Bool.not_eq_true]

theorem conflict_eq_none_symm {d o : Draft} (h : d.conflict o = none) : o.conflict d = none := by
  obtain ⟨hbreaks, hbroken, hclear⟩ := conflict_eq_none_iff.1 h
  refine conflict_eq_none_iff.2 ⟨hbroken, hbreaks, fun e he f hf => ?_⟩
  rw [Edit.overlaps_comm]
  exact hclear f hf e he

/-- A conflict is a matter of ranges. -/
theorem conflict_congr {d d' o o' : Draft} (hd : d.edits.map Edit.range = d'.edits.map Edit.range)
    (ho : o.edits.map Edit.range = o'.edits.map Edit.range) (hda : d.anchors = d'.anchors)
    (hoa : o.anchors = o'.anchors) : d.conflict o = d'.conflict o' := by
  have hfind : ∀ d o : Draft,
      ((d.edits.find? fun e => o.edits.any fun f => e.overlaps f).map Edit.range) =
      (d.edits.map Edit.range).find? fun r => (o.edits.map Edit.range).any fun r' =>
        !(decide (r.stop ≤ r'.start) || decide (r'.stop ≤ r.start)) := by
    intro d o
    rw [List.find?_map]
    congr 2
    funext e
    simp only [Function.comp_apply, List.any_map, Edit.overlaps_eq]
    rfl
  simp only [conflict, breaks, removals_eq, hfind, hd, ho, hda, hoa]

end Draft

theorem Sketch.ranges_draft (source : String) (seq : Nat) (label : String) (s : Sketch) :
    (s.draft source seq label).edits.map Edit.range =
      s.inserts.map (fun i => ⟨i.offset, i.offset⟩) ++ s.removed.toList := by
  rw [Sketch.draft, List.map_append, List.map_map, List.map_map]
  congr 1
  exact List.map_id _

theorem Sketch.conflict_draft (source : String) (s t : Sketch) (seq seq' : Nat)
    (label label' : String) :
    (s.draft source seq label).conflict (t.draft source seq' label') =
      (s.draft source 1 "").conflict (t.draft source 1 "") :=
  Draft.conflict_congr (by rw [ranges_draft, ranges_draft])
    (by rw [ranges_draft, ranges_draft]) rfl rfl

/-! ## Screening -/

/-- Insertions of one request are ordered by their slots, whatever its number. -/
theorem Slot.order_le_iff (slot slot' : Slot) (seq : Nat) :
    slot.order seq ≤ slot'.order seq ↔ slot.order 1 ≤ slot'.order 1 := by
  cases slot <;> cases slot' <;> simp only [order, band] <;> omega

/-- A sketch alone comes to the same under all numbers. -/
theorem Sketch.applyBatch_draft (source : String) (s : Sketch) {seq : Nat} (hpos : 0 < seq)
    (label : String) :
    Edit.applyBatch source (s.draft source seq label).edits =
      Edit.applyBatch source (s.draft source 1 "").edits := by
  let parts : List (Insert ⊕ ByteRange) := s.inserts.map .inl ++ s.removed.toList.map .inr
  have hedits : ∀ seq label, (s.draft source seq label).edits =
      parts.map (Sum.elim (Insert.edit seq) (ByteRange.removal source)) := by
    intro seq label
    rw [List.map_append, List.map_map, List.map_map]
    rfl
  have hzero : ∀ slot : Slot, (slot.order seq ≤ 0 ↔ slot.order 1 ≤ 0) ∧
      (0 ≤ slot.order seq ↔ 0 ≤ slot.order 1) := by
    intro slot
    cases slot <;> simp only [Slot.order, Slot.band] <;> omega
  rw [hedits, hedits]
  refine applyBatch_map_congr ?_ ?_ source parts
  · rintro (i | r) <;> rfl
  · -- A removal has order zero, between closing tags and all else.
    rintro (i | r) (j | r')
    · exact Slot.order_le_iff i.slot j.slot seq
    · exact (hzero i.slot).1
    · exact (hzero j.slot).2
    · exact Iff.rfl

namespace Workspace

/-- Whether the edits of a sketch alone keep the syntax, if that is asked for. -/
def screens (w : Workspace) (baseline : Document) (s : Sketch) : Bool :=
  !w.options.validateOutput || (w.screen baseline (s.draft w.document.source 1 "")).isOk

/-- A single edit is screened by its range and its text. -/
theorem screen_isOk_of_single {w : Workspace} {baseline : Document} {d : Draft} {e : Edit}
    (h : d.edits = [e]) :
    (w.screen baseline d).isOk = (baseline.validateEdit w.parse e.start e.stop e.text).isOk := by
  have hscreen : w.screen baseline d =
      (baseline.validateEdit w.parse e.start e.stop e.text).mapError
      fun e => .invalidEdit d.label e.message := by
    simp only [screen, h]
  rw [hscreen]
  cases Document.validateEdit w.parse baseline e.start e.stop e.text <;> rfl

/-- Several edits are screened by what they make of the source. -/
theorem screen_isOk_iff_of_many {w : Workspace} {baseline : Document} {d : Draft}
    (h : d.edits.length ≠ 1) :
    (w.screen baseline d).isOk = true ↔ ∃ code, Edit.applyBatch w.document.source d.edits =
      .ok code ∧ (baseline.validateOutput (w.parse code)).isOk = true := by
  have hscreen : w.screen baseline d = (do
      let edited ← (Edit.applyBatch w.document.source d.edits).mapError fun e =>
          .invalidEdit d.label e.message
      (baseline.validateOutput (w.parse edited)).mapError fun e =>
        .invalidEdit d.label e.message) := by
    rw [screen]
    split
    · rename_i e he
      exact absurd (by rw [he]; rfl) h
    · rfl
  rw [hscreen]
  cases Edit.applyBatch w.document.source d.edits with
  | error e => simp [Except.mapError, bind, Except.bind, Except.isOk, Except.toBool]
  | ok code =>
    cases hv : baseline.validateOutput (w.parse code) <;>
      simp [Except.mapError, bind, Except.bind, Except.isOk, Except.toBool, hv]

theorem screen_draft (w : Workspace) (baseline : Document) (s : Sketch) {seq : Nat} (hpos : 0 < seq)
    (label : String) :
    (w.screen baseline (s.draft w.document.source seq label)).isOk =
      (w.screen baseline (s.draft w.document.source 1 "")).isOk := by
  have hplain : (s.draft w.document.source seq label).edits.map Edit.plain =
      (s.draft w.document.source 1 "").edits.map Edit.plain := by
    simp only [Sketch.draft, List.map_append, List.map_map]
    rfl
  -- A single edit is tried on the parsed source, several are made as a batch.
  by_cases hlen : (s.draft w.document.source 1 "").edits.length = 1
  · obtain ⟨e, he⟩ := List.length_eq_one_iff.1 hlen
    have hlen' : (s.draft w.document.source seq label).edits.length = 1 := by
      simpa [hlen] using congrArg List.length hplain
    obtain ⟨f, hf⟩ := List.length_eq_one_iff.1 hlen'
    rw [he, hf, List.map_singleton, List.map_singleton, List.singleton_inj] at hplain
    simp only [Edit.plain, Edit.mk.injEq] at hplain
    rw [screen_isOk_of_single he, screen_isOk_of_single hf, hplain.1, hplain.2.1, hplain.2.2.1]
  · have hlen' : (s.draft w.document.source seq label).edits.length ≠ 1 := by
      simpa [Sketch.draft] using hlen
    rw [Bool.eq_iff_iff, screen_isOk_iff_of_many hlen, screen_isOk_iff_of_many hlen',
      s.applyBatch_draft w.document.source hpos label]

/-- Screening fails with what was found wrong with an edit, or with the text that it makes. -/
theorem screen_eq_error {w : Workspace} {baseline : Document} {d : Draft} {e : GenerationError}
    (h : w.screen baseline d = .error e) :
    (∃ reason : ValidationError, e = .invalidEdit d.label reason.message) ∨
      ∃ reason : EditError, e = .invalidEdit d.label reason.message := by
  have hmap : ∀ {x : Except ValidationError Unit} {e : GenerationError},
      (x.mapError fun e => GenerationError.invalidEdit d.label e.message) = .error e →
        ∃ reason : ValidationError, e = .invalidEdit d.label reason.message := by
    intro x e h
    cases x with
    | ok a => simp [Except.mapError] at h
    | error reason =>
      cases h
      exact ⟨reason, rfl⟩
  rw [screen] at h
  split at h
  · exact .inl (hmap h)
  · rcases hbatch : Edit.applyBatch w.document.source d.edits with reason | code
    · rw [hbatch] at h
      cases h
      exact .inr ⟨reason, rfl⟩
    · rw [hbatch] at h
      exact .inl (hmap h)

/-- Screening does not fail fatally. -/
theorem screen_isFatal {w : Workspace} {baseline : Document} {d : Draft} {e : GenerationError}
    (h : w.screen baseline d = .error e) : e.isFatal = false := by
  obtain ⟨reason, rfl⟩ | ⟨reason, rfl⟩ := screen_eq_error h <;> rfl

/-! ## One request -/

/-- A draft can join accepted ones: it keeps the syntax, if that is asked for, and collides with
none of them. -/
structure Joins (w : Workspace) (baseline : Document) (accepted : List Draft)
    (d : Draft) : Prop where
  screened : w.options.validateOutput = true → (w.screen baseline d).isOk = true
  clear : ∀ other ∈ accepted, d.conflict other = none

/-- A draft is accepted exactly if it can join those before it; otherwise there is one error
more. -/
theorem consider_cases (w : Workspace) (baseline : Document) (progress : Progress) (d : Draft) :
    (w.Joins baseline progress.accepted d ∧ w.consider baseline progress d = progress.accept d) ∨
    (¬ w.Joins baseline progress.accepted d ∧ ∃ e, e.isFatal = false ∧
      w.consider baseline progress d = progress.fail e) := by
  rw [consider]
  cases hscreened : (if w.options.validateOutput then w.screen baseline d else .ok ()) with
  | error e =>
    cases hasked : w.options.validateOutput with
    | false => simp [hasked] at hscreened
    | true =>
      rw [hasked, if_pos rfl] at hscreened
      refine .inr ⟨fun h => ?_, e, screen_isFatal hscreened, rfl⟩
      simpa [hscreened, Except.isOk, Except.toBool] using h.screened hasked
  | ok u =>
    cases hfound : progress.accepted.findSome? fun other => (d.conflict other).map fun range =>
      (other, range) with
    | some found =>
      refine .inr ⟨fun h => ?_, _, rfl, rfl⟩
      obtain ⟨other, hmem, hconflict⟩ := List.exists_of_findSome?_eq_some hfound
      simp [h.clear other hmem] at hconflict
    | none =>
      refine .inl ⟨⟨fun hasked => ?_, fun other hmem => ?_⟩, rfl⟩
      · rw [hasked, if_pos rfl] at hscreened
        rw [hscreened]
        rfl
      · exact Option.map_eq_none_iff.1 (List.findSome?_eq_none_iff.1 hfound other hmem)

/-- Whether a sketch can join those that are accepted. -/
def admits (w : Workspace) (baseline : Document) (accepted : List Sketch) (s : Sketch) : Bool :=
  w.screens baseline s && accepted.all fun other =>
    ((s.draft w.document.source 1 "").conflict (other.draft w.document.source 1 "")).isNone

/-- The sketch of a request, if it is accepted behind others. -/
def accepts (w : Workspace) (baseline : Document) (accepted : List Sketch)
    (request : Request) : Option Sketch :=
  match w.sketch (accepted.flatMap (·.declares)) request "" with
  | some (.ok s) => if w.admits baseline accepted s then some s else none
  | _ => none

theorem Sketched.onePerSlot {w : Workspace} {declared : List (Nat × String)} {request : Request}
    {s : Sketch} (h : Sketched w declared request s) : s.OnePerSlot := by
  cases h with
  | state | effect | insert => exact List.pairwise_singleton _ _
  | wrap => simp [Sketch.OnePerSlot]
  | delete => exact List.Pairwise.nil

theorem accepts_eq_none_of_not_structural {w : Workspace} {baseline : Document}
    {accepted : List Sketch} {request : Request} (h : request.isStructural = false) :
    w.accepts baseline accepted request = none := by
  rw [accepts, sketch_eq_none h]

/-- Numbers do not matter for joining. -/
theorem admits_iff_joins (w : Workspace) (baseline : Document) (accepted : List Numbered)
    {n : Numbered} (hpos : 0 < n.seq) :
    w.admits baseline (accepted.map (·.sketch)) n.sketch = true ↔
      w.Joins baseline (accepted.map (·.draft w.document.source)) (n.draft w.document.source) := by
  have hscreen : w.screens baseline n.sketch = true ↔
      (w.options.validateOutput = true →
        (w.screen baseline (n.draft w.document.source)).isOk = true) := by
    rw [screens, ← screen_draft w baseline n.sketch hpos n.label]
    cases w.options.validateOutput <;> simp [Numbered.draft]
  have hclear :
      ((accepted.map (·.sketch)).all fun other => ((n.sketch.draft w.document.source 1 "").conflict
      (other.draft w.document.source 1 "")).isNone) = true ↔
      ∀ other ∈ accepted.map (·.draft w.document.source),
        (n.draft w.document.source).conflict other = none := by
    rw [List.all_map, List.all_eq_true, List.forall_mem_map]
    refine forall₂_congr fun m _ => ?_
    rw [Function.comp_apply, Option.isNone_iff_eq_none, Numbered.draft, Numbered.draft,
      Sketch.conflict_draft _ n.sketch m.sketch n.seq m.seq]
  rw [admits, Bool.and_eq_true, hscreen, hclear]
  exact ⟨fun h => ⟨h.1, h.2⟩, fun h => ⟨h.screened, h.clear⟩⟩

/-- What becomes of a request at a place of a queue: it is drafted, under a number and a name of its
own, or there is an error that is not fatal. -/
def Judged (w : Workspace) (item : Request × Nat) : Except GenerationError Numbered → Prop
  | .ok n => n.seq = item.2 + 1 ∧ n.label = item.1.label (item.2 + 1) ∧ ∃ declared,
      w.draft declared item.1 (item.2 + 1) = some (.ok (n.draft w.document.source)) ∧
        Sketched w declared item.1 n.sketch
  | .error e => e.isFatal = false

end Workspace

/-- Note what has become of a request. -/
def Progress.record (source : String) (progress : Progress) :
    Except GenerationError Numbered → Progress
  | .ok n => progress.accept (n.draft source)
  | .error e => progress.fail e

namespace Workspace

/-- **One request** is sketched and joins the accepted ones, or becomes one error. Which of the two
does not depend on numbers. -/
theorem step_structural {w : Workspace} (baseline : Document) {progress : Progress}
    {accepted : List Numbered} (hacc : progress.accepted = accepted.map (·.draft w.document.source))
    {request : Request} (hstruct : request.isStructural = true) (i : Nat) :
    ∃ verdict, w.Judged (request, i) verdict ∧
      w.step baseline progress request (i + 1) = progress.record w.document.source verdict ∧
      (∀ n, verdict = .ok n → w.Joins baseline progress.accepted (n.draft w.document.source)) ∧
      w.accepts baseline (accepted.map (·.sketch)) request = verdict.toOption.map (·.sketch) := by
  have hdeclared : progress.declared = (accepted.map (·.sketch)).flatMap (·.declares) := by
    rw [Progress.declared, hacc, List.flatMap_map, List.flatMap_map]
    rfl
  obtain ⟨f, hf, hsettled⟩ := w.sketch_settled progress.declared hstruct
  have hdraft : w.draft progress.declared request (i + 1) = some ((f (request.label (i + 1))).map
      (Sketch.draft w.document.source (i + 1) (request.label (i + 1)))) := by
    simp only [draft, hf, Option.map_some]
  rcases hsettled with ⟨s, hs, hok⟩ | herr
  · -- There is a sketch under every name, and it depends on the accepted ones whether it can join
    -- them.
    let n : Numbered := ⟨s, i + 1, request.label (i + 1)⟩
    have haccepts : w.accepts baseline (accepted.map (·.sketch)) request =
        if w.admits baseline (accepted.map (·.sketch)) n.sketch then some s else none := by
      rw [accepts, ← hdeclared, hf, hok]
    have hadmits := w.admits_iff_joins baseline accepted (n := n) i.succ_pos
    rw [← hacc] at hadmits
    rw [hok] at hdraft
    have hstep : w.step baseline progress request (i + 1) =
        w.consider baseline progress (n.draft w.document.source) := by
      rw [step, hdraft]
      rfl
    rcases w.consider_cases baseline progress (n.draft w.document.source) with ⟨hjoins, h⟩ |
      ⟨hjoins, e, he, h⟩
    · refine ⟨.ok n, ⟨rfl, rfl, _, hdraft, hs⟩, hstep.trans h, ?_, ?_⟩
      · rintro _ ⟨⟩
        exact hjoins
      · rw [haccepts, if_pos (hadmits.2 hjoins)]
        rfl
    · refine ⟨.error e, he, hstep.trans h, ?_, ?_⟩
      · rintro _ ⟨⟩
      · rw [haccepts, if_neg (mt hadmits.1 hjoins)]
        rfl
  · -- There is none under any name, so not under the empty one either.
    obtain ⟨e, he, hfail⟩ := herr (request.label (i + 1))
    rw [hfail] at hdraft
    have hstep : w.step baseline progress request (i + 1) = progress.fail e := by
      rw [step, hdraft]
      rfl
    refine ⟨.error e, he, hstep, ?_, ?_⟩
    · rintro _ ⟨⟩
    · obtain ⟨e, -, hfail⟩ := herr ""
      rw [accepts, ← hdeclared, hf, hfail]
      rfl

theorem step_not_structural {w : Workspace} {baseline : Document} {progress : Progress}
    {request : Request} {seq : Nat} (h : request.isStructural = false) :
    w.step baseline progress request seq = progress := by
  rw [step, draft, sketch_eq_none h]
  rfl

/-! ## All requests -/

/-- The sketches that are accepted of a queue, behind others. -/
def acceptAll (w : Workspace) (baseline : Document)
    (accepted : List Sketch) : List Request → List Sketch
  | [] => accepted
  | request :: queue =>
    w.acceptAll baseline (accepted ++ (w.accepts baseline accepted request).toList) queue

theorem acceptAll_append (w : Workspace) (baseline : Document) (accepted : List Sketch)
    (queue queue' : List Request) :
    w.acceptAll baseline accepted (queue ++ queue') =
      w.acceptAll baseline (w.acceptAll baseline accepted queue) queue' := by
  induction queue generalizing accepted with
  | nil => rfl
  | cons request queue ih => exact ih _

end Workspace

/-- What is accepted, of what has become of requests. -/
def acceptedOf (verdicts : List (Except GenerationError Numbered)) : List Numbered :=
  verdicts.filterMap Except.toOption

/-- What went wrong, of what has become of requests. -/
def errorsOf (verdicts : List (Except GenerationError Numbered)) : List GenerationError :=
  verdicts.filterMap fun
    | .ok _ => none
    | .error e => some e

section Verdicts

variable (verdicts : List (Except GenerationError Numbered))

@[simp] theorem acceptedOf_ok (n : Numbered) :
    acceptedOf (.ok n :: verdicts) = n :: acceptedOf verdicts := rfl

@[simp] theorem acceptedOf_error (e : GenerationError) :
    acceptedOf (.error e :: verdicts) = acceptedOf verdicts := rfl

@[simp] theorem errorsOf_ok (n : Numbered) : errorsOf (.ok n :: verdicts) = errorsOf verdicts := rfl

@[simp] theorem errorsOf_error (e : GenerationError) :
    errorsOf (.error e :: verdicts) = e :: errorsOf verdicts := rfl

end Verdicts

/-- No two drafts collide. -/
def Numbered.Clear (source : String) (accepted : List Numbered) : Prop :=
  accepted.Pairwise fun other n => (n.draft source).conflict (other.draft source) = none

namespace Workspace

/-- **All requests, one after the other**: every one about structure is accepted or becomes one
error, and the accepted ones do not collide. Numbers have no part in it. -/
theorem foldl_step (w : Workspace) (baseline : Document) (items : List (Request × Nat))
    (progress : Progress) (accepted : List Numbered)
    (hacc : progress.accepted = accepted.map (·.draft w.document.source))
    (hclear : Numbered.Clear w.document.source accepted) :
    ∃ verdicts, List.Forall₂ w.Judged (items.filter (·.1.isStructural)) verdicts ∧
      items.foldl (fun progress item => w.step baseline progress item.1 (item.2 + 1)) progress =
        { errors := progress.errors ++ errorsOf verdicts
          accepted := (accepted ++ acceptedOf verdicts).map (·.draft w.document.source) } ∧
      Numbered.Clear w.document.source (accepted ++ acceptedOf verdicts) ∧
      (accepted ++ acceptedOf verdicts).map (·.sketch) =
        w.acceptAll baseline (accepted.map (·.sketch)) (items.map (·.1)) := by
  -- What has been accepted so far is carried along as numbered sketches, since drafts do not show
  -- their slots.
  induction items generalizing progress accepted with
  | nil =>
    refine ⟨[], .nil, ?_, by simpa [acceptedOf] using hclear, by simp [acceptedOf, acceptAll]⟩
    simp [acceptedOf, errorsOf, ← hacc]
  | cons item items ih =>
    obtain ⟨request, i⟩ := item
    cases hstruct : request.isStructural with
    | false =>
      obtain ⟨verdicts, hjudged, hrun, hclear, hall⟩ := ih _ _ hacc hclear
      refine ⟨verdicts, ?_, ?_, hclear, ?_⟩
      · rwa [List.filter_cons_of_neg (by simp [hstruct])]
      · rw [List.foldl_cons, step_not_structural hstruct, hrun]
      · rw [hall, List.map_cons, acceptAll, accepts_eq_none_of_not_structural hstruct,
          Option.toList_none, List.append_nil]
    | true =>
      obtain ⟨verdict, hjudged, hstep, hjoins, haccepts⟩ := step_structural baseline hacc hstruct i
      rw [List.filter_cons_of_pos (by simpa using hstruct), List.foldl_cons, hstep]
      cases verdict with
      | error e =>
        obtain ⟨verdicts, hrest, hrun, hclear, hall⟩ := ih (progress.fail e) accepted hacc hclear
        refine ⟨.error e :: verdicts, .cons hjudged hrest, ?_, hclear, ?_⟩
        · rw [Progress.record, hrun, Progress.fail, List.append_assoc]
          rfl
        · rw [List.map_cons, acceptAll, haccepts]
          simpa [Except.toOption] using hall
      | ok n =>
        have hacc' : (progress.accept (n.draft w.document.source)).accepted =
            (accepted ++ [n]).map (·.draft w.document.source) := by
          rw [Progress.accept, hacc, List.map_append, List.map_singleton]
        have hclear' : Numbered.Clear w.document.source (accepted ++ [n]) := by
          refine List.pairwise_append.2 ⟨hclear, List.pairwise_singleton _ _, ?_⟩
          intro m hm n' hn'
          rw [List.mem_singleton.1 hn']
          exact (hjoins n rfl).clear _ (hacc ▸ List.mem_map_of_mem hm)
        obtain ⟨verdicts, hrest, hrun, hclear, hall⟩ := ih _ _ hacc' hclear'
        rw [List.append_assoc] at hrun hclear hall
        refine ⟨.ok n :: verdicts, .cons hjudged hrest, ?_, hclear, ?_⟩
        · rw [Progress.record, hrun]
          rfl
        · rw [List.map_cons, acceptAll, haccepts]
          simpa [Except.toOption] using hall

end Workspace

end Graft
