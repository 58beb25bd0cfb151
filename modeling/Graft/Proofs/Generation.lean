import Graft.Proofs.ImportEdits
import Graft.Proofs.Traversal
import Graft.Session

set_option autoImplicit false

/-!
# What is generated

The text that a queue of requests makes of a source, before any text is substituted: what it keeps,
and what it puts in where (`Workspace.Reads`). A request that is turned down leaves no trace in it,
so the queue without that request generates the same code.
-/

namespace Graft

namespace Workspace

/-! ## Phases -/

/-- What becomes of the requests about structure. -/
def drafted (w : Workspace) (queue : List Request) : Progress :=
  w.draftAll (w.parse w.document.source) queue

/-- What becomes of the requested imports. -/
def imported (w : Workspace) (queue : List Request) : ImportEdits :=
  w.importEdits (queue.filterMap (·.importSpec?)) (w.drafted queue).accepted

/-- All edits of a queue. -/
def edits (w : Workspace) (queue : List Request) : List Edit :=
  (w.imported queue).edits ++ (w.drafted queue).accepted.flatMap (·.edits)

/-- The text before substitutions, if all edits can be made. -/
def spliced (w : Workspace) (queue : List Request) : Except EditError String :=
  Edit.applyBatch w.document.source
    ((w.imported queue).edits ++ (w.drafted queue).accepted.flatMap (·.edits))

/-- From the text before substitutions to the result. -/
def completed (w : Workspace) (queue : List Request) (errors : List GenerationError)
    (code : String) : Outcome :=
  let substituted := substituteAll (queue.filterMap (·.substitution?)) code
  w.finish (w.parse w.document.source) substituted.1 (errors ++ substituted.2)

theorem validateOutput_self (d : Document) : d.validateOutput d = .ok () := by
  simp [Document.validateOutput]

theorem generate_eq (w : Workspace) (queue : List Request) :
    w.generate queue = match w.spliced queue with
      | .error e =>
        .failed ((w.drafted queue).errors ++ (w.imported queue).errors ++
          [.invalidEdit "splice" e.message])
      | .ok code =>
        w.completed queue ((w.drafted queue).errors ++ (w.imported queue).errors) code := by
  cases queue with
  | nil =>
    -- Nothing is done, so nothing can get worse.
    have hspliced : w.spliced [] = .ok w.document.source := by
      show Edit.applyBatch w.document.source [] = _
      simp [Edit.applyBatch, Edit.sorted, Edit.firstOverlap, pure, Except.pure, bind, Except.bind]
    rw [hspliced]
    show Outcome.emitted _ _ = w.finish (w.parse w.document.source) w.document.source []
    rw [finish, validateOutput_self]
    split <;> rfl
  | cons request queue =>
    rw [generate, if_neg (by simp)]
    rfl

/-! ## Verdicts on a queue -/

/-- The requests about structure, with their places in the queue. -/
def structural (queue : List Request) : List (Request × Nat) :=
  queue.zipIdx.filter (·.1.isStructural)

theorem zipIdx_pairwise (queue : List Request) : queue.zipIdx.Pairwise fun a b => a.2 < b.2 := by
  rw [← List.pairwise_map (f := Prod.snd), List.zipIdx_map_snd]
  exact List.pairwise_lt_range'

/-- **What becomes of a queue**: one verdict on every request about structure. -/
theorem draftAll_verdicts (w : Workspace) (baseline : Document) (queue : List Request) :
    ∃ verdicts, List.Forall₂ w.Judged (structural queue) verdicts ∧
      w.draftAll baseline queue =
        { errors := errorsOf verdicts,
          accepted := (acceptedOf verdicts).map (·.draft w.document.source) } ∧
      Numbered.Clear w.document.source (acceptedOf verdicts) ∧
      (acceptedOf verdicts).map (·.sketch) = w.acceptAll baseline [] queue := by
  obtain ⟨verdicts, hjudged, hrun, hclear, hall⟩ :=
    w.foldl_step baseline queue.zipIdx {} [] rfl .nil
  refine ⟨verdicts, hjudged, hrun, hclear, ?_⟩
  rwa [List.zipIdx_map_fst] at hall

section Judged

variable {w : Workspace} {items : List (Request × Nat)}
  {verdicts : List (Except GenerationError Numbered)}
  (h : List.Forall₂ w.Judged items verdicts)

include h

theorem judged_of_mem_acceptedOf {n : Numbered} (hn : n ∈ acceptedOf verdicts) :
    ∃ item ∈ items, w.Judged item (.ok n) := by
  induction h with
  | nil => exact absurd hn List.not_mem_nil
  | @cons item verdict items verdicts hjudged _ ih =>
    cases verdict with
    | error e =>
      obtain ⟨item', hmem, hitem⟩ := ih hn
      exact ⟨item', List.mem_cons_of_mem _ hmem, hitem⟩
    | ok m =>
      rcases List.mem_cons.1 hn with rfl | hn
      · exact ⟨item, List.mem_cons_self, hjudged⟩
      · obtain ⟨item', hmem, hitem⟩ := ih hn
        exact ⟨item', List.mem_cons_of_mem _ hmem, hitem⟩

theorem isFatal_of_mem_errorsOf {e : GenerationError}
    (he : e ∈ errorsOf verdicts) : e.isFatal = false := by
  induction h with
  | nil => exact absurd he List.not_mem_nil
  | @cons item verdict items verdicts hjudged _ ih =>
    cases verdict with
    | ok n => exact ih he
    | error e' =>
      rcases List.mem_cons.1 he with rfl | he
      · exact hjudged
      · exact ih he

theorem acceptedOf_pairwise (hitems : items.Pairwise fun a b => a.2 < b.2) :
    (acceptedOf verdicts).Pairwise fun n m => n.seq < m.seq := by
  induction h with
  | nil => exact List.Pairwise.nil
  | @cons item verdict items verdicts hjudged hrest ih =>
    obtain ⟨hfirst, hitems⟩ := List.pairwise_cons.1 hitems
    cases verdict with
    | error e => exact ih hitems
    | ok n =>
      refine List.pairwise_cons.2 ⟨?_, ih hitems⟩
      intro m hm
      obtain ⟨item', hmem, hitem⟩ := judged_of_mem_acceptedOf hrest hm
      rw [hjudged.1, hitem.1]
      exact Nat.succ_lt_succ (hfirst item' hmem)

end Judged

/-! ## The batch of a queue -/

/-- The merged imports of a queue that no accepted sketch is in the way of. -/
def spareMerges (w : Workspace) (queue : List Request) (accepted : List Sketch) : List Edit :=
  (w.mergeEdits (queue.filterMap (·.importSpec?))).filter (Sketch.spare accepted)

/-- The block of new imports of a queue, if no accepted sketch is in its way. -/
def spareBlock? (w : Workspace) (queue : List Request) (accepted : List Sketch) : Option Edit :=
  (w.importBlock? (queue.filterMap (·.importSpec?))).filter (Sketch.spare accepted)

/-- All edits of a queue, some sketches of which are accepted. -/
def batch (w : Workspace) (queue : List Request) (accepted : List Numbered) : List Edit :=
  Numbered.batch w.document.source (w.spareMerges queue (accepted.map (·.sketch)))
    (w.spareBlock? queue (accepted.map (·.sketch))) accepted

/-- Where everything stands in the text that a queue makes of the source. -/
def layout (w : Workspace) (queue : List Request) (accepted : List Sketch) : Layout String :=
  Sketch.textLayout (w.spareMerges queue accepted) (w.spareBlock? queue accepted) accepted

theorem orderly_of_judged {w : Workspace} {queue : List Request}
    {verdicts : List (Except GenerationError Numbered)}
    (h : List.Forall₂ w.Judged (structural queue) verdicts) (hlen : queue.length < 0x100000000)
    (accepted : List Sketch) :
    Orderly (w.spareMerges queue accepted) (w.spareBlock? queue accepted)
      (acceptedOf verdicts) where
  merges_insert e he := by
    obtain ⟨i, -, offset, -, text, rfl⟩ := mergesInto_of_mem_mergeEdits (List.mem_of_mem_filter he)
    exact Edit.isInsertion_iff.2 rfl
  merges_order e he := by
    obtain ⟨i, -, offset, -, text, rfl⟩ := mergesInto_of_mem_mergeEdits (List.mem_of_mem_filter he)
    rfl
  block_insert e he := by
    obtain ⟨text, rfl⟩ :=
      importBlock?_eq_some (Option.eq_some_of_filter_eq_some (Option.mem_toList.1 he))
    exact Edit.isInsertion_iff.2 rfl
  block_order e he := by
    obtain ⟨text, rfl⟩ :=
      importBlock?_eq_some (Option.eq_some_of_filter_eq_some (Option.mem_toList.1 he))
    rfl
  rising :=
    { pairwise := acceptedOf_pairwise h ((zipIdx_pairwise queue).filter _)
      pos := by
        intro n hn
        obtain ⟨item, -, hseq, -⟩ := judged_of_mem_acceptedOf h hn
        rw [hseq]
        exact Nat.succ_pos _
      lt_band := by
        intro n hn
        obtain ⟨item, hitem, hseq, -⟩ := judged_of_mem_acceptedOf h hn
        have := List.snd_lt_of_mem_zipIdx (List.mem_of_mem_filter hitem)
        rw [hseq, Slot.band]
        omega }
  one_per_slot n hn := by
    obtain ⟨item, -, -, -, declared, -, hsketched⟩ := judged_of_mem_acceptedOf h hn
    exact hsketched.onePerSlot

/-- The edits of a queue are the batch of what is accepted. -/
theorem edits_eq_batch {w : Workspace} {queue : List Request} {accepted : List Numbered}
    (h : (w.drafted queue).accepted = accepted.map (·.draft w.document.source)) :
    w.edits queue = w.batch queue accepted := by
  have himports := (w.importEdits_extends (queue.filterMap (·.importSpec?)) accepted).edits_eq
  rw [List.nil_append, List.filter_append, ← Option.toList_filter] at himports
  rw [edits, imported, h, himports, List.flatMap_map]
  rfl

theorem spliced_eq {w : Workspace} {queue : List Request} {accepted : List Numbered}
    (h : (w.drafted queue).accepted = accepted.map (·.draft w.document.source)) :
    w.spliced queue = Edit.applyBatch w.document.source (w.batch queue accepted) :=
  congrArg (Edit.applyBatch w.document.source) (edits_eq_batch h)

/-! ## Reading the text -/

/-- What a text has to do with the queue that it was generated from. -/
structure Reads (w : Workspace) (queue : List Request)
    (verdicts : List (Except GenerationError Numbered)) (code : String) : Prop where
  /-- Every request about structure was accepted or became one error. -/
  judged : List.Forall₂ w.Judged (structural queue) verdicts
  /-- Accepted are those that can join what is accepted before them. -/
  accepted_eq : (acceptedOf verdicts).map (·.sketch) =
    w.acceptAll (w.parse w.document.source) [] queue
  /-- Every character is as the layout has it. -/
  text_eq : code = String.ofList
    (Piece.render String.toList
      ((w.layout queue ((acceptedOf verdicts).map (·.sketch))).pieces w.chars))
  /-- Exactly the ranges of accepted deletions are gone. -/
  kept : ((w.layout queue ((acceptedOf verdicts).map (·.sketch))).pieces w.chars).filterMap
    Piece.kept? = (Text.located 0 w.chars).filter fun x =>
      (acceptedOf verdicts).all fun n => n.sketch.removed.all fun r => x.1 < r.start || r.stop ≤ x.1
  /-- Every edit of an accepted request was made, once, and so was every edit of an import that was
  spared. -/
  complete : code = String.ofList
      (Edit.renderPieces (Edit.assembly (w.batch queue (acceptedOf verdicts)) w.chars)) ∧
    ((Edit.assembly (w.batch queue (acceptedOf verdicts)) w.chars).filterMap Piece.added?).Perm
      (w.batch queue (acceptedOf verdicts))
  /-- What follows is substitution, with one error for each request that was turned down. -/
  outcome : w.generate queue =
    w.completed queue (errorsOf verdicts ++ (w.imported queue).errors) code

/-- **The text before substitutions.** Every request about structure has all its edits in it, or
else became one error. The text is the source without the ranges of accepted deletions and with, at
every offset, the block of new imports, closing tags from the last request to the first, merged
imports, and then what trails, what leads and what opens, each from the first request to the
last. -/
theorem spliced_reads (w : Workspace) (queue : List Request) (hlen : queue.length < 0x100000000)
    (code : String) (hcode : w.spliced queue = .ok code) :
    ∃ verdicts, w.Reads queue verdicts code := by
  obtain ⟨verdicts, hjudged, hdrafted, -, hall⟩ :=
    w.draftAll_verdicts (w.parse w.document.source) queue
  have hbatch : Edit.applyBatch w.document.source (w.batch queue (acceptedOf verdicts)) =
      .ok code := by
    rw [← spliced_eq (congrArg Progress.accepted hdrafted), hcode]
  obtain ⟨hvalid, hclear, htext⟩ := Edit.applyBatch_eq_ok_iff.1 hbatch
  have hfits : ∀ e ∈ w.batch queue (acceptedOf verdicts), e.Fits w.chars :=
    fun e he => (Edit.check_eq_ok_iff.1 (hvalid e he)).1
  have horderly := orderly_of_judged hjudged hlen ((acceptedOf verdicts).map (·.sketch))
  refine ⟨verdicts, hjudged, hall, ?_, ?_, ⟨htext, Edit.added_assembly hfits hclear⟩, ?_⟩
  · rw [htext]
    exact congrArg String.ofList (horderly.renderPieces_assembly w.document.source)
  · have hkept := Edit.kept_assembly hfits hclear
    simp only [batch, chars, horderly.outside_batch, List.all_map] at hkept
    exact (horderly.kept_pieces w.document.source).trans hkept
  · rw [generate_eq, hcode]
    show w.completed queue ((w.drafted queue).errors ++ _) code = _
    rw [drafted, hdrafted]

/-- A file that is one element. -/
def oneElement : Workspace where
  document :=
    { source := "<a/>"
      root := .mk { kind := "program", start := 0, stop := 4 }
        [.mk { kind := "jsx_self_closing_element", start := 0, stop := 4 }
          [.mk { kind := "identifier", field := some "name", start := 1, stop := 2 } []]] }
  options := { validateOutput := false }
  parse := .rootOnly

/-- Requests that meet at both ends of the element; the second has no target. -/
def aroundElement : List Request :=
  [.wrap (.locate { tag := "a" }) { component := "B" }, .delete (.node ⟨"a", 1, 0⟩),
    .insert (.locate { tag := "a" }) .before "x",
    .wrap (.locate { tag := "a" }) { component := "C" },
    .addImport { path := "p", defaultName := some "q" }]

/-- What is accepted of them. -/
def acceptedAround : List Numbered :=
  [⟨{ inserts := [⟨0, "<B>", .opening⟩, ⟨4, "</B>", .closing⟩], anchors := [⟨0, 4⟩] }, 1,
    "#1 wrap <a> in <B>"⟩,
    ⟨{ inserts := [⟨0, "x\n", .leading⟩], anchors := [⟨0, 4⟩] }, 3, "#3 insert markup before <a>"⟩,
    ⟨{ inserts := [⟨0, "<C>", .opening⟩, ⟨4, "</C>", .closing⟩], anchors := [⟨0, 4⟩] }, 4,
      "#4 wrap <a> in <C>"⟩]

theorem spliced_aroundElement :
    oneElement.spliced aroundElement = .ok "import q from 'p';\n\nx\n<B><C><a/></C></B>" := by
  have hdrafted : (oneElement.drafted aroundElement).accepted =
      acceptedAround.map (·.draft "<a/>") := by
    decide +kernel
  have hmerges : oneElement.spareMerges aroundElement (acceptedAround.map (·.sketch)) = [] := by
    decide +kernel
  have hblock : oneElement.spareBlock? aroundElement (acceptedAround.map (·.sketch)) =
      some { Edit.insertion 0 "import q from 'p';\n\n" with order := importBlockOrder } := by
    decide +kernel
  have horderly :
      Orderly [] (some { Edit.insertion 0 "import q from 'p';\n\n" with order := importBlockOrder })
      acceptedAround :=
    ⟨by decide, by decide, by decide, by decide, ⟨by decide, by decide, by decide⟩,
      by unfold Sketch.OnePerSlot; decide⟩
  rw [spliced_eq hdrafted, batch, hmerges, hblock]
  refine Edit.applyBatch_eq_ok_iff.2 ⟨by decide +kernel, by decide +kernel, ?_⟩
  rw [horderly.renderPieces_assembly]
  decide +kernel

theorem spliced_reads_aroundElement :
    aroundElement.length < 0x100000000 ∧
      oneElement.spliced aroundElement = .ok "import q from 'p';\n\nx\n<B><C><a/></C></B>" ∧
      ∃ verdicts, oneElement.Reads aroundElement verdicts
        "import q from 'p';\n\nx\n<B><C><a/></C></B>" :=
  ⟨by decide, spliced_aroundElement,
    spliced_reads oneElement aroundElement (by decide) _ spliced_aroundElement⟩

/-! ## Without a request -/

theorem finish_code (w : Workspace) (baseline : Document) (code : String)
    (errors errors' : List GenerationError) :
    (w.finish baseline code errors).code = (w.finish baseline code errors').code := by
  unfold finish
  split
  · split <;> rfl
  · rfl

theorem finish_success (w : Workspace) (baseline : Document) (code : String)
    (errors : List GenerationError) :
    (w.finish baseline code errors).success = (w.finish baseline code errors).code.isSome := by
  unfold finish
  split
  · split <;> rfl
  · rfl

/-- There is code exactly if nothing fatal happened. -/
theorem generate_success (w : Workspace) (queue : List Request) :
    (w.generate queue).success = (w.generate queue).code.isSome := by
  rw [generate_eq]
  split
  · rfl
  · exact w.finish_success _ _ _

/-- The code of a queue depends on the text before substitutions and on what is substituted. -/
theorem generate_code_congr {w : Workspace} {queue queue' : List Request}
    (hspliced : ∀ code, w.spliced queue = .ok code ↔ w.spliced queue' = .ok code)
    (hsubst : queue.filterMap (·.substitution?) = queue'.filterMap (·.substitution?)) :
    (w.generate queue).code = (w.generate queue').code := by
  rw [generate_eq, generate_eq]
  cases h : w.spliced queue with
  | ok code =>
    rw [(hspliced code).1 h]
    show (w.finish _ (substituteAll _ code).1 _).code = (w.finish _ (substituteAll _ code).1 _).code
    rw [hsubst]
    exact w.finish_code _ _ _ _
  | error e =>
    cases h' : w.spliced queue' with
    | ok code => rw [(hspliced code).2 h'] at h; cases h
    | error e' => rfl

/-- The text before substitutions depends on how the accepted sketches are laid out and on the
requested imports. -/
theorem spliced_rearrange {w : Workspace} {queue queue' : List Request}
    (hlen : queue.length < 0x100000000) (hlen' : queue'.length < 0x100000000)
    (hperm : (w.acceptAll (w.parse w.document.source) [] queue).Perm
      (w.acceptAll (w.parse w.document.source) [] queue'))
    (hlayout :
      (∀ s ∈ w.acceptAll (w.parse w.document.source) [] queue,
        ∀ r ∈ s.removed, r.start ≤ r.stop) →
      ∀ merges block,
        Sketch.textLayout merges block (w.acceptAll (w.parse w.document.source) [] queue) =
        Sketch.textLayout merges block (w.acceptAll (w.parse w.document.source) [] queue'))
    (himports : queue.filterMap (·.importSpec?) = queue'.filterMap (·.importSpec?)) {code : String}
    (h : w.spliced queue = .ok code) : w.spliced queue' = .ok code := by
  obtain ⟨verdicts, hjudged, hdrafted, -, hsketches⟩ :=
    w.draftAll_verdicts (w.parse w.document.source) queue
  obtain ⟨verdicts', hjudged', hdrafted', -, hsketches'⟩ :=
    w.draftAll_verdicts (w.parse w.document.source) queue'
  rw [← hsketches, ← hsketches'] at hperm hlayout
  have hmerges : w.spareMerges queue' ((acceptedOf verdicts').map (·.sketch)) =
      w.spareMerges queue ((acceptedOf verdicts).map (·.sketch)) := by
    rw [spareMerges, spareMerges, himports, Sketch.spare_perm hperm]
  have hblock : w.spareBlock? queue' ((acceptedOf verdicts').map (·.sketch)) =
      w.spareBlock? queue ((acceptedOf verdicts).map (·.sketch)) := by
    rw [spareBlock?, spareBlock?, himports, Sketch.spare_perm hperm]
  -- The two runs number the same sketches differently, and one batch becomes the other.
  have horderly' := orderly_of_judged hjudged' hlen' ((acceptedOf verdicts').map (·.sketch))
  rw [hmerges, hblock] at horderly'
  rw [spliced_eq (congrArg Progress.accepted hdrafted), batch] at h
  rw [spliced_eq (congrArg Progress.accepted hdrafted'), batch, hmerges, hblock]
  exact applyBatch_rearrange (orderly_of_judged hjudged hlen _) horderly' hperm
    (fun hordered => hlayout hordered _ _) h

/-- The text before substitutions depends on the accepted sketches and on the requested imports. -/
theorem spliced_congr {w : Workspace} {queue queue' : List Request}
    (hlen : queue.length < 0x100000000) (hlen' : queue'.length < 0x100000000)
    (hall : w.acceptAll (w.parse w.document.source) [] queue =
      w.acceptAll (w.parse w.document.source) [] queue')
    (himports : queue.filterMap (·.importSpec?) = queue'.filterMap (·.importSpec?)) {code : String}
    (h : w.spliced queue = .ok code) : w.spliced queue' = .ok code :=
  spliced_rearrange hlen hlen' (.of_eq hall) (fun _ _ _ => by rw [hall]) himports h

/-- A request behind others is turned down: it becomes an error. -/
def Rejects (w : Workspace) (before : List Request) (request : Request) : Prop :=
  ∃ e, w.step (w.parse w.document.source) (w.drafted before) request (before.length + 1) =
    (w.drafted before).fail e

/-- A request that is turned down is about structure, and its sketch is not accepted. -/
theorem Rejects.accepts_eq_none {w : Workspace} {before : List Request} {request : Request}
    (h : w.Rejects before request) :
    request.isStructural = true ∧ w.accepts (w.parse w.document.source)
      (w.acceptAll (w.parse w.document.source) [] before) request = none := by
  obtain ⟨e, hfail⟩ := h
  have hstruct : request.isStructural = true := by
    by_contra hnot
    rw [step_not_structural (Bool.eq_false_of_not_eq_true hnot)] at hfail
    simpa [Progress.fail] using congrArg (·.errors.length) hfail
  obtain ⟨verdicts, -, hdrafted, -, hsketches⟩ :=
    w.draftAll_verdicts (w.parse w.document.source) before
  obtain ⟨verdict, -, hstep, -, haccepts⟩ := step_structural (w.parse w.document.source)
    (congrArg Progress.accepted hdrafted) hstruct before.length
  refine ⟨hstruct, ?_⟩
  rw [← hsketches, haccepts]
  cases verdict with
  | error e => rfl
  | ok n =>
    -- Acceptance makes the list of accepted drafts longer, an error does not.
    have hrecord := hstep.symm.trans hfail
    simpa [Progress.record, Progress.accept, Progress.fail, drafted] using
      congrArg (·.accepted.length) hrecord

/-- The accepted sketches are the same without a request that is turned down. -/
theorem acceptAll_without {w : Workspace} {before : List Request} {request : Request}
    (after : List Request)
    (h : w.accepts (w.parse w.document.source) (w.acceptAll (w.parse w.document.source) [] before)
      request = none) :
    w.acceptAll (w.parse w.document.source) [] (before ++ request :: after) =
      w.acceptAll (w.parse w.document.source) [] (before ++ after) := by
  rw [acceptAll_append, acceptAll_append, acceptAll, h, Option.toList_none, List.append_nil]

theorem generate_code_without {w : Workspace} {before after : List Request} {request : Request}
    (hlen : (before ++ request :: after).length < 0x100000000) (h : w.Rejects before request) :
    (w.generate (before ++ after)).code = (w.generate (before ++ request :: after)).code := by
  obtain ⟨hstruct, hnone⟩ := h.accepts_eq_none
  have hall := acceptAll_without after hnone
  have himport : request.importSpec? = none := by
    cases request <;> simp [Request.isStructural] at hstruct <;> rfl
  have hsubst : request.substitution? = none := by
    cases request <;> simp [Request.isStructural] at hstruct <;> rfl
  have himports : (before ++ after).filterMap (·.importSpec?) =
      (before ++ request :: after).filterMap (·.importSpec?) := by
    rw [List.filterMap_append, List.filterMap_append, List.filterMap_cons_none himport]
  have hshort : (before ++ after).length < 0x100000000 := by
    rw [List.length_append, List.length_cons] at hlen
    rw [List.length_append]
    omega
  refine generate_code_congr (fun code => ⟨?_, ?_⟩) ?_
  · exact spliced_congr hshort hlen hall.symm himports
  · exact spliced_congr hlen hshort hall himports.symm
  · rw [List.filterMap_append, List.filterMap_append, List.filterMap_cons_none hsubst]

end Workspace

namespace Session

theorem generate_success (s : Session) : s.generate.success = s.generate.code.isSome := by
  rw [generate]
  cases s.parseFailure with
  | some reason => rfl
  | none => exact s.workspace.generate_success s.queue

/-- **A request that is turned down leaves no trace**: without it there is the same code, or there
is none as well. -/
theorem generate_without_rejected (s : Session) (before after : List Request) (request : Request)
    (hqueue : s.queue = before ++ request :: after) (hlen : s.queue.length < 0x100000000)
    (hrejects : s.workspace.Rejects before request) :
    ({ s with queue := before ++ after } : Session).generate.success = s.generate.success ∧
      ({ s with queue := before ++ after } : Session).generate.code = s.generate.code := by
  rw [hqueue] at hlen
  have hcode : ({ s with queue := before ++ after } : Session).generate.code = s.generate.code := by
    rw [generate, generate, hqueue]
    cases s.parseFailure with
    | some reason => rfl
    | none => exact Workspace.generate_code_without hlen hrejects
  exact ⟨by rw [generate_success, generate_success, hcode], hcode⟩

open Workspace in
theorem generate_without_rejected_aroundElement :
    let s : Session := { workspace := oneElement, queue := aroundElement }
    s.workspace.Rejects (aroundElement.take 1) (.delete (.node ⟨"a", 1, 0⟩)) ∧
      ({ s with queue := aroundElement.take 1 ++ aroundElement.drop 2 } : Session).generate.code =
        s.generate.code := by
  intro s
  have hrejects : s.workspace.Rejects (aroundElement.take 1) (.delete (.node ⟨"a", 1, 0⟩)) :=
    ⟨.targetNotFound "#2 delete a@1..0" "a@1..0" none, by decide +kernel⟩
  exact ⟨hrejects,
    (generate_without_rejected s (aroundElement.take 1) (aroundElement.drop 2) _ rfl
      (by decide) hrejects).2⟩

end Session

end Graft
