import Graft.Proofs.Generation
import Graft.Proofs.WellFormed

set_option autoImplicit false

/-!
# Consistent results

If the tree fits its text, the edits of a queue can always be made: requests that would be in each
other's way are turned down one by one, and imports in the way of a deletion are left out. So there
is code unless something fatal happened, and code that is given out has no more flaws than the
source.
-/

namespace Graft

/-! ## Edits that are not in each other's way -/

theorem Edit.overlaps_of_insertions {e f : Edit} (he : e.isInsertion = true)
    (hf : f.isInsertion = true) : e.overlaps f = false := by
  rw [overlaps, he, hf]

theorem Sketch.Fits.pairwise_edits {source : List Char} {s : Sketch} (h : s.Fits source)
    (text : String) (seq : Nat) (label : String) :
    (s.draft text seq label).edits.Pairwise fun e f => e.overlaps f = false := by
  show (s.inserts.map (Insert.edit seq) ++ s.removed.toList.map (ByteRange.removal text)).Pairwise _
  rcases h.apart with hnone | hnone
  · rw [hnone, List.map_nil, List.nil_append]
    cases s.removed with
    | none => exact List.Pairwise.nil
    | some r => exact List.pairwise_singleton _ _
  · rw [hnone, Option.toList_none, List.map_nil, List.append_nil]
    refine List.pairwise_of_forall_mem_list ?_
    intro e he f hf
    obtain ⟨i, -, rfl⟩ := List.mem_map.1 he
    obtain ⟨j, -, rfl⟩ := List.mem_map.1 hf
    exact Edit.overlaps_of_insertions (Edit.isInsertion_iff.2 rfl) (Edit.isInsertion_iff.2 rfl)

/-- An insertion that accepted sketches spare overlaps none of their edits. -/
theorem Sketch.overlaps_of_spare {accepted : List Sketch} {e : Edit} (he : e.isInsertion = true)
    (hspare : spare accepted e = true) {s : Sketch} (hs : s ∈ accepted) {text : String} {seq : Nat}
    {label : String} {f : Edit}
    (hf : f ∈ (s.draft text seq label).edits) : e.overlaps f = false := by
  rcases List.mem_append.1 hf with hf | hf
  · obtain ⟨i, -, rfl⟩ := List.mem_map.1 hf
    exact Edit.overlaps_of_insertions he (Edit.isInsertion_iff.2 rfl)
  · obtain ⟨r, hr, rfl⟩ := List.mem_map.1 hf
    have hall := List.all_eq_true.1 hspare s hs
    rw [Option.mem_toList.1 hr, Option.all_some, Bool.not_eq_true', Bool.and_eq_false_iff,
      decide_eq_false_iff_not, decide_eq_false_iff_not] at hall
    have hpoint := Edit.isInsertion_iff.1 he
    refine Edit.overlaps_eq_false_iff.2 ?_
    show e.stop ≤ r.start ∨ r.stop ≤ e.start
    omega

namespace Workspace

/-- The imports of a queue that are spared are insertions between characters. -/
theorem spared_imports {w : Workspace} (hdoc : w.document.WellFormed) {queue : List Request}
    {accepted : List Sketch} {e : Edit}
    (he : e ∈ w.spareMerges queue accepted ++ (w.spareBlock? queue accepted).toList) :
    e.isInsertion = true ∧ e.check w.chars = .ok () ∧ Sketch.spare accepted e = true := by
  rcases List.mem_append.1 he with he | he
  · obtain ⟨hmem, hspare⟩ := List.mem_filter.1 he
    obtain ⟨i, hi, offset, hoffset, text, rfl⟩ := mergesInto_of_mem_mergeEdits hmem
    have hgood := hdoc.mergeOffset_good hi hoffset
    exact ⟨Edit.isInsertion_iff.2 rfl,
      Edit.check_of_insertion (Edit.isInsertion_iff.2 rfl) rfl hgood, hspare⟩
  · obtain ⟨hblock, hspare⟩ := Option.filter_eq_some_iff.1 (Option.mem_toList.1 he)
    obtain ⟨text, rfl⟩ := importBlock?_eq_some hblock
    have hgood := hdoc.importPlacement_good
    exact ⟨Edit.isInsertion_iff.2 rfl,
      Edit.check_of_insertion (Edit.isInsertion_iff.2 rfl) rfl hgood, hspare⟩

/-- No two edits of a batch overlap, if those of every sketch do not and no two sketches collide. -/
theorem pairwise_batch {w : Workspace} (hdoc : w.document.WellFormed) (queue : List Request)
    {accepted : List Numbered} (hfits : ∀ n ∈ accepted, n.sketch.Fits w.chars)
    (hclear : Numbered.Clear w.document.source accepted) :
    (w.batch queue accepted).Pairwise fun e f => e.overlaps f = false := by
  refine List.pairwise_append.2 ⟨?_, List.pairwise_flatMap.2 ⟨?_, ?_⟩, ?_⟩
  · refine List.pairwise_of_forall_mem_list ?_
    intro e he f hf
    exact Edit.overlaps_of_insertions (spared_imports hdoc he).1 (spared_imports hdoc hf).1
  · intro n hn
    exact (hfits n hn).pairwise_edits _ _ _
  · refine hclear.imp ?_
    intro n m hnm e he f hf
    rw [Edit.overlaps_comm]
    exact (Draft.conflict_eq_none_iff.1 hnm).2.2 f hf e he
  · -- An import that a sketch is in the way of has been left out.
    intro e he f hf
    obtain ⟨n, hn, hf⟩ := List.mem_flatMap.1 hf
    obtain ⟨hins, -, hspare⟩ := spared_imports hdoc he
    exact Sketch.overlaps_of_spare hins hspare (List.mem_map_of_mem hn) hf

/-- **The edits of a queue can be made.** -/
theorem exists_spliced {w : Workspace} (hdoc : w.document.WellFormed) (queue : List Request) :
    ∃ code, w.spliced queue = .ok code := by
  obtain ⟨verdicts, hjudged, hdrafted, hclear, -⟩ :=
    w.draftAll_verdicts (w.parse w.document.source) queue
  have hfits : ∀ n ∈ acceptedOf verdicts, n.sketch.Fits w.chars := by
    intro n hn
    obtain ⟨item, -, -, -, declared, -, hsketched⟩ := judged_of_mem_acceptedOf hjudged hn
    exact hsketched.fits hdoc
  have hvalid : ∀ e ∈ w.batch queue (acceptedOf verdicts), e.check w.chars = .ok () := by
    intro e he
    rcases List.mem_append.1 he with he | he
    · exact (spared_imports hdoc he).2.1
    · obtain ⟨n, hn, he⟩ := List.mem_flatMap.1 he
      exact (hfits n hn).check he
  have hbatch := Edit.applyBatch_eq_ok_iff.2 ⟨hvalid, pairwise_batch hdoc queue hfits hclear, rfl⟩
  exact ⟨_, (spliced_eq (congrArg Progress.accepted hdrafted)).trans hbatch⟩

/-! ## Errors -/

theorem drafted_not_fatal (w : Workspace) (queue : List Request) :
    ∀ e ∈ (w.drafted queue).errors, e.isFatal = false := by
  obtain ⟨verdicts, hjudged, hdrafted, -, -⟩ :=
    w.draftAll_verdicts (w.parse w.document.source) queue
  intro e he
  rw [drafted, hdrafted] at he
  exact isFatal_of_mem_errorsOf hjudged he

theorem imported_aboutImports (w : Workspace) (queue : List Request) :
    ∀ e ∈ (w.imported queue).errors, e.aboutImports = true := by
  obtain ⟨verdicts, -, hdrafted, -, -⟩ := w.draftAll_verdicts (w.parse w.document.source) queue
  obtain ⟨more, hmore, habout⟩ :=
    (w.importEdits_extends (queue.filterMap (·.importSpec?)) (acceptedOf verdicts)).errors_eq
  intro e he
  rw [imported, drafted, hdrafted, hmore] at he
  exact habout e he

theorem substituteAll_not_fatal (substitutions : List (String × String)) (code : String) :
    ∀ e ∈ (substituteAll substitutions code).2, e.isFatal = false := by
  refine List.foldlRecOn (motive := fun (state : String × List GenerationError) =>
    ∀ e ∈ state.2, e.isFatal = false) substitutions _ (fun e he => absurd he List.not_mem_nil) ?_
  rintro ⟨code, errors⟩ herrors ⟨search, replacement⟩ -
  dsimp only
  split
  · exact herrors
  · intro e he
    rcases List.mem_append.1 he with he | he
    · exact herrors e he
    · rw [List.mem_singleton.1 he]
      rfl

/-- The last check fails exactly if it adds a fatal error. -/
theorem finish_fatal_iff (w : Workspace) (baseline : Document) (code : String)
    {errors : List GenerationError} (h : ∀ e ∈ errors, e.isFatal = false) :
    (w.finish baseline code errors).success = false ↔
      ∃ e ∈ (w.finish baseline code errors).errors, e.isFatal = true := by
  have hemitted : (Outcome.emitted code errors).success = false ↔
      ∃ e ∈ (Outcome.emitted code errors).errors, e.isFatal = true := by
    refine ⟨fun hfalse => by simp [Outcome.emitted] at hfalse, ?_⟩
    rintro ⟨e, he, hfatal⟩
    rw [h e he] at hfatal
    cases hfatal
  unfold finish
  split
  · split
    · exact hemitted
    · exact ⟨fun _ => ⟨_, List.mem_append_right _ (List.mem_singleton_self _), rfl⟩, fun _ => rfl⟩
    · exact ⟨fun _ => ⟨_, List.mem_append_right _ (List.mem_singleton_self _), rfl⟩, fun _ => rfl⟩
  · exact hemitted

/-- Code that passes the last check has no more flaws than the source. -/
theorem flaws_le_of_finish {w : Workspace} (hasked : w.options.validateOutput = true)
    {baseline : Document} {code out : String} {errors : List GenerationError}
    (h : (w.finish baseline code errors).code = some out) :
    (w.parse out).root.flaws.length ≤ baseline.root.flaws.length := by
  rw [finish, if_pos hasked] at h
  split at h
  · rename_i hvalid
    cases h
    unfold Document.validateOutput at hvalid
    dsimp only at hvalid
    split at hvalid
    · cases hvalid
    · rename_i hle
      simpa [Document.errors] using hle
  · cases h
  · cases h

/-- The parts of a result belong together. -/
structure Consistent (w : Workspace) (o : Outcome) : Prop where
  code_iff : o.success = false ↔ o.code = none
  fatal_iff : o.success = false ↔ ∃ e ∈ o.errors, e.isFatal = true
  flaws_le : w.options.validateOutput = true → ∀ code, o.code = some code →
    (w.parse code).root.flaws.length ≤ (w.parse w.document.source).root.flaws.length ∧
      ((w.parse code).root.Flagged →
        (w.parse code).flawCount ≤ (w.parse w.document.source).flawCount)

theorem completed_consistent (w : Workspace) (queue : List Request) {errors : List GenerationError}
    (h : ∀ e ∈ errors, e.isFatal = false) (code : String) :
    w.Consistent (w.completed queue errors code) where
  code_iff := by
    rw [completed, finish_success]
    simp
  fatal_iff := by
    refine w.finish_fatal_iff _ _ ?_
    intro e he
    rcases List.mem_append.1 he with he | he
    · exact h e he
    · exact substituteAll_not_fatal _ _ e he
  flaws_le := by
    intro hasked out hout
    have hle := flaws_le_of_finish hasked hout
    refine ⟨hle, fun hflagged => ?_⟩
    -- The check counts what the flags lead to; on the side of the source that may be less than
    -- there is.
    rw [← Document.length_flaws_of_flagged hflagged]
    exact hle.trans (w.parse w.document.source).length_flaws_le

end Workspace

namespace Session

/-- **Splicing never fails, and a result is consistent**, if the tree fits the text: there is no
code exactly if the session did not succeed, which is exactly if some error is fatal; and code that
was checked has no more flaws than the source. -/
theorem generate_consistent (s : Session) (hdoc : s.workspace.document.WellFormed) :
    (∃ code, s.workspace.spliced s.queue = .ok code ∧ (s.parseFailure = none → s.generate =
      s.workspace.completed s.queue
        ((s.workspace.drafted s.queue).errors ++ (s.workspace.imported s.queue).errors) code)) ∧
      s.workspace.Consistent s.generate := by
  obtain ⟨code, hcode⟩ := Workspace.exists_spliced hdoc s.queue
  have hgenerate : s.parseFailure = none → s.generate = s.workspace.completed s.queue
      ((s.workspace.drafted s.queue).errors ++ (s.workspace.imported s.queue).errors) code := by
    intro hnone
    rw [generate, hnone]
    show s.workspace.generate s.queue = _
    rw [Workspace.generate_eq, hcode]
  refine ⟨⟨code, hcode, hgenerate⟩, ?_⟩
  cases hfailure : s.parseFailure with
  | some reason =>
    -- A source that was not accepted: nothing is generated, and the only error is fatal.
    rw [generate, hfailure]
    exact
      { code_iff := iff_of_true rfl rfl
        fatal_iff := iff_of_true rfl ⟨_, List.mem_singleton_self _, rfl⟩
        flaws_le := by
          rintro - code ⟨⟩ }
  | none =>
    rw [hgenerate hfailure]
    refine Workspace.completed_consistent _ _ ?_ code
    intro e he
    rcases List.mem_append.1 he with he | he
    · exact s.workspace.drafted_not_fatal s.queue e he
    · exact GenerationError.isFatal_of_aboutImports (s.workspace.imported_aboutImports s.queue e he)

/-- A session on a file with names in braces and with a component, whose requests meet. -/
def smallFile : Session where
  workspace :=
    { document :=
        { source := "import \x7ba\x7d from 'm';\nfunction F() \x7b\x7d"
          root := .mk { kind := "program", start := 0, stop := 36 }
            [.mk { kind := "import_statement", start := 0, stop := 20 }
              [.mk { kind := "import_clause", start := 7, stop := 10 }
                [.mk { kind := "named_imports", start := 7, stop := 10 }
                  [.mk { kind := "import_specifier", start := 8, stop := 9 }
                    [.mk { kind := "identifier", field := some "name",
                           start := 8, stop := 9 } []]]],
                .mk { kind := "string", field := some "source", start := 16, stop := 19 } []],
              .mk { kind := "function_declaration", start := 21, stop := 36 }
                [.mk { kind := "identifier", field := some "name", start := 30, stop := 31 } [],
                  .mk { kind := "statement_block", field := some "body",
                        start := 34, stop := 36 } []]] }
      options := {}
      parse := .rootOnly }
  queue :=
    [.addState { name := "x", setter := "setX", initialValue := "0", component := some "F" },
      .addImport { path := "m", named := ["b"] }, .delete (.node ⟨"function_declaration", 21, 36⟩),
      .replace "F" "G"]

theorem generate_consistent_smallFile :
    smallFile.workspace.document.WellFormed ∧
      smallFile.workspace.Consistent smallFile.generate := by
  have hdoc : smallFile.workspace.document.WellFormed :=
    ⟨by decide +kernel, by decide +kernel, by decide +kernel⟩
  exact ⟨hdoc, (generate_consistent smallFile hdoc).2⟩

end Session

end Graft
