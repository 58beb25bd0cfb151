import Graft.Proofs.Merging
import Graft.Proofs.Reading

set_option autoImplicit false

/-!
# Merging into a statement as it is written

A statement that a request is written as can take a second request for the module: its default goes
in front of the clause, its names behind the last name, or in braces of their own behind a default.
The text that comes of this is the one that both requests together are written as
(`resolveModule_renders`), so it does not show whether names were asked for at once or one after the
other.
-/

namespace Graft

/-! ## Insertions at two places -/

namespace Edit

theorem splice_insertion (front back : List Char) (text : String) :
    splice (front ++ back) (insertion (Text.byteLength front) text) =
      front ++ (text.toList ++ back) :=
  splice_append (m := []) rfl rfl

theorem byteLength_lt_of_ne_empty (front : String) {middle : String} (h : middle ≠ "") :
    Text.byteLength front.toList < Text.byteLength (front ++ middle).toList := by
  rw [String.toList_append, Text.byteLength_append]
  cases hmiddle : middle.toList with
  | nil => exact absurd (String.toList_eq_nil_iff.1 hmiddle) h
  | cons c cs =>
    have := c.utf8Size_pos
    simp only [Text.byteLength_cons]
    omega

/-- Insertions at two places of a text, each of which may be missing. -/
theorem applyBatch_insertions (front middle back : String) {first second : Option String}
    (h : first = none ∨ middle ≠ "") :
    applyBatch (front ++ (middle ++ back))
      (first.toList.map (insertion (Text.byteLength front.toList)) ++
        second.toList.map (insertion (Text.byteLength (front ++ middle).toList))) =
      .ok (front ++ (first.getD "" ++ (middle ++ (second.getD "" ++ back)))) := by
  set place := Text.byteLength front.toList with hplace
  set place' := Text.byteLength (front ++ middle).toList with hplace'
  set edits :=
    first.toList.map (insertion place) ++ second.toList.map (insertion place') with hedits
  have hmem : ∀ e ∈ edits, ∃ text, e = insertion place text ∨ e = insertion place' text := by
    intro e he
    rcases List.mem_append.1 he with he | he <;> obtain ⟨text, -, rfl⟩ := List.mem_map.1 he
    · exact ⟨text, .inl rfl⟩
    · exact ⟨text, .inr rfl⟩
  have hvalid : ∀ e ∈ edits, e.check (front ++ (middle ++ back)).toList = .ok () := by
    intro e he
    obtain ⟨text, rfl | rfl⟩ := hmem e he <;>
      refine check_of_insertion (isInsertion_iff.2 rfl) rfl ?_
    · rw [String.toList_append]
      exact Text.isBoundary_append_byteLength _ _
    · rw [← String.append_assoc, String.toList_append]
      exact Text.isBoundary_append_byteLength _ _
  have hclear : edits.Pairwise fun e f => e.overlaps f = false := by
    refine List.pairwise_of_forall_mem_list fun e he f hf => ?_
    obtain ⟨text, rfl | rfl⟩ := hmem e he <;> obtain ⟨text', rfl | rfl⟩ := hmem f hf <;>
      simp [overlaps, isInsertion, insertion]
  have hsorted :
      (second.toList.map (insertion place') ++ first.toList.map (insertion place)).Pairwise
        fun e f => (spliceOrder e f).isLE = true ∧ (spliceOrder f e).isLE = false := by
    rcases h with rfl | hne
    · cases second <;> simp
    · have hlt : place < place' := byteLength_lt_of_ne_empty front hne
      have hfirst (text text' : String) :
          (spliceOrder (insertion place' text') (insertion place text)).isLE = true ∧
          (spliceOrder (insertion place text) (insertion place' text')).isLE = false := by
        rw [← Bool.not_eq_true, spliceOrder_isLE_iff, spliceOrder_isLE_iff]
        simp only [insertion]
        omega
      cases first <;> cases second
      case some.some text text' => exact List.pairwise_pair.2 (hfirst text text')
      all_goals simp
  have hsecond :
      (second.toList.map (insertion place')).foldl splice (front ++ (middle ++ back)).toList =
      front.toList ++ (middle ++ (second.getD "" ++ back)).toList := by
    have hsplice := splice_insertion (front ++ middle).toList back.toList
    cases second <;> simp_all
  have hfirst : ∀ rest, (first.toList.map (insertion place)).foldl splice (front.toList ++ rest) =
      front.toList ++ ((first.getD "").toList ++ rest) := by
    intro rest
    cases first with
    | none => rfl
    | some text => exact splice_insertion front.toList rest text
  rw [applyBatch_eq_foldl hvalid hclear List.perm_append_comm hsorted, List.foldl_append, hsecond,
    hfirst, ← String.toList_append, ← String.toList_append, String.ofList_toList]

end Edit

namespace ImportSpec

/-! ## Both requests together -/

variable (s : ImportSpec) (style : ImportStyle)

/-- What makes names follow the opening of a clause. -/
def continuation (names : List String) : String :=
  ", " ++ if s.named.isEmpty then bracedNames names else ", ".intercalate names

/-- What two requests ask for together: the default of the first one, or else of the second, and the
names of the first one before those of the second that the first one does not bind, each once. -/
def joined (r : ImportSpec) : ImportSpec :=
  { s with
    defaultName := s.defaultName.or r.defaultName
    named := s.named ++
      (r.named.filter fun name => !(s.defaultName.toList ++ s.named).contains name).eraseDups }

/-! ## What is added to the statement -/

variable {s} {r : ImportSpec}

theorem view_described : ImportView.of [s.described style] =
    ⟨s.defaultName, s.namespaceName,
      s.defaultName.toList ++ s.namespaceName.toList ++ s.named⟩ := by
  have hlocal : (s.described style).named.map (·.localName) = s.named := by
    rw [described, List.map_map]
    exact List.map_id s.named
  simp only [ImportView.of, ExistingImport.locals, List.findSome?_singleton,
    List.flatMap_singleton, hlocal]
  rfl

theorem targets_described (hpath : r.path = s.path) :
    r.targets [s.described style] = [s.described style] := by
  simp [targets, described, ExistingImport.isMergeTarget, hpath]

/-- What is new in a request that is not refused anything. -/
theorem newDefault_described (hnone : s.namespaceName = none)
    (hclear : r.refusals (.of [s.described style]) = []) :
    r.newDefault (.of [s.described style]) =
      if s.defaultName.isNone then r.defaultName else none := by
  rw [refusals, List.append_eq_nil_iff] at hclear
  have hclear := hclear.1
  rw [newDefault, view_described, hnone] at *
  cases hr : r.defaultName <;> cases hs : s.defaultName <;> simp_all

/-- A new default goes in front of the clause. -/
theorem resolveDefault_described :
    (resolveDefault r.path [s.described style] r.defaultName).now.edits =
      ((r.newDefault (.of [s.described style])).map (· ++ ", ")).toList.map
        (.insertion (Text.byteLength "import ".toList)) ∧
    (resolveDefault r.path [s.described style] r.defaultName).later = none := by
  rcases resolveDefault_adds r [s.described style] with ⟨hnew, hedits, hlater⟩ |
    ⟨name, hname, hnew, -⟩
  · rw [hnew]
    exact ⟨hedits, hlater⟩
  · have hfree := (Option.filter_eq_some_iff.1 hnew).2
    simp only [Bool.and_eq_true, Bool.not_eq_true', Option.isNone_iff_eq_none,
      ImportView.of_defaultName] at hfree
    have hdefault : (s.described style).defaultName = none := by simpa using hfree.1
    rw [hnew, hname]
    have hplace :
        [s.described style].findSome? (fun i => if i.defaultName.isNone then i.clauseStart
          else none) = some (Text.byteLength "import ".toList) := by
      rw [List.findSome?_singleton, hdefault]
      rfl
    simp only [resolveDefault, ImportView.any_binds, hfree, hplace]
    exact ⟨rfl, rfl⟩

/-- A statement without a namespace takes names behind the opening of its clause. -/
theorem namesEdit?_described (hne : s.isEmpty = false) (hnone : s.namespaceName = none)
    (names : List String) :
    (s.described style).namesEdit? names =
      some (.insertion (Text.byteLength ("import " ++ s.opening).toList)
        (s.continuation names)) := by
  cases hnamed : s.named with
  | nil =>
    cases hdefault : s.defaultName with
    | none => simp [isEmpty, hdefault, hnamed, hnone] at hne
    | some name =>
      simp [ExistingImport.namesEdit?, described, opening, continuation, hnamed, hdefault, hnone]
  | cons name rest =>
    simp [ExistingImport.namesEdit?, described, opening, continuation, hnamed,
      insertIntoBraces, String.append_assoc]

/-- A statement that is the only one takes all names that are missing. -/
theorem resolveNamed_singleton {i : ExistingImport} {requested : List String} {e : Edit}
    (hmissing : missingNames [i] requested ≠ [])
    (hedit : i.namesEdit? (missingNames [i] requested) = some e) :
    resolveNamed [i] requested = { now := { edits := [e] }, later := [] } := by
  unfold resolveNamed
  generalize missingNames [i] requested = missing at *
  cases missing with
  | nil => exact absurd rfl hmissing
  | cons name names =>
    rw [ExistingImport.namesEdit?] at hedit
    cases hbraces : i.braces with
    | some b => simp_all
    | none =>
      simp only [hbraces, Option.ite_none_right_eq_some, Option.map_eq_some_iff, Bool.and_eq_true,
        Option.isNone_iff_eq_none] at hedit
      obtain ⟨⟨hdefault, hnone⟩, offset, hend, rfl⟩ := hedit
      simp [hbraces, hdefault, hnone, hend]

/-- New names go behind the opening of the clause. -/
theorem resolveNamed_described (hne : s.isEmpty = false) (hnone : s.namespaceName = none) :
    (resolveNamed [s.described style] r.named).now.edits =
      (if r.newNames (.of [s.described style]) = [] then none
        else some (s.continuation (r.newNames (.of [s.described style])))).toList.map
          (.insertion (Text.byteLength ("import " ++ s.opening).toList)) ∧
    (resolveNamed [s.described style] r.named).later = [] := by
  rw [← missingNames_eq]
  by_cases hmissing : missingNames [s.described style] r.named = []
  · rw [if_pos hmissing, resolveNamed, hmissing]
    exact ⟨rfl, rfl⟩
  · rw [if_neg hmissing, resolveNamed_singleton hmissing (namesEdit?_described style hne hnone _)]
    exact ⟨rfl, rfl⟩

/-! ## The text afterwards -/

/-- A request that gains names, and a default if it has none. -/
def gaining (s : ImportSpec) (d : Option String) (names : List String) : ImportSpec :=
  { s with defaultName := s.defaultName.or d, named := s.named ++ names }

variable {d : Option String} (names : List String)

theorem lead_gaining (hd : s.defaultName.isSome = true → d = none) :
    (s.gaining d names).lead = (d.map (· ++ ", ")).getD "" ++ s.lead := by
  cases hdefault : s.defaultName with
  | none => simp [lead, gaining, hdefault]
  | some name => simp [lead, gaining, hdefault, hd (by simp [hdefault])]

/-- What a request that gains something is written as, from the parts of what it was written as. -/
theorem opening_append_closing_gaining (hne : s.isEmpty = false) (hnone : s.namespaceName = none)
    (hd : s.defaultName.isSome = true → d = none) :
    (s.gaining d names).opening ++ (s.gaining d names).closing style =
      (d.map (· ++ ", ")).getD "" ++ (s.opening ++
        ((if names = [] then none else some (s.continuation names)).getD "" ++
          s.closing style)) := by
  have hsource : (s.gaining d names).source style = s.source style := rfl
  rw [opening, closing, hsource, lead_gaining names hd]
  cases hnamed : s.named with
  | nil =>
    cases hdefault : s.defaultName with
    | none => simp [isEmpty, hdefault, hnamed, hnone] at hne
    | some name =>
      obtain rfl : d = none := hd (by simp [hdefault])
      cases names with
      | nil => simp [gaining, opening, closing, hnamed, hdefault]
      | cons first rest =>
        simp [gaining, opening, closing, lead, continuation, bracedNames, hnamed, hdefault,
          String.append_assoc, -String.reduceAppend]
  | cons first rest =>
    cases names with
    | nil => simp [gaining, opening, closing, hnamed, String.append_assoc, -String.reduceAppend]
    | cons name more =>
      have hlist : ", ".intercalate (first :: (rest ++ name :: more)) =
          ", ".intercalate (first :: rest) ++ ", " ++ ", ".intercalate (name :: more) :=
        String.intercalate_append_of_ne_nil (List.cons_ne_nil first rest)
          (List.cons_ne_nil name more)
      simp [gaining, opening, closing, continuation, hnamed, hlist, String.append_assoc,
        -String.reduceAppend]

/-- Both requests together are the first one with what is new in the second. -/
theorem joined_eq_gaining (hnone : s.namespaceName = none)
    (hclear : r.refusals (.of [s.described style]) = []) :
    s.joined r =
      s.gaining (r.newDefault (.of [s.described style]))
        (r.newNames (.of [s.described style])) := by
  rw [newDefault_described style hnone hclear, newNames, view_described, hnone]
  cases hdefault : s.defaultName <;> simp [joined, gaining, hdefault]

/-- There is something to put a new default in front of. -/
theorem opening_ne_empty (hne : s.isEmpty = false) (hnone : s.namespaceName = none)
    (hdefault : s.defaultName = none) : s.opening ≠ "" := by
  cases hnamed : s.named with
  | nil => simp [isEmpty, hdefault, hnamed, hnone] at hne
  | cons name rest => simp [opening, hnamed, lead, hdefault]

end ImportSpec

/-- **A statement that takes a request reads as if both had been written at once.** The statement is
as it is read from its text; nothing of the request is left for a statement of its own. -/
theorem resolveModule_renders (s r : ImportSpec) (style : ImportStyle) (hne : s.isEmpty = false)
    (hnone : s.namespaceName = none) (hpath : r.path = s.path) (hnone' : r.namespaceName = none)
    (hclear : (resolveModule r [s.described style]).conflicts = []) :
    (s.document style).imports = [s.described style] ∧
      Edit.applyBatch (s.render style) (resolveModule r [s.described style]).edits =
        .ok ((s.joined r).render style) ∧
      (resolveModule r [s.described style]).newStatements = [] := by
  have htargets := ImportSpec.targets_described style hpath
  obtain ⟨hdefaultEdits, hdefault⟩ := ImportSpec.resolveDefault_described (s := s) (r := r) style
  obtain ⟨hnameEdits, hnames⟩ := ImportSpec.resolveNamed_described (r := r) style hne hnone
  rw [resolveModule_conflicts, htargets] at hclear
  have hnew := ImportSpec.newDefault_described style hnone hclear
  refine ⟨ImportSpec.imports_document style hne hnone, ?_, ?_⟩
  · have hgain : s.defaultName.isSome = true → r.newDefault (.of [s.described style]) = none := by
      intro hsome
      rw [hnew, if_neg (by simpa [← Option.isSome_iff_ne_none] using hsome)]
    have hplaces : (r.newDefault (.of [s.described style])).map (· ++ ", ") =
        none ∨ s.opening ≠ "" := by
      cases hs : s.defaultName with
      | some name => exact .inl (by rw [hgain (by simp [hs]), Option.map_none])
      | none => exact .inr (ImportSpec.opening_ne_empty hne hnone hs)
    have hne' : (s.joined r).isEmpty = false := by
      cases hs : s.defaultName <;> cases hs' : s.named <;>
        simp_all [ImportSpec.joined, ImportSpec.isEmpty]
    rw [resolveModule_edits, htargets, hdefaultEdits, hnameEdits,
      ImportSpec.render_eq style hne hnone, Edit.applyBatch_insertions _ _ _ hplaces,
      ImportSpec.render_eq style hne' hnone, ImportSpec.joined_eq_gaining style hnone hclear,
      ImportSpec.opening_append_closing_gaining style _ hne hnone hgain]
  · have hfresh : (r.fresh [s.described style]).isEmpty = true := by
      simp [ImportSpec.fresh, ImportSpec.isEmpty, htargets, hdefault, hnames]
    have hbare : r.isBare [s.described style] = false := by
      simp [ImportSpec.isBare, ImportSpec.described, hpath]
    rw [resolveModule_newStatements, hfresh, hbare, ImportSpec.newNamespace, hnone']
    rfl

/-- Both a default and names are added, one of which is there already and another is asked for
twice. -/
theorem resolveModule_renders_both :
    let s : ImportSpec := { path := "m", named := ["a", "b"] }
    let r : ImportSpec := { path := "m", defaultName := some "d", named := ["c", "b", "c", "é"] }
    let style : ImportStyle := { quote := .double, semicolon := false }
    s.render style = "import \x7b a, b \x7d from \"m\"" ∧
      (resolveModule r [s.described style]).conflicts = [] ∧
      Edit.applyBatch (s.render style) (resolveModule r [s.described style]).edits =
        .ok "import d, \x7b a, b, c, é \x7d from \"m\"" ∧
      (resolveModule r [s.described style]).newStatements = [] := by
  intro s r style
  have hclear : (resolveModule r [s.described style]).conflicts = [] := by decide +kernel
  obtain ⟨-, hbatch, hnew⟩ := resolveModule_renders s r style rfl rfl rfl rfl hclear
  have hboth : (s.joined r).render style = "import d, \x7b a, b, c, é \x7d from \"m\"" := by
    decide +kernel
  exact ⟨by decide +kernel, hclear, hboth ▸ hbatch, hnew⟩

end Graft
