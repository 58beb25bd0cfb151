import Graft.Proofs.Grouping
import Graft.Proofs.Merging
import Graft.Proofs.Places
import Graft.Proofs.TreeRanges

set_option autoImplicit false

/-!
# Where requests are merged

What is merged into a statement of the file goes into a clause of it: before the clause, behind its
default or between its braces. A clause stands between the keyword and the path of the module, so
all of these places lie inside the statement. No two edits go to the same place. Statements lie
apart, requests for different modules go to different statements, and if a default and exports go to
the same one, the default goes before the clause and the exports go between braces.
-/

namespace Graft

/-! ## Statements in a tree -/

/-- Whether the last child is a closing brace. -/
def Node.endsWithBrace (n : Node) : Bool :=
  n.children.getLast?.any fun c => c.kind == "\x7d" && c.start + 1 == n.stop && c.stop == n.stop

theorem Node.endsWithBrace_iff {n : Node} :
    n.endsWithBrace = true ↔ ∃ front brace, n.children = front ++ [brace] ∧
    brace.kind = "\x7d" ∧ brace.start + 1 = n.stop ∧ brace.stop = n.stop := by
  unfold endsWithBrace
  constructor
  · intro h
    obtain ⟨brace, hlast, hbrace⟩ := (Option.any_eq_true _ _).1 h
    obtain ⟨front, hfront⟩ := List.getLast?_eq_some_iff.1 hlast
    simp only [Bool.and_eq_true, beq_iff_eq] at hbrace
    exact ⟨front, brace, hfront, hbrace.1.1, hbrace.1.2, hbrace.2⟩
  · rintro ⟨front, brace, hfront, hkind, hstart, hstop⟩
    simp [hfront, hkind, hstart, hstop]

namespace Document.Ordered

variable {d : Document} (h : d.Ordered) {n c : Node} (hn : n ∈ d.root.preorder)

include h hn

theorem behind_brace (hbrace : n.startsWithBrace = true) (hc : c ∈ n.children)
    (hkind : c.kind ≠ "\x7b") : n.start < c.start := by
  obtain ⟨opening, rest, hrest, hopening, -, hstop, -⟩ := Node.startsWithBrace_iff.1 hbrace
  have hapart := h.apart n hn
  rw [hrest] at hc hapart
  rcases List.mem_cons.1 hc with rfl | hc
  · exact absurd hopening hkind
  · have := (List.pairwise_cons.1 hapart).1 c hc
    omega

theorem before_brace (hbrace : n.endsWithBrace = true) (hc : c ∈ n.children)
    (hkind : c.kind ≠ "\x7d") : c.stop < n.stop := by
  obtain ⟨front, closing, hfront, hclosing, hstart, -⟩ := Node.endsWithBrace_iff.1 hbrace
  have hapart := h.apart n hn
  rw [hfront] at hc hapart
  rcases List.mem_append.1 hc with hc | hc
  · have := (List.pairwise_append.1 hapart).2.2 c hc closing (List.mem_singleton_self _)
    omega
  · rw [List.mem_singleton.1 hc] at hkind
    exact absurd hclosing hkind

end Document.Ordered

/-- Nodes lie between characters, inside each other or one behind the other. The clause of an import
stands between the keyword and the path of the module, and names stand between braces. -/
structure Document.ImportsReadable (d : Document) : Prop where
  ordered : d.Ordered
  edge_good : ∀ n ∈ d.root.preorder, ∀ offset ∈ n.edges,
    Text.isBoundary d.source.toList offset = true
  keyword : ∀ statement ∈ d.importStatements, ∀ clause ∈ statement.clauses,
    statement.start < clause.start
  path : ∀ statement ∈ d.importStatements, ∀ path ∈ statement.child? "source",
    path.start < path.stop ∧ ∀ clause ∈ statement.clauses, clause.stop ≤ path.start
  braces : ∀ statement ∈ d.importStatements, ∀ names ∈ statement.nameLists,
    names.startsWithBrace = true ∧ names.endsWithBrace = true

instance (d : Document) : Decidable d.ImportsReadable :=
  decidable_of_iff
    (d.Ordered ∧
      (∀ n ∈ d.root.preorder, ∀ offset ∈ n.edges, Text.isBoundary d.source.toList offset = true) ∧
      (∀ statement ∈ d.importStatements, ∀ clause ∈ statement.clauses,
        statement.start < clause.start) ∧
      (∀ statement ∈ d.importStatements, ∀ path ∈ statement.child? "source",
        path.start < path.stop ∧ ∀ clause ∈ statement.clauses, clause.stop ≤ path.start) ∧
      ∀ statement ∈ d.importStatements, ∀ names ∈ statement.nameLists,
        names.startsWithBrace = true ∧ names.endsWithBrace = true)
    ⟨fun h => ⟨h.1, h.2.1, h.2.2.1, h.2.2.2.1, h.2.2.2.2⟩,
      fun h => ⟨h.ordered, h.edge_good, h.keyword, h.path, h.braces⟩⟩

/-- An edit puts something into a statement that imports more than types from a module, between two
characters. -/
structure Edit.MergesLocally (d : Document) (path : String) (e : Edit) : Prop where
  insertion : e.isInsertion = true
  boundary : Text.isBoundary d.source.toList e.start = true
  inside : ∃ statement ∈ d.importStatements, ∃ i, ExistingImport.ofNode? d statement = some i ∧
    i.typeOnly = false ∧ i.path = path ∧ statement.start < e.start ∧ e.stop < statement.stop

namespace ExistingImport

variable {i : ExistingImport} {e : Edit}

theorem start_mem_of_defaultEdit? {name : String} (h : i.defaultEdit? name = some e) :
    e.start ∈ i.mergeOffsets := by
  rw [defaultEdit?, Option.ite_none_right_eq_some, Option.map_eq_some_iff] at h
  obtain ⟨-, offset, hstart, rfl⟩ := h
  simp [mergeOffsets, hstart, Edit.insertion]

theorem start_mem_of_namesEdit? {names : List String} (h : i.namesEdit? names = some e) :
    e.start ∈ i.mergeOffsets := by
  cases hbraces : i.braces with
  | some b =>
    rw [namesEdit?, hbraces, Option.some_inj] at h
    rw [← h]
    cases hend : i.lastNamedEnd <;>
      simp [mergeOffsets, insertIntoBraces, hbraces, hend, Edit.insertion]
  | none =>
    rw [namesEdit?, hbraces, Option.ite_none_right_eq_some, Option.map_eq_some_iff] at h
    obtain ⟨-, offset, hend, rfl⟩ := h
    simp [mergeOffsets, hend, Edit.insertion]

end ExistingImport

namespace Document.ImportsReadable

variable {d : Document} (h : d.ImportsReadable) {statement : Node}
  (hs : statement ∈ d.importStatements)

include h hs

/-! ## Clauses and names -/

omit h in
theorem clause_mem {clause : Node}
    (hclause : clause ∈ statement.clauses) : clause ∈ d.root.preorder :=
  Node.mem_preorder_trans (mem_preorder_of_mem_importStatements hs)
    (Node.mem_preorder_of_mem_clauses hclause)

/-- A clause lies inside its statement, which goes on behind it. -/
theorem clause_inside {i : ExistingImport} (hread : ExistingImport.ofNode? d statement = some i)
    {clause : Node} (hclause : clause ∈ statement.clauses) :
    statement.start < clause.start ∧ clause.stop < statement.stop := by
  obtain ⟨path, hpath, -⟩ := Option.bind_eq_some_iff.1 hread
  obtain ⟨hfilled, hbehind⟩ := h.path statement hs path hpath
  have hinside := h.ordered.inside statement (mem_preorder_of_mem_importStatements hs) path
    (List.mem_of_find?_eq_some hpath)
  have hbefore := hbehind clause hclause
  exact ⟨h.keyword statement hs clause hclause, by omega⟩

/-- The specifiers lie between the braces of a list of names, and so does the place before the
closing brace. -/
theorem names_inside {names : Node} (hnames : names ∈ statement.nameLists) :
    (names.start < names.stop - 1 ∧ Text.isBoundary d.source.toList (names.stop - 1) = true) ∧
      ∀ specifier ∈ names.namedChildren, specifier.kind = "import_specifier" →
        names.start < specifier.stop ∧ specifier.stop < names.stop := by
  have hmem : names ∈ d.root.preorder :=
    Node.mem_preorder_trans (mem_preorder_of_mem_importStatements hs)
      (Node.mem_preorder_of_mem_nameLists hnames)
  have hchild : ∀ c ∈ names.children, c ∈ d.root.preorder :=
    fun c hc => Node.mem_preorder_trans hmem (Node.mem_preorder_of_mem_children hc)
  obtain ⟨hopen, hclose⟩ := h.braces statement hs names hnames
  obtain ⟨front, closing, hfront, hclosing, hlast, -⟩ := Node.endsWithBrace_iff.1 hclose
  have hmemClosing : closing ∈ names.children :=
    hfront ▸ List.mem_append_right _ (List.mem_singleton_self _)
  refine ⟨⟨?_, ?_⟩, fun specifier hspecifier hkind => ?_⟩
  · have := h.ordered.behind_brace hmem hopen hmemClosing (by rw [hclosing]; decide)
    omega
  · rw [← hlast]
    exact h.edge_good closing (hchild closing hmemClosing) _ closing.start_mem_edges
  · have hin := List.mem_of_mem_filter hspecifier
    have hstart := h.ordered.behind_brace hmem hopen hin (by rw [hkind]; decide)
    have hstop := h.ordered.before_brace hmem hclose hin (by rw [hkind]; decide)
    have := h.ordered.ordered specifier (hchild specifier hin)
    omega

/-- No clause starts between the braces of a list of names. -/
theorem clause_start_outside {clause names : Node} (hclause : clause ∈ statement.clauses)
    (hnames : names ∈ statement.nameLists) :
    clause.start ≤ names.start ∨ names.stop ≤ clause.start := by
  obtain ⟨around, haround, hin, -⟩ := Node.mem_nameLists.1 hnames
  have hinside := h.ordered.inside around (clause_mem hs haround) names (List.mem_of_mem_filter hin)
  by_cases hsame : clause = around
  · rw [hsame]
    omega
  · have hapart := h.ordered.children_apart (mem_preorder_of_mem_importStatements hs)
      (Node.mem_clauses.1 hclause).1 (Node.mem_clauses.1 haround).1 hsame
    have := h.ordered.ordered clause (clause_mem hs hclause)
    omega

/-! ## Places -/

variable {i : ExistingImport} (hread : ExistingImport.ofNode? d statement = some i)

include hread

theorem inside_of_clause {clause : Node} (hclause : clause ∈ statement.clauses) {offset : Nat}
    (hstart : clause.start ≤ offset) (hstop : offset ≤ clause.stop) :
    statement.start < offset ∧ offset < statement.stop := by
  have := h.clause_inside hs hread hclause
  omega

theorem inside_of_names {names : Node} (hnames : names ∈ statement.nameLists) {offset : Nat}
    (hstart : names.start ≤ offset) (hstop : offset ≤ names.stop) :
    statement.start < offset ∧ offset < statement.stop := by
  obtain ⟨clause, hclause, hin, -⟩ := Node.mem_nameLists.1 hnames
  have := h.ordered.inside clause (clause_mem hs hclause) names (List.mem_of_mem_filter hin)
  exact h.inside_of_clause hs hread hclause (by omega) (by omega)

/-- **Everything is merged into a clause, between two characters.** -/
theorem mergeOffset_inside {offset : Nat} (hoffset : offset ∈ i.mergeOffsets) :
    Text.isBoundary d.source.toList offset = true ∧ statement.start < offset ∧
      offset < statement.stop := by
  have hplaces := ExistingImport.ofNode?_readFrom hread
  simp only [ExistingImport.mergeOffsets, List.mem_append, Option.mem_toList,
    List.mem_map] at hoffset
  rcases hoffset with ((hoffset | hoffset) | hoffset) | ⟨b, hb, rfl⟩
  · obtain ⟨clause, hmem, rfl⟩ := hplaces.clauseStart_edge offset hoffset
    have hroot := clause_mem hs hmem
    exact ⟨h.edge_good clause hroot _ clause.start_mem_edges,
      h.inside_of_clause hs hread hmem (Nat.le_refl _) (h.ordered.ordered clause hroot)⟩
  · obtain ⟨clause, hmem, part, hpart, rfl⟩ := hplaces.defaultEnd_edge offset hoffset
    have hroot := clause_mem hs hmem
    have hinside := h.ordered.inside clause hroot part (List.mem_of_mem_filter hpart)
    have hpartRoot := Node.mem_preorder_trans hroot (Node.mem_preorder_of_mem_namedChildren hpart)
    have hordered := h.ordered.ordered part hpartRoot
    exact ⟨h.edge_good part hpartRoot _ part.stop_mem_edges,
      h.inside_of_clause hs hread hmem (by omega) hinside.2⟩
  · obtain ⟨names, hmem, specifier, hspecifier, hkind, rfl⟩ :=
      hplaces.lastNamedEnd_edge offset hoffset
    have hinside := (h.names_inside hs hmem).2 specifier hspecifier hkind
    have hroot := Node.mem_preorder_trans (mem_preorder_of_mem_importStatements hs)
      (Node.mem_preorder_trans (Node.mem_preorder_of_mem_nameLists hmem)
        (Node.mem_preorder_of_mem_namedChildren hspecifier))
    exact ⟨h.edge_good specifier hroot _ specifier.stop_mem_edges,
      h.inside_of_names hs hread hmem (by omega) (by omega)⟩
  · obtain ⟨names, hmem, rfl⟩ := hplaces.braces_edge b hb
    obtain ⟨hinside, hgood⟩ := (h.names_inside hs hmem).1
    exact ⟨hgood, h.inside_of_names hs hread hmem hinside.le (Nat.sub_le _ _)⟩

/-- Exports that are put into braces are put between the braces of some list of names. -/
theorem insertIntoBraces_inside {start stop : Nat} (hbraces : i.braces = some (start, stop))
    (names : String) :
    ∃ list ∈ statement.nameLists,
      list.start < (insertIntoBraces i.lastNamedEnd start stop names).start ∧
      (insertIntoBraces i.lastNamedEnd start stop names).start < list.stop := by
  have hplaces := ExistingImport.ofNode?_readFrom hread
  cases hend : i.lastNamedEnd with
  | some offset =>
    obtain ⟨list, hlist, specifier, hspecifier, hkind, rfl⟩ := hplaces.lastNamedEnd_edge offset hend
    exact ⟨list, hlist, (h.names_inside hs hlist).2 specifier hspecifier hkind⟩
  | none =>
    obtain ⟨list, hlist, heq⟩ := hplaces.braces_edge _ hbraces
    obtain ⟨rfl, rfl⟩ := Prod.mk.inj heq
    have hinside := (h.names_inside hs hlist).1.1
    exact ⟨list, hlist, hinside, Nat.sub_lt (by omega) Nat.one_pos⟩

/-- A default and exports that go to the same statement go to different places. -/
theorem defaultEdit?_start_ne {name : String} {names : List String} {e e' : Edit}
    (hdefault : i.defaultEdit? name = some e)
    (hnames : i.namesEdit? names = some e') : e.start ≠ e'.start := by
  rw [ExistingImport.defaultEdit?, Option.ite_none_right_eq_some,
    Option.map_eq_some_iff] at hdefault
  obtain ⟨hnone, offset, hstart, rfl⟩ := hdefault
  obtain ⟨clause, hclause, rfl⟩ :=
    (ExistingImport.ofNode?_readFrom hread).clauseStart_edge offset hstart
  cases hbraces : i.braces with
  | some b =>
    rw [ExistingImport.namesEdit?, hbraces] at hnames
    obtain ⟨list, hlist, hinside⟩ :=
      h.insertIntoBraces_inside hs hread hbraces (", ".intercalate names)
    rw [Option.some_inj.1 hnames] at hinside
    have houtside := h.clause_start_outside hs hclause hlist
    have hclauseStart : (Edit.insertion clause.start (name ++ ", ")).start = clause.start := rfl
    omega
  | none =>
    -- Without braces, exports go behind a default, and there is none.
    rw [Option.isNone_iff_eq_none] at hnone
    simp [ExistingImport.namesEdit?, hbraces, hnone] at hnames

end Document.ImportsReadable

/-! ## Edits -/

namespace Document.ImportsReadable

variable {d : Document} (h : d.ImportsReadable)

include h

/-- Edits of different statements go to different places. -/
theorem start_ne_of_ne {statement statement' : Node} (hs : statement ∈ d.importStatements)
    (hs' : statement' ∈ d.importStatements) (hne : statement ≠ statement') {m n : Nat}
    (hm : statement.start < m ∧ m < statement.stop)
    (hn : statement'.start < n ∧ n < statement'.stop) : m ≠ n := by
  have hchild : ∀ s ∈ d.importStatements, s ∈ d.root.children :=
    fun s hs => List.mem_of_mem_filter (List.mem_of_mem_filter hs)
  have := h.ordered.children_apart d.root.mem_preorder_self (hchild _ hs) (hchild _ hs') hne
  omega

variable {spec : ImportSpec}

/-- **What a request is merged into** is a statement for its module, and it goes inside that
statement. -/
theorem mergesLocally {e : Edit} (he : e ∈ (resolveModule spec d.imports).edits) :
    e.MergesLocally d spec.path := by
  have hmerges : MergesInto (spec.targets d.imports) e := by
    rw [resolveModule_edits] at he
    exact (List.mem_append.1 he).elim mergesInto_resolveDefault mergesInto_resolveNamed
  obtain ⟨i, hi, offset, hoffset, text, rfl⟩ := hmerges
  obtain ⟨hmem, hadmits⟩ := mem_targets.1 hi
  obtain ⟨statement, hs, hread⟩ := List.mem_filterMap.1 hmem
  obtain ⟨hgood, hinside⟩ := h.mergeOffset_inside hs hread hoffset
  rw [ImportSpec.admits, ExistingImport.isMergeTarget, Bool.and_eq_true, Bool.and_eq_true,
    Bool.not_eq_true', beq_iff_eq] at hadmits
  obtain ⟨hpath, htypes, -⟩ := hadmits
  exact ⟨Edit.isInsertion_iff.2 rfl, hgood, statement, hs, i, hread, htypes, hpath, hinside⟩

/-- A default and exports go to different places, be it in one statement or in two. -/
theorem start_ne_of_adds {i j : ExistingImport} (hi : i ∈ d.imports) (hj : j ∈ d.imports)
    {name : String} {names : List String} {e e' : Edit} (hdefault : i.defaultEdit? name = some e)
    (hnames : j.namesEdit? names = some e') : e.start ≠ e'.start := by
  obtain ⟨statement, hs, hread⟩ := List.mem_filterMap.1 hi
  obtain ⟨statement', hs', hread'⟩ := List.mem_filterMap.1 hj
  by_cases hsame : statement = statement'
  · subst hsame
    obtain rfl : i = j := Option.some_inj.1 (hread.symm.trans hread')
    exact h.defaultEdit?_start_ne hs hread hdefault hnames
  · have hinside :=
      (h.mergeOffset_inside hs hread (ExistingImport.start_mem_of_defaultEdit? hdefault)).2
    have hinside' :=
      (h.mergeOffset_inside hs' hread' (ExistingImport.start_mem_of_namesEdit? hnames)).2
    exact h.start_ne_of_ne hs hs' hsame hinside hinside'

/-- The edits of one request go to different places. -/
theorem edits_apart (spec : ImportSpec) :
    (resolveModule spec d.imports).edits.Pairwise fun e e' => e.start ≠ e'.start := by
  rw [resolveModule_edits]
  rcases resolveNamed_adds spec (spec.targets d.imports) with ⟨e', hnamed, -, j, hj, hnames⟩ |
    ⟨hnamed, -⟩
  · rcases resolveDefault_adds spec (spec.targets d.imports) with
      ⟨-, hnone, -⟩ | ⟨name, -, -, ⟨e, hone, -, i, hi, hdefault⟩ | ⟨hnone, -⟩⟩
    · rw [hnone, hnamed]
      exact List.pairwise_singleton _ _
    · rw [hone, hnamed]
      exact List.pairwise_pair.2
        (h.start_ne_of_adds (mem_targets.1 hi).1 (mem_targets.1 hj).1 hdefault hnames)
    · rw [hnone, hnamed]
      exact List.pairwise_singleton _ _
  · rw [hnamed, List.append_nil]
    rcases resolveDefault_adds spec (spec.targets d.imports) with
      ⟨-, hnone, -⟩ | ⟨name, -, -, ⟨e, hone, -⟩ | ⟨hnone, -⟩⟩
    · exact hnone ▸ .nil
    · exact hone ▸ List.pairwise_singleton _ _
    · exact hnone ▸ .nil

/-- Requests for different modules go to different places. -/
theorem start_ne_of_path_ne {path path' : String} (hne : path ≠ path') {e e' : Edit}
    (he : e.MergesLocally d path) (he' : e'.MergesLocally d path') : e.start ≠ e'.start := by
  obtain ⟨statement, hs, i, hread, -, hpath, hstart, hstop⟩ := he.inside
  obtain ⟨statement', hs', j, hread', -, hpath', hstart', hstop'⟩ := he'.inside
  rw [← Edit.isInsertion_iff.1 he.insertion] at hstop
  rw [← Edit.isInsertion_iff.1 he'.insertion] at hstop'
  refine h.start_ne_of_ne hs hs' ?_ ⟨hstart, hstop⟩ ⟨hstart', hstop'⟩
  rintro rfl
  obtain rfl : i = j := Option.some_inj.1 (hread.symm.trans hread')
  exact hne (hpath.symm.trans hpath')

end Document.ImportsReadable

/-- **Where requests are merged.** However many requests there are, everything that they put into
statements of the file goes strictly inside a statement for their module that imports more than
types, between two characters, and no two of these insertions go to the same place. -/
theorem groupByModule_edits_local (d : Document) (h : d.ImportsReadable) (specs : List ImportSpec) :
    (∀ spec ∈ (groupByModule specs).1, ∀ e ∈ (resolveModule spec d.imports).edits,
      e.MergesLocally d spec.path) ∧
      ((groupByModule specs).1.flatMap fun spec => (resolveModule spec d.imports).edits).Pairwise
        fun e e' => e.start ≠ e'.start := by
  refine ⟨fun spec _ e he => h.mergesLocally he,
    List.pairwise_flatMap.2 ⟨fun spec _ => h.edits_apart spec, ?_⟩⟩
  have hpaths : ((groupByModule specs).1.map (·.path)).Nodup := by
    rw [groupByModule_paths]
    exact nodup_eraseDups _
  refine (List.pairwise_map.1 hpaths).imp fun hne e he e' he' => ?_
  exact h.start_ne_of_path_ne hne (h.mergesLocally he) (h.mergesLocally he')

/-- A file that imports from two modules, from one of them twice. -/
def twoModules : Document where
  source := "import É from 'm';\nimport \x7ba\x7d from 'm';\nimport \x7bb\x7d from 'n';\n"
  root :=
    let token (kind : String) (start stop : Nat) : Node :=
      .mk { kind, named := false, start, stop } []
    let path (start stop : Nat) : Node :=
      .mk { kind := "string", field := some "source", start, stop } []
    let name (start stop : Nat) : Node :=
      .mk { kind := "identifier", field := some "name", start, stop } []
    let braced (start : Nat) : Node := .mk { kind := "named_imports", start, stop := start + 3 }
      [token "\x7b" start (start + 1),
        .mk { kind := "import_specifier", start := start + 1, stop := start + 2 }
          [name (start + 1) (start + 2)], token "\x7d" (start + 2) (start + 3)]
    .mk { kind := "program", start := 0, stop := 62 }
      [.mk { kind := "import_statement", start := 0, stop := 19 }
        [token "import" 0 6,
          .mk { kind := "import_clause", start := 7, stop := 9 }
            [.mk { kind := "identifier", start := 7, stop := 9 } []],
          token "from" 10 14, path 15 18, token ";" 18 19],
        .mk { kind := "import_statement", start := 20, stop := 40 }
          [token "import" 20 26,
            .mk { kind := "import_clause", start := 27, stop := 30 } [braced 27],
            token "from" 31 35, path 36 39, token ";" 39 40],
        .mk { kind := "import_statement", start := 41, stop := 61 }
          [token "import" 41 47,
            .mk { kind := "import_clause", start := 48, stop := 51 } [braced 48],
            token "from" 52 56, path 57 60, token ";" 60 61]]

/-- A default and an export for the one module, and an export for the other. -/
theorem groupByModule_edits_local_twoModules :
    let specs : List ImportSpec :=
      [{ path := "n", defaultName := some "N" }, { path := "m", named := ["x"] },
        { path := "n", named := ["c"] }]
    let spec : ImportSpec := { path := "n", defaultName := some "N", named := ["c"] }
    let edits := (groupByModule specs).1.flatMap fun spec =>
      (resolveModule spec twoModules.imports).edits
    twoModules.ImportsReadable ∧ spec ∈ (groupByModule specs).1 ∧
      edits = [.insertion 48 "N, ", .insertion 50 ", c", .insertion 29 ", x"] ∧
      (∀ e ∈ (resolveModule spec twoModules.imports).edits, e.MergesLocally twoModules "n") ∧
      edits.Pairwise fun e e' => e.start ≠ e'.start := by
  intro specs spec edits
  have hread : twoModules.ImportsReadable := by decide +kernel
  have hgrouped : (groupByModule specs).1 = [spec, { path := "m", named := ["x"] }] := by
    decide +kernel
  have hspec : spec ∈ (groupByModule specs).1 := hgrouped ▸ List.mem_cons_self
  obtain ⟨hlocal, hapart⟩ := groupByModule_edits_local twoModules hread specs
  exact ⟨hread, hspec, by decide +kernel, hlocal spec hspec, hapart⟩

end Graft
