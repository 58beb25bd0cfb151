import Graft.Proofs.ImportEdits
import Graft.Proofs.Traversal

set_option autoImplicit false

/-!
# Places in the text

Where something is put in follows from where nodes are. `Workspace.edges` lists, for a request,
where the nodes that it goes by start and end. Everything is put in at one of these, behind the
brace that a block starts with, before the brace that names end with, or behind the content of an
element (`Document.Place`); what is taken out is a node or the lines that it is alone on. So what is
known of these places is known of every edit.
-/

namespace Graft

/-- Where a node starts and ends. -/
def Node.edges (n : Node) : List Nat := [n.start, n.stop]

theorem Node.start_mem_edges (n : Node) : n.start ∈ n.edges := List.mem_cons_self

theorem Node.stop_mem_edges (n : Node) : n.stop ∈ n.edges :=
  List.mem_cons_of_mem _ (List.mem_singleton_self _)

/-- Where something may be put into a document, some edges of nodes being given. -/
inductive Document.Place (d : Document) (edges : List Nat) : Nat → Prop where
  | edge {offset : Nat} (mem : offset ∈ edges) : Place d edges offset
  | blockStart {n : Node} (mem : n ∈ d.root.preorder) (kind : n.kind = "statement_block") :
    Place d edges (n.start + 1)
  | namesEnd {n : Node} (mem : n ∈ d.root.preorder) (kind : n.kind = "named_imports") :
    Place d edges (n.stop - 1)
  | contentEnd {n : Node} (mem : n ∈ d.root.preorder) :
      Place d edges (Text.byteLength (Text.trimEnd (Text.before d.source.toList n.start)))

theorem Document.Place.max {d : Document} {edges : List Nat} {m n : Nat} (hm : d.Place edges m)
    (hn : d.Place edges n) : d.Place edges (max m n) := by
  rcases Nat.le_total m n with hle | hle
  · rwa [Nat.max_eq_right hle]
  · rwa [Nat.max_eq_left hle]

/-! ## Imports -/

/-- The edges of the nodes of import statements. -/
def Document.importEdges (d : Document) : List Nat :=
  d.importStatements.flatMap fun statement => statement.preorder.flatMap Node.edges

namespace Node

/-- The clauses of an import statement. -/
def clauses (n : Node) : List Node := n.children.filter fun c => c.kind == "import_clause"

/-- The lists of names in the clauses of an import statement. -/
def nameLists (n : Node) : List Node :=
  n.clauses.flatMap fun clause => clause.namedChildren.filter fun part =>
    part.kind == "named_imports"

variable {n clause names : Node}

theorem mem_clauses : clause ∈ n.clauses ↔ clause ∈ n.children ∧ clause.kind = "import_clause" := by
  rw [clauses, List.mem_filter, beq_iff_eq]

theorem mem_nameLists : names ∈ n.nameLists ↔
    ∃ clause ∈ n.clauses, names ∈ clause.namedChildren ∧ names.kind = "named_imports" := by
  simp only [nameLists, List.mem_flatMap, List.mem_filter, beq_iff_eq]

theorem mem_preorder_of_mem_clauses (h : clause ∈ n.clauses) : clause ∈ n.preorder :=
  mem_preorder_of_mem_children (mem_clauses.1 h).1

theorem mem_preorder_of_mem_nameLists (h : names ∈ n.nameLists) : names ∈ n.preorder := by
  obtain ⟨clause, hclause, hnames, -⟩ := mem_nameLists.1 h
  exact mem_preorder_trans (mem_preorder_of_mem_clauses hclause)
    (mem_preorder_of_mem_namedChildren hnames)

end Node

namespace ExistingImport

/-- The places that are noted of a statement are edges of nodes of its clauses. -/
structure ReadFrom (statement : Node) (i : ExistingImport) : Prop where
  stop_eq : i.stop = statement.stop
  clauseStart_edge : ∀ offset ∈ i.clauseStart, ∃ clause ∈ statement.clauses, offset = clause.start
  defaultEnd_edge : ∀ offset ∈ i.defaultEnd, ∃ clause ∈ statement.clauses,
    ∃ part ∈ clause.namedChildren, offset = part.stop
  lastNamedEnd_edge : ∀ offset ∈ i.lastNamedEnd, ∃ names ∈ statement.nameLists,
    ∃ specifier ∈ names.namedChildren, specifier.kind = "import_specifier" ∧ offset = specifier.stop
  braces_edge : ∀ b ∈ i.braces, ∃ names ∈ statement.nameLists, b = (names.start, names.stop)

variable {d : Document} {statement : Node} {i : ExistingImport} {n : Node}

theorem addSpecifier_readFrom (h : i.ReadFrom statement) {names : Node}
    (hnames : names ∈ statement.nameLists) (hn : n ∈ names.namedChildren) :
    (addSpecifier d i n).ReadFrom statement := by
  unfold addSpecifier
  split
  · exact h
  · rename_i hkind
    split
    · exact h
    · refine { h with lastNamedEnd_edge := ?_ }
      rintro _ ⟨⟩
      exact ⟨names, hnames, n, hn, by simpa using hkind, rfl⟩

theorem addPart_readFrom (h : i.ReadFrom statement) {clause : Node}
    (hclause : clause ∈ statement.clauses) (hn : n ∈ clause.namedChildren) :
    (addPart d i n).ReadFrom statement := by
  unfold addPart
  split
  · refine { h with defaultEnd_edge := ?_ }
    rintro _ ⟨⟩
    exact ⟨clause, hclause, n, hn, rfl⟩
  · exact { h with }
  · rename_i hkind
    have hnames : n ∈ statement.nameLists := Node.mem_nameLists.2 ⟨clause, hclause, hn, hkind⟩
    refine List.foldlRecOn _ _ { h with braces_edge := ?_ } ?_
    · rintro _ ⟨⟩
      exact ⟨n, hnames, rfl⟩
    · intro i hi c hc
      exact addSpecifier_readFrom hi hnames hc
  · exact h

theorem addChild_readFrom (h : i.ReadFrom statement) (hn : n ∈ statement.children) :
    (addChild d i n).ReadFrom statement := by
  unfold addChild
  split
  · exact { h with }
  · exact { h with }
  · rename_i hkind
    have hclause : n ∈ statement.clauses := Node.mem_clauses.2 ⟨hn, hkind⟩
    refine List.foldlRecOn _ _ { h with clauseStart_edge := ?_ } ?_
    · rintro _ ⟨⟩
      exact ⟨n, hclause, rfl⟩
    · intro i hi c hc
      exact addPart_readFrom hi hclause hc
  · exact h

theorem ofNode?_readFrom (h : ofNode? d statement = some i) : i.ReadFrom statement := by
  obtain ⟨source, -, h⟩ := Option.bind_eq_some_iff.1 h
  rw [← Option.some_inj.1 h]
  refine List.foldlRecOn _ _ ?_ ?_
  · exact ⟨rfl, fun _ h => (by cases h), fun _ h => (by cases h), fun _ h => (by cases h),
      fun _ h => (by cases h)⟩
  · intro i hi c hc
    exact addChild_readFrom hi hc

end ExistingImport

namespace Document

variable {d : Document}

theorem exists_readFrom {i : ExistingImport} (hi : i ∈ d.imports) :
    ∃ statement ∈ d.importStatements, i.ReadFrom statement := by
  obtain ⟨statement, hmem, h⟩ := List.mem_filterMap.1 hi
  exact ⟨statement, hmem, ExistingImport.ofNode?_readFrom h⟩

theorem mem_preorder_of_mem_importStatements {statement : Node}
    (h : statement ∈ d.importStatements) : statement ∈ d.root.preorder :=
  Node.mem_preorder_of_mem_namedChildren (List.mem_of_mem_filter h)

/-- What is merged into a statement is put in at edges of it, or before a closing brace. -/
theorem mergeOffset_place {i : ExistingImport} (hi : i ∈ d.imports) {offset : Nat}
    (h : offset ∈ i.mergeOffsets) : d.Place d.importEdges offset := by
  obtain ⟨statement, hstatement, hread⟩ := exists_readFrom hi
  have hedge : ∀ n ∈ statement.preorder, ∀ offset ∈ n.edges, d.Place d.importEdges offset :=
    fun n hn offset hoffset =>
      .edge (List.mem_flatMap.2 ⟨statement, hstatement, List.mem_flatMap.2 ⟨n, hn, hoffset⟩⟩)
  simp only [ExistingImport.mergeOffsets, List.mem_append, Option.mem_toList, List.mem_map] at h
  rcases h with ((h | h) | h) | ⟨b, hb, rfl⟩
  · obtain ⟨clause, hclause, rfl⟩ := hread.clauseStart_edge offset h
    exact hedge clause (Node.mem_preorder_of_mem_clauses hclause) _ clause.start_mem_edges
  · obtain ⟨clause, hclause, part, hpart, rfl⟩ := hread.defaultEnd_edge offset h
    refine hedge part (Node.mem_preorder_trans ?_ (Node.mem_preorder_of_mem_namedChildren hpart))
      _ part.stop_mem_edges
    exact Node.mem_preorder_of_mem_clauses hclause
  · obtain ⟨names, hnames, specifier, hspecifier, -, rfl⟩ := hread.lastNamedEnd_edge offset h
    refine hedge specifier
      (Node.mem_preorder_trans ?_ (Node.mem_preorder_of_mem_namedChildren hspecifier))
      _ specifier.stop_mem_edges
    exact Node.mem_preorder_of_mem_nameLists hnames
  · obtain ⟨names, hnames, rfl⟩ := hread.braces_edge b hb
    obtain ⟨-, -, -, hkind⟩ := Node.mem_nameLists.1 hnames
    refine .namesEnd (Node.mem_preorder_trans (mem_preorder_of_mem_importStatements hstatement) ?_)
      hkind
    exact Node.mem_preorder_of_mem_nameLists hnames

end Document

/-! ## Requests -/

namespace Workspace

/-- Where the nodes that a request goes by start and end. -/
def edges (w : Workspace) : Request → List Nat
  | .addImport _ =>
    w.document.importEdges ++ [(w.document.importPlacement w.document.imports).offset]
  | .addEffect effect =>
    (w.component? effect.component).toList.flatMap fun f => f.body.namedChildren.flatMap Node.edges
  | .wrap target _ | .delete target => (w.target? target).toList.flatMap Node.edges
  | .insert target _ _ => (w.target? target).toList.flatMap fun n =>
    (n :: n.children).flatMap Node.edges
  | .addState _ | .replace _ _ => []

variable {w : Workspace}

theorem placeEffect_place {effect : Effect} {f : FunctionMatch}
    (found : w.component? effect.component = some f) (block : f.hasBlock = true) :
    w.document.Place (w.edges (.addEffect effect)) (w.placeEffect effect f.body).offset := by
  have hstatement : ∀ n ∈ f.body.namedChildren.filter (fun n => n.kind != "comment"),
      ∀ offset ∈ n.edges, w.document.Place (w.edges (.addEffect effect)) offset := by
    intro n hn offset hoffset
    refine .edge ?_
    rw [edges, found]
    simpa using ⟨n, List.mem_of_mem_filter hn, hoffset⟩
  unfold placeEffect
  dsimp only
  split
  · rename_i hook hhook
    exact hstatement hook (List.mem_reverse.1 (List.mem_of_find?_eq_some hhook))
      _ hook.stop_mem_edges
  · split
    · rename_i last hlast
      have hmem := hstatement last (List.mem_of_getLast? hlast)
      split
      · exact hmem _ last.start_mem_edges
      · exact hmem _ last.stop_mem_edges
    · exact .blockStart (body_mem_of_component? found)
        (by simpa [FunctionMatch.hasBlock] using block)

theorem placeMarkup_place {target : Target} {node : Node} (found : w.target? target = some node)
    {position : InsertPosition} {markup : String} {insert : Insert}
    (h : w.placeMarkup node position markup = .ok insert) :
    w.document.Place (w.edges (.insert target position markup)) insert.offset := by
  have hedge : ∀ n ∈ node :: node.children, ∀ offset ∈ n.edges,
      w.document.Place (w.edges (.insert target position markup)) offset := by
    intro n hn offset hoffset
    refine .edge ?_
    rw [edges, found]
    simpa only [Option.toList_some, List.flatMap_singleton]
      using List.mem_flatMap.2 ⟨n, hn, hoffset⟩
  have hnode := hedge node List.mem_cons_self
  have htags : ∀ {opening closing : Node}, tagsOf node = some (opening, closing) →
      opening ∈ node.children ∧ closing ∈ node.children := by
    intro opening closing htags
    unfold tagsOf at htags
    split at htags
    · rename_i o c ho hc
      rw [Option.ite_none_right_eq_some, Option.some_inj, Prod.mk.injEq] at htags
      obtain ⟨-, rfl, rfl⟩ := htags
      exact ⟨List.mem_of_find?_eq_some ho, List.mem_of_find?_eq_some hc⟩
    · cases htags
  cases position with
  | before =>
    simp only [placeMarkup] at h
    split at h <;> cases h <;> exact hnode _ node.start_mem_edges
  | after =>
    simp only [placeMarkup] at h
    split at h <;> cases h <;> exact hnode _ node.stop_mem_edges
  | startOfChildren =>
    simp only [placeMarkup] at h
    split at h
    · cases h
    · rename_i opening closing hsome
      have hopening := hedge opening (List.mem_cons_of_mem _ (htags hsome).1)
      rw [if_pos (by decide)] at h
      split at h <;> cases h <;> exact hopening _ opening.stop_mem_edges
  | endOfChildren =>
    simp only [placeMarkup] at h
    split at h
    · cases h
    · rename_i opening closing hsome
      obtain ⟨hopening, hclosing⟩ := htags hsome
      rw [if_neg (by decide)] at h
      split at h
      · cases h
        -- Behind the content, or behind the opening tag if there is none.
        refine .max (.contentEnd ?_)
          (hedge opening (List.mem_cons_of_mem _ hopening) _ opening.stop_mem_edges)
        exact Node.mem_preorder_trans (mem_preorder_of_target? found)
          (Node.mem_preorder_of_mem_children hclosing)
      · cases h
        exact hedge closing (List.mem_cons_of_mem _ hclosing) _ closing.start_mem_edges

/-- **What a request puts in is put in at one of its places.** -/
theorem Sketched.insert_place {declared : List (Nat × String)} {request : Request} {s : Sketch}
    (h : Sketched w declared request s) {i : Insert} (hi : i ∈ s.inserts) :
    w.document.Place (w.edges request) i.offset := by
  cases h with
  | @state state f found block free =>
    rw [List.mem_singleton.1 hi]
    exact .blockStart (body_mem_of_component? found) (by simpa [FunctionMatch.hasBlock] using block)
  | @effect effect f found block =>
    rw [List.mem_singleton.1 hi]
    exact placeEffect_place found block
  | @wrap target wrapper node found named =>
    have hedge : ∀ offset ∈ node.edges, offset ∈ w.edges (.wrap target wrapper) := by
      intro offset hoffset
      rw [edges, found]
      simpa using hoffset
    rcases List.mem_cons.1 hi with rfl | hi
    · exact .edge (hedge _ node.start_mem_edges)
    · rw [List.mem_singleton.1 hi]
      exact .edge (hedge _ node.stop_mem_edges)
  | @insert target position markup node insert found placed =>
    rw [List.mem_singleton.1 hi]
    exact placeMarkup_place found placed
  | delete => exact absurd hi List.not_mem_nil

/-- **What a request takes out is a node, or the lines that it is alone on.** -/
theorem Sketched.removed_eq {declared : List (Nat × String)} {request : Request} {s : Sketch}
    (h : Sketched w declared request s) {r : ByteRange} (hr : r ∈ s.removed) :
    ∃ node ∈ w.document.root.preorder, (∀ offset ∈ node.edges, offset ∈ w.edges request) ∧
      r = deletionRange w.chars node.start node.stop := by
  cases h with
  | @delete target node found =>
    refine ⟨node, mem_preorder_of_target? found, ?_, (Option.some_inj.1 hr).symm⟩
    intro offset hoffset
    rw [edges, found]
    simpa using hoffset
  | _ => cases hr

end Workspace

end Graft
