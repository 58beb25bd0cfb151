import Graft.Proofs.Wrappers

set_option autoImplicit false

/-!
# Wrappers nest

The tags of a wrapper are two insertions that know nothing of each other; all there is to hold them
together are their offsets and their orders. Still they come in pairs that nest, if the elements
that are wrapped do: closing tags come first at an offset, those of later requests before those of
earlier ones, and opening tags last, the other way round.
-/

namespace Graft

/-! ## Elements that nest -/

/-- Whether a node is an element with a tag. -/
def Node.isElement (n : Node) : Bool := Workspace.elementKinds.contains n.kind

/-- Elements are not empty, and of two with different ranges one comes before the other or lies
strictly inside it. -/
structure Document.ElementsNest (d : Document) : Prop where
  filled : ∀ n ∈ d.root.preorder, n.isElement = true → n.start < n.stop
  apart : ∀ n ∈ d.root.preorder, ∀ m ∈ d.root.preorder, n.isElement = true → m.isElement = true →
    n.range ≠ m.range →
    n.stop ≤ m.start ∨ m.stop ≤ n.start ∨ (n.start < m.start ∧ m.stop < n.stop) ∨
      (m.start < n.start ∧ n.stop < m.stop)

theorem exists_append_of_pair_sublist {α : Type} {a b : α} {l : List α} (h : [a, b].Sublist l) :
    ∃ front inside back, l = front ++ a :: (inside ++ b :: back) := by
  obtain ⟨l₁, l₂, rfl, ha, hb⟩ := List.cons_sublist_iff.1 h
  obtain ⟨front, inside, rfl⟩ := List.append_of_mem ha
  obtain ⟨inside', back, rfl⟩ := List.append_of_mem (List.singleton_sublist.1 hb)
  exact ⟨front, inside ++ inside', back, by simp⟩

namespace Workspace

variable {w : Workspace} {queue : List Request}

/-! ## How wrappers stand in the text -/

/-- What a wrapper encloses: the text of its element, changed by edits in the range of the element
alone. Those that insert something lie strictly inside; the block of new imports may stand at the
end. -/
def Encloses (w : Workspace) (queue : List Request) (x : Wrap) : Prop :=
  ∃ first enclosed last,
    w.pieces queue = first ++ .added x.opening :: (enclosed ++ .added x.closing :: last) ∧
    (∀ e ∈ enclosed.filterMap Piece.added?, x.node.start ≤ e.start ∧ e.stop ≤ x.node.stop ∧
      (e.isInsertion = true → x.node.start < e.start ∧
        (e.start < x.node.stop ∨ e.order = importBlockOrder))) ∧
    Edit.applyBatch w.document.source (enclosed.filterMap Piece.added?).reverse =
      .ok (String.ofList (Text.before w.chars x.node.start ++
        (Edit.renderPieces enclosed ++ Text.after w.chars x.node.stop)))

/-- How the wrappers of a queue stand in the text before substitutions. -/
structure WrapsNest (w : Workspace) (queue : List Request) (code : String) : Prop where
  /-- The text reads as its pieces. -/
  text_eq : code = String.ofList (Edit.renderPieces (w.pieces queue))
  /-- The tags in it are those of the accepted wrappers, each once. -/
  complete : (w.tags queue).Perm ((w.wraps queue).flatMap Wrap.tags)
  /-- They come in pairs that nest. -/
  nested : WellNested (w.tags queue)
  /-- Of two wrappers of one element the earlier one is outside. -/
  outer : ∀ x ∈ w.wraps queue, ∀ y ∈ w.wraps queue, x.node.range = y.node.range → x.seq < y.seq →
    [Tag.opening x, .opening y, .closing y, .closing x].Sublist (w.tags queue)
  /-- The innermost wrapper of an element encloses the element. -/
  innermost : ∀ x ∈ w.wraps queue, (∀ y ∈ w.wraps queue, y.node.range = x.node.range →
    y.seq ≤ x.seq) → w.Encloses queue x
  /-- Markup before the element stands before all its wrappers. -/
  before : ∀ x ∈ w.wraps queue, ∀ target markup i node d,
    (Request.insert target .before markup, i) ∈ queue.zipIdx →
    w.target? target = some node → node.range = x.node.range →
    w.accepted? queue (.insert target .before markup, i) = some d →
    ∀ e ∈ d.edits, [e, x.opening].Sublist (w.added queue)
  /-- Markup after the element stands behind all its wrappers. -/
  after : ∀ x ∈ w.wraps queue, ∀ target markup i node d,
    (Request.insert target .after markup, i) ∈ queue.zipIdx →
    w.target? target = some node → node.range = x.node.range →
    w.accepted? queue (.insert target .after markup, i) = some d →
    ∀ e ∈ d.edits, [x.closing, e].Sublist (w.added queue)

section Elements

variable {code : String} (hcode : w.spliced queue = .ok code) (hlen : queue.length < 0x100000000)
  (hnest : w.document.ElementsNest) (helements : ∀ x ∈ w.wraps queue, x.node.isElement = true)

include hnest helements

theorem start_lt_stop {x : Wrap} (hx : x ∈ w.wraps queue) : x.node.start < x.node.stop :=
  hnest.filled x.node (node_mem_preorder hx) (helements x hx)

theorem nest_cases {x y : Wrap} (hx : x ∈ w.wraps queue) (hy : y ∈ w.wraps queue) :
    (x.node.start = y.node.start ∧ x.node.stop = y.node.stop) ∨
      x.node.stop ≤ y.node.start ∨ y.node.stop ≤ x.node.start ∨
      (x.node.start < y.node.start ∧ y.node.stop < x.node.stop) ∨
      (y.node.start < x.node.start ∧ x.node.stop < y.node.stop) := by
  by_cases h : x.node.range = y.node.range
  · exact .inl ⟨congrArg ByteRange.start h, congrArg ByteRange.stop h⟩
  · exact .inr
      (hnest.apart _ (node_mem_preorder hx) _ (node_mem_preorder hy)
        (helements x hx) (helements y hy) h)

/-- Elements that begin or end together are one. -/
theorem range_eq_of_touching {x y : Wrap} (hx : x ∈ w.wraps queue) (hy : y ∈ w.wraps queue)
    (h : x.node.start = y.node.start ∨ x.node.stop = y.node.stop) :
    x.node.range = y.node.range := by
  have hfilled := start_lt_stop hnest helements hx
  have hfilled' := start_lt_stop hnest helements hy
  rcases nest_cases hnest helements hx hy with ⟨hstart, hstop⟩ | hapart
  · rw [Node.range, Node.range, hstart, hstop]
  · omega

include hcode

theorem pair_sublist_tags {x : Wrap} (hx : x ∈ w.wraps queue) :
    [Tag.opening x, .closing x].Sublist (w.tags queue) := by
  refine sublist_tags hcode (List.pairwise_pair.2 (.inl (start_lt_stop hnest helements hx))) ?_
  intro t ht
  exact mem_allTags_iff.2 ⟨x, hx, by simpa using ht⟩

theorem outer_sublist_tags {x y : Wrap} (hx : x ∈ w.wraps queue) (hy : y ∈ w.wraps queue)
    (hrange : x.node.range = y.node.range) (hlt : x.seq < y.seq) :
    [Tag.opening x, .opening y, .closing y, .closing x].Sublist (w.tags queue) := by
  have hstart : x.node.start = y.node.start := congrArg ByteRange.start hrange
  have hstop : x.node.stop = y.node.stop := congrArg ByteRange.stop hrange
  have hfilled := start_lt_stop hnest helements hx
  refine sublist_tags hcode ?_ ?_
  · simp only [List.pairwise_cons, List.mem_cons, List.not_mem_nil, or_false, forall_eq_or_imp,
      forall_eq, Tag.edit, Edit.Before, Wrap.opening_start, Wrap.closing_start, Wrap.opening_order,
      Wrap.closing_order, List.Pairwise.nil, and_true, IsEmpty.forall_iff, implies_true]
    omega
  · intro t ht
    rw [mem_allTags_iff]
    simp only [List.mem_cons, List.not_mem_nil, or_false] at ht
    rcases ht with rfl | rfl | rfl | rfl
    · exact ⟨x, hx, .inl rfl⟩
    · exact ⟨y, hy, .inl rfl⟩
    · exact ⟨y, hy, .inr rfl⟩
    · exact ⟨x, hx, .inr rfl⟩

include hlen

theorem wellNested_tags : WellNested (w.tags queue) := by
  have hmem : ∀ x, Tag.opening x ∈ w.tags queue ∨ Tag.closing x ∈ w.tags queue →
      x ∈ w.wraps queue := by
    intro x hx
    rw [mem_tags_iff hcode, mem_tags_iff hcode, mem_allTags_iff, mem_allTags_iff] at hx
    simpa using hx
  refine wellNested_of_uncrossed (tags_nodup hcode hlen)
    (fun x hx => pair_sublist_tags hcode hnest helements (hmem x hx)) fun x y h => ?_
  have hx := hmem x (.inl (h.subset (by simp)))
  have hy := hmem y (.inl (h.subset (by simp)))
  have hne : x.seq ≠ y.seq := by
    intro heq
    obtain rfl := eq_of_seq_eq hx hy heq
    simpa using (tags_nodup hcode hlen).sublist h
  -- Whatever the elements have to do with each other, two of the four tags would stand the other
  -- way round.
  have hpairs := (tags_pairwise hcode).sublist h
  simp only [List.pairwise_cons, List.mem_cons, List.not_mem_nil, or_false, forall_eq_or_imp,
    forall_eq, Tag.edit, Edit.Before, Wrap.opening_start, Wrap.closing_start, Wrap.opening_order,
    Wrap.closing_order, List.Pairwise.nil, and_true, IsEmpty.forall_iff, implies_true] at hpairs
  have hfilled := start_lt_stop hnest helements hx
  have hfilled' := start_lt_stop hnest helements hy
  rw [Slot.band] at hpairs
  rcases nest_cases hnest helements hx hy with h | h | h | h | h <;> omega

/-- No insertion stands behind the opening tag of the innermost wrapper at its offset. -/
theorem start_lt_of_innermost {x : Wrap} (hx : x ∈ w.wraps queue)
    (hinner : ∀ y ∈ w.wraps queue, y.node.range = x.node.range → y.seq ≤ x.seq) {e : Edit}
    (he : e.isInsertion = true)
    (hpair : [x.opening, e].Sublist (w.added queue)) : x.node.start < e.start := by
  have hmem :=
    (perm_added hcode).mem_iff.1 (hpair.subset (List.mem_cons_of_mem _ List.mem_cons_self))
  have hbehind := not_before_of_sublist hcode (Tag.edit_isInsertion (.opening x)) he hpair
  have horder := List.pairwise_pair.1 ((added_pairwise_order hcode hlen).sublist hpair)
  simp only [Edit.Before, Tag.edit, Wrap.opening_start, Wrap.opening_order,
    Slot.band] at hbehind horder
  by_contra hnot
  rcases tag_of_order hlen hmem (.inr (by rw [Slot.band]; omega)) with hblock | ⟨y, hy, rfl | rfl⟩
  · rw [hblock, importBlockOrder] at hbehind
    omega
  · simp only [Wrap.opening_start, Wrap.opening_order, Slot.band] at hbehind horder hnot
    have hle := hinner y hy (range_eq_of_touching hnest helements hy hx (.inl (by omega)))
    omega
  · simp only [Wrap.closing_start, Wrap.closing_order] at hbehind hnot
    omega

/-- Only the block of new imports stands before the closing tag of the innermost wrapper at its
offset. -/
theorem lt_stop_of_innermost {x : Wrap} (hx : x ∈ w.wraps queue)
    (hinner : ∀ y ∈ w.wraps queue, y.node.range = x.node.range → y.seq ≤ x.seq) {e : Edit}
    (he : e.isInsertion = true) (hpair : [e, x.closing].Sublist (w.added queue)) :
    e.start < x.node.stop ∨ e.order = importBlockOrder := by
  have hmem := (perm_added hcode).mem_iff.1 (hpair.subset List.mem_cons_self)
  have hbehind := not_before_of_sublist hcode he (Tag.edit_isInsertion (.closing x)) hpair
  have horder := List.pairwise_pair.1 ((added_pairwise_order hcode hlen).sublist hpair)
  have hpos := (seq_bounds hlen hx).1
  simp only [Edit.Before, Tag.edit, Wrap.closing_start, Wrap.closing_order] at hbehind horder
  refine or_iff_not_imp_left.2 fun hnot => ?_
  refine (tag_of_order hlen hmem (.inl (by omega))).resolve_right ?_
  rintro ⟨y, hy, rfl | rfl⟩
  · simp only [Wrap.opening_start, Wrap.opening_order, Slot.band] at hbehind hnot
    omega
  · simp only [Wrap.closing_start, Wrap.closing_order] at hbehind horder hnot
    have hle := hinner y hy (range_eq_of_touching hnest helements hy hx (.inr (by omega)))
    omega

theorem encloses_of_innermost {x : Wrap} (hx : x ∈ w.wraps queue)
    (hinner : ∀ y ∈ w.wraps queue, y.node.range = x.node.range → y.seq ≤ x.seq) :
    w.Encloses queue x := by
  obtain ⟨hvalid, hclear, -⟩ := Edit.applyBatch_eq_ok_iff.1 hcode
  have hord : ∀ e ∈ w.edits queue, e.start ≤ e.stop :=
    fun e he => (Edit.check_eq_ok_iff.1 (hvalid e he)).1.ordered
  have hpair : [x.opening, x.closing].Sublist (w.added queue) := by
    obtain ⟨hopening, hclosing⟩ := tags_mem_edits hx
    exact pair_sublist_added hcode hopening hclosing (Tag.edit_isInsertion (.opening x))
      (Tag.edit_isInsertion (.closing x)) (.inl (start_lt_stop hnest helements hx))
  obtain ⟨front, inside, back, hadded⟩ := exists_append_of_pair_sublist hpair
  have hsorted := (added_eq hcode).symm.trans hadded
  have hline := Edit.inLine_reverse_sorted hord hclear
  rw [hsorted] at hline
  obtain ⟨first, enclosed, last, hpieces, hinside, hbatch⟩ := Edit.exists_enclosed hvalid hclear
    hsorted (Tag.edit_isInsertion (.opening x)) (Tag.edit_isInsertion (.closing x))
  refine ⟨first, enclosed, last, hpieces, ?_, ?_⟩
  · rw [hinside]
    intro e he
    obtain ⟨hlow, hhigh⟩ := Edit.between_of_inLine hline (Tag.edit_isInsertion (.opening x)) e he
    refine ⟨hlow, hhigh, fun hins => ⟨?_, ?_⟩⟩
    · refine start_lt_of_innermost hcode hlen hnest helements hx hinner hins ?_
      rw [hadded]
      exact ((List.singleton_sublist.2 (List.mem_append_left _ he)).cons_cons x.opening).trans
        (List.sublist_append_right front _)
    · refine lt_stop_of_innermost hcode hlen hnest helements hx hinner hins ?_
      rw [hadded]
      exact (((List.singleton_sublist.2 he).append
        (List.singleton_sublist.2 List.mem_cons_self)).cons x.opening).trans
          (List.sublist_append_right front _)
  · rw [hinside]
    exact hbatch

end Elements

/-- What an accepted request for markup puts in. -/
theorem exists_placed_of_accepted? {target : Target} {position : InsertPosition} {markup : String}
    {i : Nat} {d : Draft} {node : Node}
    (h : w.accepted? queue (.insert target position markup, i) = some d)
    (hnode : w.target? target = some node) {e : Edit} (he : e ∈ d.edits) :
    ∃ insert, w.placeMarkup node position markup = .ok insert ∧ e = Insert.edit (i + 1) insert := by
  obtain ⟨s, hsketched, rfl⟩ := sketched_of_accepted? h
  cases hsketched with
  | @insert _ _ _ _ insert found placed =>
    obtain rfl := Option.some_inj.1 (found.symm.trans hnode)
    exact ⟨insert, placed, List.mem_singleton.1 he⟩

/-- **Wrappers nest.** If the wrapped elements do, the tags in the text come in pairs that nest, and
each closing tag belongs to its opening tag. The earlier of two wrappers of one element is outside,
the innermost encloses the element with what was changed in it, and markup before or after the
element stands outside all of them. -/
theorem spliced_wrapsNest (w : Workspace) (queue : List Request) (hlen : queue.length < 0x100000000)
    (hnest : w.document.ElementsNest) (helements : ∀ x ∈ w.wraps queue, x.node.isElement = true)
    (code : String) (hcode : w.spliced queue = .ok code) : w.WrapsNest queue code where
  text_eq := code_eq_pieces hcode
  complete := (List.perm_ext_iff_of_nodup (tags_nodup hcode hlen) (w.allTags_nodup queue)).2
    fun _ => mem_tags_iff hcode
  nested := wellNested_tags hcode hlen hnest helements
  outer x hx y hy hrange hlt := outer_sublist_tags hcode hnest helements hx hy hrange hlt
  innermost x hx hinner := encloses_of_innermost hcode hlen hnest helements hx hinner
  before x hx target markup i node d hitem hnode hrange haccepted e he := by
    obtain ⟨insert, hplaced, rfl⟩ := exists_placed_of_accepted? haccepted hnode he
    obtain ⟨hoffset, hslot⟩ := placeMarkup_before hplaced
    have hlt := List.snd_lt_of_mem_zipIdx hitem
    refine pair_sublist_added hcode (mem_edits_of_accepted? haccepted he) (tags_mem_edits hx).1
      (Edit.isInsertion_iff.2 rfl) (Tag.edit_isInsertion (.opening x)) (.inr ⟨?_, ?_⟩)
    · exact hoffset.trans (congrArg ByteRange.start hrange)
    · show insert.slot.order (i + 1) < _
      rw [hslot, Wrap.opening_order, Slot.order, Slot.band]
      omega
  after x hx target markup i node d hitem hnode hrange haccepted e he := by
    obtain ⟨insert, hplaced, rfl⟩ := exists_placed_of_accepted? haccepted hnode he
    obtain ⟨hoffset, hslot⟩ := placeMarkup_after hplaced
    refine pair_sublist_added hcode (tags_mem_edits hx).2 (mem_edits_of_accepted? haccepted he)
      (Tag.edit_isInsertion (.closing x)) (Edit.isInsertion_iff.2 rfl) (.inr ⟨?_, ?_⟩)
    · exact (hoffset.trans (congrArg ByteRange.stop hrange)).symm
    · show _ < insert.slot.order (i + 1)
      rw [hslot, Wrap.closing_order, Slot.order, Slot.band]
      omega

/-- An element in another one. -/
def nestedElements : Workspace where
  document :=
    { source := "<a><b/></a>"
      root := .mk { kind := "program", start := 0, stop := 11 }
        [.mk { kind := "jsx_element", start := 0, stop := 11 }
          [.mk { kind := "jsx_self_closing_element", start := 3, stop := 7 } []]] }
  options := { validateOutput := false }
  parse := .rootOnly

/-- Wrappers around both, two of them around the outer one, and markup next to both. -/
def wrappedElements : List Request :=
  let outer : Target := .node ⟨"jsx_element", 0, 11⟩
  let inner : Target := .node ⟨"jsx_self_closing_element", 3, 7⟩
  [.wrap outer { component := "B" }, .wrap inner { component := "C" },
    .wrap outer { component := "D" }, .insert outer .before "x", .insert inner .after "y"]

/-- What is accepted of them. -/
def acceptedWrapped : List Numbered :=
  [⟨{ inserts := [⟨0, "<B>", .opening⟩, ⟨11, "</B>", .closing⟩], anchors := [⟨0, 11⟩] }, 1,
      "#1 wrap jsx_element@0..11 in <B>"⟩,
    ⟨{ inserts := [⟨3, "<C>", .opening⟩, ⟨7, "</C>", .closing⟩], anchors := [⟨3, 7⟩] }, 2,
      "#2 wrap jsx_self_closing_element@3..7 in <C>"⟩,
    ⟨{ inserts := [⟨0, "<D>", .opening⟩, ⟨11, "</D>", .closing⟩], anchors := [⟨0, 11⟩] }, 3,
      "#3 wrap jsx_element@0..11 in <D>"⟩,
    ⟨{ inserts := [⟨0, "x\n", .leading⟩], anchors := [⟨0, 11⟩] }, 4,
      "#4 insert markup before jsx_element@0..11"⟩,
    ⟨{ inserts := [⟨7, "y", .trailing⟩], anchors := [⟨3, 7⟩] }, 5,
      "#5 insert markup after jsx_self_closing_element@3..7"⟩]

theorem spliced_wrappedElements :
    nestedElements.spliced wrappedElements = .ok "x\n<B><D><a><C><b/></C>y</a></D></B>" := by
  have hdrafted : (nestedElements.drafted wrappedElements).accepted =
      acceptedWrapped.map (·.draft "<a><b/></a>") := by
    decide +kernel
  have hmerges : nestedElements.spareMerges wrappedElements (acceptedWrapped.map (·.sketch)) =
      [] := by decide +kernel
  have hblock : nestedElements.spareBlock? wrappedElements (acceptedWrapped.map (·.sketch)) =
      none := by decide +kernel
  have horderly : Orderly [] none acceptedWrapped :=
    ⟨by decide, by decide, by decide, by decide, ⟨by decide, by decide, by decide⟩,
      by unfold Sketch.OnePerSlot; decide⟩
  rw [spliced_eq hdrafted, batch, hmerges, hblock]
  refine Edit.applyBatch_eq_ok_iff.2 ⟨by decide +kernel, by decide +kernel, ?_⟩
  rw [horderly.renderPieces_assembly]
  decide +kernel

theorem elementsNest_nestedElements : nestedElements.document.ElementsNest :=
  ⟨by decide +kernel, by decide +kernel⟩

theorem spliced_wrapsNest_nestedElements :
    nestedElements.document.ElementsNest ∧
      (∀ x ∈ nestedElements.wraps wrappedElements, x.node.isElement = true) ∧
      (nestedElements.wraps wrappedElements).map (·.seq) = [1, 2, 3] ∧
      nestedElements.WrapsNest wrappedElements "x\n<B><D><a><C><b/></C>y</a></D></B>" := by
  have helements : ∀ x ∈ nestedElements.wraps wrappedElements, x.node.isElement = true := by
    decide +kernel
  exact ⟨elementsNest_nestedElements, helements, by decide +kernel,
    spliced_wrapsNest nestedElements wrappedElements
      (by decide) elementsNest_nestedElements helements _ spliced_wrappedElements⟩

end Workspace

end Graft
