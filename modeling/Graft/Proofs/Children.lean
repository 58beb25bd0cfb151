import Graft.Proofs.Consistency
import Graft.Proofs.Nesting
import Mathlib.Data.List.TakeWhile

set_option autoImplicit false

/-!
# Markup at both ends of an element

Markup at the start of the children of an element goes behind its opening tag, markup at the end
goes behind what the children end with, or before the closing tag. Both come to stand between the
tags, and the start comes first, unless there is nothing between the tags that could keep the two
places apart: then they are one, and what is meant for the end, as text that trails, comes before
what is meant for the start, as text that leads.
-/

namespace Graft

/-! ## Trailing blanks -/

namespace Text

theorem byteLength_trimEnd_le (cs : List Char) : byteLength (trimEnd cs) ≤ byteLength cs := by
  obtain ⟨blanks, hblanks⟩ := exists_eq_trimEnd_append cs
  have hlen := congrArg byteLength hblanks
  rw [byteLength_append] at hlen
  omega

theorem byteLength_eq_zero_iff {cs : List Char} : byteLength cs = 0 ↔ cs = [] := by
  cases cs with
  | nil => simp
  | cons c cs =>
    have hpos := c.utf8Size_pos
    simp only [byteLength_cons, reduceCtorEq, iff_false]
    omega

/-- Without the blanks at its end, a text goes on behind a given beginning as far as the rest of it
does. -/
theorem max_trimEnd_before (a inner c : List Char) :
    max (byteLength (trimEnd (before (a ++ (inner ++ c)) (byteLength a + byteLength inner))))
      (byteLength a) = byteLength a + byteLength (trimEnd inner) := by
  have hbefore : before (a ++ (inner ++ c)) (byteLength a + byteLength inner) = a ++ inner := by
    rw [before, ← List.append_assoc, ← byteLength_append, splitBytes_append_byteLength]
    rfl
  rw [hbefore, trimEnd_append]
  split
  · rename_i hblank
    rw [trimEnd_eq_nil_iff.2 hblank, byteLength_nil, Nat.add_zero]
    exact Nat.max_eq_right (byteLength_trimEnd_le a)
  · rw [byteLength_append]
    exact Nat.max_eq_left (Nat.le_add_right _ _)

end Text

/-! ## Pieces in line -/

namespace Piece

/-- Where the range of the source starts that a piece stands for. -/
def start : Piece Edit → Nat
  | kept offset _ => offset
  | added e => e.start

/-- Where the range of the source ends that a piece stands for. -/
def stop : Piece Edit → Nat
  | kept offset c => offset + c.utf8Size
  | added e => e.stop

@[simp] theorem start_added (e : Edit) : (added e).start = e.start := rfl

@[simp] theorem stop_added (e : Edit) : (added e).stop = e.stop := rfl

@[simp] theorem stop_kept (p : Nat) (c : Char) :
    (kept p c : Piece Edit).stop = p + c.utf8Size := rfl

end Piece

namespace Edit

theorem keptPieces_inLine (p : Nat) (cs : List Char) :
    (keptPieces p cs : List (Piece Edit)).Pairwise (fun x y => x.stop ≤ y.start) ∧
      ∀ x ∈ (keptPieces p cs : List (Piece Edit)), p ≤ x.start ∧
        x.stop ≤ p + Text.byteLength cs := by
  induction cs generalizing p with
  | nil => exact ⟨.nil, fun x hx => absurd hx List.not_mem_nil⟩
  | cons c cs ih =>
    obtain ⟨hpairs, hbounds⟩ := ih (p + c.utf8Size)
    rw [keptPieces_cons, List.pairwise_cons, List.forall_mem_cons, Text.byteLength_cons]
    refine ⟨⟨fun x hx => (hbounds x hx).1, hpairs⟩, ⟨Nat.le_refl p, ?_⟩, fun x hx => ?_⟩
    · rw [Piece.stop_kept]
      omega
    · have := hbounds x hx
      omega

/-- The walk over a text with edits in line gives pieces in line. -/
theorem weave_lineLayout_inLine {edits : List Edit} (pre cs : List Char) (hline : InLine edits)
    (hfits : ∀ e ∈ edits, e.Fits (pre ++ cs)) (hpre : ∀ e ∈ edits, Text.byteLength pre ≤ e.start) :
    ((lineLayout edits).weave (Text.byteLength pre) (Text.byteLength pre) cs).Pairwise (fun x y =>
      x.stop ≤ y.start) ∧
      ∀ x ∈ (lineLayout edits).weave (Text.byteLength pre) (Text.byteLength pre) cs,
        Text.byteLength pre ≤ x.start := by
  refine inLine_induction (motive := fun pre cs edits =>
    ((lineLayout edits).weave (Text.byteLength pre) (Text.byteLength pre) cs).Pairwise (fun x y =>
      x.stop ≤ y.start) ∧
      ∀ x ∈ (lineLayout edits).weave (Text.byteLength pre) (Text.byteLength pre) cs,
        Text.byteLength pre ≤ x.start)
    ?_ ?_ hline hfits hpre
  · intro pre cs
    rw [weave_lineLayout_nil]
    obtain ⟨hpairs, hbounds⟩ := keptPieces_inLine (Text.byteLength pre) cs
    exact ⟨hpairs, fun x hx => (hbounds x hx).1⟩
  · intro pre a m b e edits hline ha hm hlen ih
    obtain ⟨hrest, hbehind⟩ := ih
    obtain ⟨hkept, hbounds⟩ := keptPieces_inLine (Text.byteLength pre) a
    rw [hlen] at hrest hbehind
    rw [weave_lineLayout_cons a m b hline ha hm]
    refine ⟨List.pairwise_append.2 ⟨hkept, List.pairwise_cons.2 ⟨hbehind, hrest⟩, ?_⟩, ?_⟩
    · intro x hx y hy
      have hstop := (hbounds x hx).2
      rcases List.mem_cons.1 hy with rfl | hy
      · rwa [Piece.start_added, ← ha]
      · have := hbehind y hy
        omega
    · intro x hx
      rcases List.mem_append.1 hx with hx | hx
      · exact (hbounds x hx).1
      rcases List.mem_cons.1 hx with rfl | hx
      · rw [Piece.start_added]
        omega
      · have := hbehind x hx
        omega

end Edit

namespace Workspace

variable {w : Workspace} {queue : List Request}

/-- **The text before substitutions** comes from the source piece by piece, from left to right. -/
theorem pieces_pairwise {code : String} (hcode : w.spliced queue = .ok code) :
    (w.pieces queue).Pairwise fun x y => x.stop ≤ y.start := by
  obtain ⟨hvalid, hclear, -⟩ := Edit.applyBatch_eq_ok_iff.1 hcode
  have hfits : ∀ e ∈ w.edits queue, e.Fits w.chars :=
    fun e he => (Edit.check_eq_ok_iff.1 (hvalid e he)).1
  have hord : ∀ e ∈ w.edits queue, e.start ≤ e.stop := fun e he => (hfits e he).ordered
  rw [pieces, Edit.assembly, Edit.layout_eq_lineLayout hord hclear]
  refine (Edit.weave_lineLayout_inLine [] w.chars (Edit.inLine_reverse_sorted hord hclear) ?_
    fun _ _ => Nat.zero_le _).1
  exact fun e he => hfits e ((Edit.sorted_perm _).mem_iff.1 (List.mem_reverse.1 he))

theorem mem_pieces {code : String} (hcode : w.spliced queue = .ok code) {e : Edit}
    (he : e ∈ w.edits queue) : .added e ∈ w.pieces queue := by
  obtain ⟨piece, hpiece, hadded⟩ := List.mem_filterMap.1 ((perm_added hcode).mem_iff.2 he)
  cases piece with
  | kept => cases hadded
  | added f =>
    cases hadded
    exact hpiece

/-- What stands before an edit in the text comes from before its range, and what stands behind it
from behind it. -/
theorem pieces_around {code : String} (hcode : w.spliced queue = .ok code) {e : Edit}
    {front back : List (Piece Edit)} (h : w.pieces queue = front ++ .added e :: back) :
    (∀ x ∈ front, x.stop ≤ e.start) ∧ ∀ x ∈ back, e.stop ≤ x.start := by
  have hpairs := pieces_pairwise hcode
  rw [h, List.pairwise_append, List.pairwise_cons] at hpairs
  obtain ⟨-, ⟨hback, -⟩, hfront⟩ := hpairs
  exact ⟨fun x hx => hfront x hx _ List.mem_cons_self, hback⟩

/-- An edit stands between two nodes in the text: nothing before it comes from where the second one
starts on, and nothing behind it from before where the first one ends. -/
def Between (w : Workspace) (queue : List Request) (first second : Node) (e : Edit) : Prop :=
  ∃ front back, w.pieces queue = front ++ .added e :: back ∧ (∀ x ∈ front, x.stop ≤ second.start) ∧
    ∀ x ∈ back, first.stop ≤ x.start

theorem between_of_mem {code : String} (hcode : w.spliced queue = .ok code) {first second : Node}
    {e : Edit} (he : e ∈ w.edits queue) (hins : e.isInsertion = true) (hlow : first.stop ≤ e.start)
    (hhigh : e.start ≤ second.start) : w.Between queue first second e := by
  obtain ⟨front, back, hpieces⟩ := List.append_of_mem (mem_pieces hcode he)
  obtain ⟨hfront, hback⟩ := pieces_around hcode hpieces
  refine ⟨front, back, hpieces, fun x hx => (hfront x hx).trans hhigh, fun x hx => ?_⟩
  have hpoint := Edit.isInsertion_iff.1 hins
  have := hback x hx
  omega

/-! ## Places between tags -/

/-- Nothing keeps two tags apart: there is no text between them, or only blanks with a line
break. -/
def Collapsed (w : Workspace) (opening closing : Node) : Prop :=
  ((Text.slice? w.chars opening.stop closing.start).getD []).all Text.isBlank = true ∧
    ((Text.slice? w.chars opening.stop closing.start).getD [] = [] ∨
      '\n' ∈ (Text.slice? w.chars opening.stop closing.start).getD [])

theorem placeMarkup_startOfChildren {node opening closing : Node} {markup : String} {i : Insert}
    (htags : tagsOf node = some (opening, closing))
    (h : w.placeMarkup node .startOfChildren markup = .ok i) :
    i.offset = opening.stop ∧ i.slot = .leading := by
  unfold placeMarkup at h
  simp only [htags] at h
  split at h
  · split at h <;> cases h <;> exact ⟨rfl, rfl⟩
  · rename_i hnot
    exact absurd rfl hnot

theorem tagsOf_mem {node opening closing : Node} (h : tagsOf node = some (opening, closing)) :
    opening ∈ node.preorder ∧ closing ∈ node.preorder := by
  unfold tagsOf at h
  split at h
  · rename_i o c ho hc
    rw [Option.ite_none_right_eq_some, Option.some_inj, Prod.mk.injEq] at h
    obtain ⟨-, rfl, rfl⟩ := h
    exact ⟨Node.mem_preorder_of_child? ho, Node.mem_preorder_of_child? hc⟩
  · cases h

/-- The tags of an element cut the source in three. -/
theorem exists_inner (hdoc : w.document.WellFormed) {opening closing : Node}
    (hopening : opening ∈ w.document.root.preorder) (hclosing : closing ∈ w.document.root.preorder)
    (hapart : opening.stop ≤ closing.start) :
    ∃ a inner c, w.chars = a ++ (inner ++ c) ∧ opening.stop = Text.byteLength a ∧
      closing.start = Text.byteLength a + Text.byteLength inner := by
  obtain ⟨a, inner, c, hsource, ha, hinner⟩ := Text.exists_split_between [] w.chars
    (hdoc.stop_good hopening) (hdoc.start_good hclosing) (Nat.zero_le _) hapart
  rw [Text.byteLength_nil, Nat.zero_add] at ha
  exact ⟨a, inner, c, hsource, ha.symm, by omega⟩

/-- Markup at the end of the children goes before the blanks between them and the closing tag, if
these have a line break, and else before the closing tag. -/
theorem placeMarkup_endOfChildren {node opening closing : Node} {markup : String} {i : Insert}
    {a inner c : List Char} (htags : tagsOf node = some (opening, closing))
    (hsource : w.chars = a ++ (inner ++ c)) (hstop : opening.stop = Text.byteLength a)
    (hstart : closing.start = Text.byteLength a + Text.byteLength inner)
    (h : w.placeMarkup node .endOfChildren markup = .ok i) :
    i.slot = .trailing ∧ ∃ blanks, inner = Text.trimEnd inner ++ blanks ∧
      i.offset =
        if blanks.contains '\n' then Text.byteLength a + Text.byteLength (Text.trimEnd inner)
        else Text.byteLength a + Text.byteLength inner := by
  obtain ⟨blanks, hblanks⟩ := Text.exists_eq_trimEnd_append inner
  have hcontent :
      max (Text.byteLength (Text.trimEnd (Text.before w.chars closing.start))) opening.stop =
      Text.byteLength a + Text.byteLength (Text.trimEnd inner) := by
    rw [hsource, hstop, hstart, Text.max_trimEnd_before]
  have htail : Text.slice? w.chars (Text.byteLength a + Text.byteLength (Text.trimEnd inner))
      closing.start = some blanks := by
    have hcut := Text.slice?_append (a ++ Text.trimEnd inner) blanks c
    have hlen := congrArg Text.byteLength hblanks
    rw [Text.byteLength_append] at hlen
    rw [Text.byteLength_append, List.append_assoc, ← List.append_assoc _ blanks, ← hblanks] at hcut
    rw [hsource, hstart, hlen, ← Nat.add_assoc]
    exact hcut
  unfold placeMarkup at h
  simp only [htags, hcontent, htail, Option.getD_some] at h
  rw [if_neg (by decide)] at h
  refine ⟨?_, blanks, hblanks, ?_⟩ <;> split at h <;> cases h
  · rfl
  · rfl
  · rw [if_pos ‹_›]
  · rw [if_neg ‹_›, hstart]

/-- Markup at the end of the children has the place of markup at their start exactly if nothing
keeps the tags apart. -/
theorem offset_endOfChildren_iff {opening closing : Node}
    {a inner blanks c : List Char} {offset : Nat}
    (hsource : w.chars = a ++ (inner ++ c)) (hstop : opening.stop = Text.byteLength a)
    (hstart : closing.start = Text.byteLength a + Text.byteLength inner)
    (hblanks : inner = Text.trimEnd inner ++ blanks)
    (hoffset : offset =
      if blanks.contains '\n' then Text.byteLength a + Text.byteLength (Text.trimEnd inner)
      else Text.byteLength a + Text.byteLength inner) :
    offset = opening.stop ↔ w.Collapsed opening closing := by
  have hinner : Text.slice? w.chars opening.stop closing.start = some inner := by
    rw [hsource, hstop, hstart, Text.slice?_append]
  have hzero : ∀ cs : List Char, Text.byteLength a + Text.byteLength cs = Text.byteLength a ↔
      cs = [] := by
    intro cs
    rw [← Text.byteLength_eq_zero_iff]
    omega
  rw [Collapsed, hinner, Option.getD_some, ← Text.trimEnd_eq_nil_iff, hoffset, hstop]
  split
  · rename_i hbreak
    have hin : '\n' ∈ inner := by
      rw [hblanks]
      exact List.mem_append_right _ (List.contains_iff_mem.1 hbreak)
    rw [hzero, and_iff_left (.inr hin)]
  · rename_i hbreak
    rw [hzero]
    constructor
    · rintro rfl
      exact ⟨rfl, .inl rfl⟩
    · rintro ⟨htrim, hempty | hin⟩
      · exact hempty
      · -- All of the text is blank, so its line break is among the blanks at the end.
        rw [htrim, List.nil_append] at hblanks
        exact absurd (List.contains_iff_mem.2 (hblanks ▸ hin)) hbreak

/-! ## Both ends -/

/-- What an accepted request for markup puts in, and nothing else. -/
theorem edits_of_accepted? {target : Target} {position : InsertPosition} {markup : String} {i : Nat}
    {d : Draft} {node : Node} (h : w.accepted? queue (.insert target position markup, i) = some d)
    (hnode : w.target? target = some node) :
    ∃ insert, w.placeMarkup node position markup = .ok insert ∧
      d.edits = [Insert.edit (i + 1) insert] := by
  obtain ⟨s, hsketched, rfl⟩ := sketched_of_accepted? h
  cases hsketched with
  | @insert _ _ _ _ insert found placed =>
    obtain rfl := Option.some_inj.1 (found.symm.trans hnode)
    exact ⟨insert, placed, rfl⟩

theorem exists_startEdit {target : Target} {node opening closing : Node}
    (hnode : w.target? target = some node) (htags : tagsOf node = some (opening, closing))
    {markup : String} {i : Nat} {d : Draft}
    (h : w.accepted? queue (.insert target .startOfChildren markup, i) = some d) :
    ∃ e, d.edits = [e] ∧ e ∈ w.edits queue ∧ e.isInsertion = true ∧
      e.order = Slot.leading.order (i + 1) ∧ e.start = opening.stop := by
  obtain ⟨insert, hplaced, hedits⟩ := edits_of_accepted? h hnode
  obtain ⟨hoffset, hslot⟩ := placeMarkup_startOfChildren htags hplaced
  refine ⟨_, hedits, mem_edits_of_accepted? h (by simp [hedits]),
    Edit.isInsertion_iff.2 rfl, ?_, hoffset⟩
  rw [Insert.edit, hslot]

theorem exists_endEdit (hdoc : w.document.WellFormed) {target : Target}
    {node opening closing : Node} (hnode : w.target? target = some node)
    (htags : tagsOf node = some (opening, closing)) (hapart : opening.stop ≤ closing.start)
    {markup : String} {i : Nat} {d : Draft}
    (h : w.accepted? queue (.insert target .endOfChildren markup, i) = some d) :
    ∃ e, d.edits = [e] ∧ e ∈ w.edits queue ∧ e.isInsertion = true ∧
      e.order = Slot.trailing.order (i + 1) ∧
      opening.stop ≤ e.start ∧ e.start ≤ closing.start ∧
      (e.start = opening.stop ↔ w.Collapsed opening closing) := by
  obtain ⟨insert, hplaced, hedits⟩ := edits_of_accepted? h hnode
  have hmem := mem_preorder_of_target? hnode
  obtain ⟨hopening, hclosing⟩ := tagsOf_mem htags
  obtain ⟨a, inner, c, hsource, hstop, hstart⟩ := exists_inner hdoc
    (Node.mem_preorder_trans hmem hopening) (Node.mem_preorder_trans hmem hclosing) hapart
  obtain ⟨hslot, blanks, hblanks, hoffset⟩ :=
    placeMarkup_endOfChildren htags hsource hstop hstart hplaced
  have hbounds : opening.stop ≤ insert.offset ∧ insert.offset ≤ closing.start := by
    have := Text.byteLength_trimEnd_le inner
    rw [hoffset, hstop, hstart]
    split <;> omega
  refine ⟨_, hedits, mem_edits_of_accepted? h (by simp [hedits]), Edit.isInsertion_iff.2 rfl, ?_,
    hbounds.1, hbounds.2, offset_endOfChildren_iff hsource hstop hstart hblanks hoffset⟩
  rw [Insert.edit, hslot]

/-- How markup at the start and at the end of the children of an element stands in the text before
substitutions. Two numbers say at which places of the queue it is asked for. -/
structure ChildrenPlaced (w : Workspace) (queue : List Request) (opening closing : Node) (i j : Nat)
    (e e' : Edit) (code : String) : Prop where
  /-- The text reads as its pieces. -/
  text_eq : code = String.ofList (Edit.renderPieces (w.pieces queue))
  /-- Both stand between the tags. -/
  start_between : w.Between queue opening closing e
  end_between : w.Between queue opening closing e'
  /-- What is at the start comes first if something keeps the tags apart, or if the numbers of
  requests run from one slot into the next. -/
  in_order : ¬w.Collapsed opening closing ∨ i + 0x100000000 < j → [e, e'].Sublist (w.added queue)
  /-- Otherwise what is at the end comes first, whichever was asked for first. -/
  swapped : w.Collapsed opening closing → j ≤ i + 0x100000000 → [e', e].Sublist (w.added queue)
  /-- It comes first only, unless the two are of one order, as they may be the same then. -/
  not_in_order : w.Collapsed opening closing → j < i + 0x100000000 →
    ¬[e, e'].Sublist (w.added queue)

/-- **Markup at both ends of an element** stands between its tags. What is at the start comes first,
unless there is no text between the tags, or only blanks with a line break: then what is at the end
does. -/
theorem spliced_childrenPlaced (w : Workspace) (queue : List Request) (hdoc : w.document.WellFormed)
    (node opening closing : Node) (htags : tagsOf node = some (opening, closing))
    (hapart : opening.stop ≤ closing.start) (target target' : Target)
    (hnode : w.target? target = some node) (hnode' : w.target? target' = some node)
    (markup markup' : String) (i j : Nat) (d d' : Draft)
    (haccepted : w.accepted? queue (.insert target .startOfChildren markup, i) = some d)
    (haccepted' : w.accepted? queue (.insert target' .endOfChildren markup', j) = some d') :
    ∃ code e e', w.spliced queue = .ok code ∧ d.edits = [e] ∧ d'.edits = [e'] ∧
      w.ChildrenPlaced queue opening closing i j e e' code := by
  obtain ⟨code, hcode⟩ := exists_spliced hdoc queue
  obtain ⟨e, hedits, he, hins, horder, hstart⟩ := exists_startEdit hnode htags haccepted
  obtain ⟨e', hedits', he', hins', horder', hlow, hhigh, hsame⟩ :=
    exists_endEdit hdoc hnode' htags hapart haccepted'
  simp only [Slot.order, Slot.band] at horder horder'
  -- At one offset, what trails comes before what leads.
  have hbefore : w.Collapsed opening closing → j < i + 0x100000000 → e'.Before e :=
    fun hcollapsed hlt => .inr ⟨(hsame.2 hcollapsed).trans hstart.symm, by omega⟩
  refine ⟨code, e, e', hcode, hedits, hedits', code_eq_pieces hcode, ?_, ?_, ?_, ?_, ?_⟩
  · exact between_of_mem hcode he hins (Nat.le_of_eq hstart.symm) (hstart ▸ hapart)
  · exact between_of_mem hcode he' hins' hlow hhigh
  · intro hcase
    refine pair_sublist_added hcode he he' hins hins' ?_
    rw [← hsame] at hcase
    unfold Edit.Before
    omega
  · intro hcollapsed hle
    rcases Nat.lt_or_eq_of_le hle with hlt | htied
    · exact pair_sublist_added hcode he' he hins' hins (hbefore hcollapsed hlt)
    · have hpair := sublist_edits_of_accepted? (by omega) haccepted haccepted'
      rw [hedits, hedits'] at hpair
      exact pair_sublist_added_of_tied hcode hins hins'
        (hstart.trans (hsame.2 hcollapsed).symm) (by omega) hpair
  · intro hcollapsed hlt hpair
    exact not_before_of_sublist hcode hins hins' hpair (hbefore hcollapsed hlt)

/-- The opening tag, the closing tag and the node of an element `a` that ends at an offset. -/
def openingNode : Node :=
  .mk { kind := "jsx_opening_element", field := some "open_tag", start := 0, stop := 3 }
    [.mk { kind := "identifier", field := some "name", start := 1, stop := 2 } []]

def closingNode (stop : Nat) : Node :=
  .mk { kind := "jsx_closing_element", field := some "close_tag", start := stop - 4, stop } []

def elementNode (stop : Nat) : Node :=
  .mk { kind := "jsx_element", start := 0, stop } [openingNode, closingNode stop]

/-- A file with that element alone. -/
def elementFile (source : String) : Workspace where
  document :=
    { source
      root := .mk { kind := "program", start := 0, stop := Text.byteLength source.toList }
        [elementNode (Text.byteLength source.toList)] }
  options := { validateOutput := false }
  parse := .rootOnly

def elementTarget : Target := .locate { tag := "a" }

/-- Markup at the end of the children, and then at their start. -/
def bothEnds : List Request :=
  [.insert elementTarget .endOfChildren "y", .insert elementTarget .startOfChildren "x"]

theorem spliced_childrenPlaced_apart : (elementFile "<a> b</a>").document.WellFormed ∧
    tagsOf (elementNode 9) = some (openingNode, closingNode 9) ∧
      openingNode.stop ≤ (closingNode 9).start ∧
    (elementFile "<a> b</a>").target? elementTarget = some (elementNode 9) ∧
    ∃ code e e', (elementFile "<a> b</a>").spliced bothEnds = .ok code ∧
      (elementFile "<a> b</a>").ChildrenPlaced bothEnds openingNode (closingNode 9) 1 0 e e' code ∧
      [e, e'].Sublist ((elementFile "<a> b</a>").added bothEnds) := by
  have hdoc : (elementFile "<a> b</a>").document.WellFormed := by decide +kernel
  obtain ⟨d, hd⟩ := Option.isSome_iff_exists.1 (show ((elementFile "<a> b</a>").accepted? bothEnds
    (.insert elementTarget .startOfChildren "x", 1)).isSome = true by decide +kernel)
  obtain ⟨d', hd'⟩ := Option.isSome_iff_exists.1 (show ((elementFile "<a> b</a>").accepted? bothEnds
    (.insert elementTarget .endOfChildren "y", 0)).isSome = true by decide +kernel)
  obtain ⟨code, e, e', hcode, -, -, hplaced⟩ := spliced_childrenPlaced _ bothEnds hdoc
    (elementNode 9) openingNode (closingNode 9) rfl (by decide) elementTarget elementTarget rfl rfl
    "x" "y" 1 0 d d' hd hd'
  refine ⟨hdoc, rfl, by decide, rfl, code, e, e', hcode, hplaced, hplaced.in_order (.inl ?_)⟩
  unfold Collapsed
  decide +kernel

/-- The text that edits make whose order is known. -/
theorem spliced_eq_foldl (edits : List Edit) (hperm : edits.Perm (w.edits queue))
    (hvalid : ∀ e ∈ w.edits queue, e.check w.chars = .ok ())
    (hclear : (w.edits queue).Pairwise fun e f => e.overlaps f = false)
    (hsorted : edits.Pairwise fun e f => (Edit.spliceOrder e f).isLE = true ∧
      (Edit.spliceOrder f e).isLE = false) :
    w.spliced queue = .ok (String.ofList (edits.foldl Edit.splice w.chars)) :=
  Edit.applyBatch_eq_foldl hvalid hclear hperm hsorted

/-- Two insertions behind the opening tag, by the numbers of their requests. -/
def insertedBoth (first second : String) (i j : Nat) : List Edit :=
  [Insert.edit i ⟨3, first, .leading⟩, Insert.edit j ⟨3, second, .trailing⟩]

/-- Between tags with nothing between them, the end comes before the start, whichever is asked for
first. -/
theorem spliced_bothEnds_swapped :
    ((elementFile "<a></a>").drafted bothEnds).errors = [] ∧
    (elementFile "<a></a>").spliced bothEnds = .ok "<a>yx</a>" ∧
    ((elementFile "<a></a>").drafted bothEnds.reverse).errors = [] ∧
    (elementFile "<a></a>").spliced bothEnds.reverse = .ok "<a>yx</a>" ∧
    ((elementFile "<a>\n</a>").drafted bothEnds).errors = [] ∧
    (elementFile "<a>\n</a>").spliced bothEnds = .ok "<a>\n  y\n  x\n</a>" := by
  refine ⟨by decide +kernel, ?_, by decide +kernel, ?_, by decide +kernel, ?_⟩
  · rw [spliced_eq_foldl (insertedBoth "x" "y" 2 1) (by decide +kernel) (by decide +kernel)
      (by decide +kernel) (by decide +kernel)]
    exact congrArg Except.ok (by decide +kernel)
  · rw [spliced_eq_foldl (insertedBoth "x" "y" 1 2) (by decide +kernel) (by decide +kernel)
      (by decide +kernel) (by decide +kernel)]
    exact congrArg Except.ok (by decide +kernel)
  · rw [spliced_eq_foldl (insertedBoth "\n  x" "\n  y" 2 1) (by decide +kernel) (by decide +kernel)
      (by decide +kernel) (by decide +kernel)]
    exact congrArg Except.ok (by decide +kernel)

end Workspace

end Graft
