import Graft.Proofs.LineCut
import Graft.Proofs.Places

set_option autoImplicit false

/-!
# Trees that fit their text

Where a request puts something in or takes something out follows from where nodes are. If every node
of a tree covers a range of the text between characters, blocks start with a brace and names in
braces end with one, then so does every edit, be it of a request or of an import.
-/

namespace Graft

namespace Text

/-! ## Offsets -/

theorem before_append_after {cs : List Char} {n : Nat} (h : isBoundary cs n = true) :
    before cs n ++ after cs n = cs ∧ byteLength (before cs n) = n := by
  obtain ⟨a, b, rfl, rfl⟩ := isBoundary_iff.1 h
  rw [before, after, splitBytes_append_byteLength]
  exact ⟨rfl, rfl⟩

theorem isBoundary_max {cs : List Char} {m n : Nat} (hm : isBoundary cs m = true)
    (hn : isBoundary cs n = true) : isBoundary cs (max m n) = true := by
  rcases Nat.le_total m n with hle | hle
  · rwa [Nat.max_eq_right hle]
  · rwa [Nat.max_eq_left hle]

/-- A beginning of the text before a good offset ends at one. -/
theorem isBoundary_of_before_eq {cs a b : List Char} {n : Nat} (h : isBoundary cs n = true)
    (hab : before cs n = a ++ b) : isBoundary cs (byteLength a) = true := by
  rw [← (before_append_after h).1, hab, List.append_assoc]
  exact isBoundary_append_byteLength a (b ++ after cs n)

/-- A beginning of the text behind a good offset ends at one. -/
theorem isBoundary_of_after_eq {cs a b : List Char} {n : Nat} (h : isBoundary cs n = true)
    (hab : after cs n = a ++ b) : isBoundary cs (n + byteLength a) = true := by
  obtain ⟨hcs, hn⟩ := before_append_after h
  have hgood := isBoundary_append_byteLength (before cs n ++ a) b
  rwa [List.append_assoc, ← hab, hcs, byteLength_append, hn] at hgood

theorem isBoundary_trimEnd_before {cs : List Char} {n : Nat} (h : isBoundary cs n = true) :
    isBoundary cs (byteLength (trimEnd (before cs n))) = true := by
  obtain ⟨blanks, hblanks⟩ := exists_eq_trimEnd_append (before cs n)
  exact isBoundary_of_before_eq h hblanks

end Text

/-! ## Valid edits -/

namespace Edit

theorem holdsOf_ofText (text : String) : (Expectation.ofText text).holdsOf text = true := by
  unfold Expectation.ofText
  split <;> simp [Expectation.holdsOf]

theorem check_removal {source : String} {r : ByteRange} (hle : r.start ≤ r.stop)
    (hstart : Text.isBoundary source.toList r.start = true)
    (hstop : Text.isBoundary source.toList r.stop = true) :
    (r.removal source).check source.toList = .ok () :=
  check_eq_ok_iff.2 ⟨⟨hle, hstart, hstop⟩, holdsOf_ofText _⟩

end Edit

/-- A sketch puts text in between characters, or takes out a range that lies between characters. -/
structure Sketch.Fits (source : List Char) (s : Sketch) : Prop where
  inserts_good : ∀ i ∈ s.inserts, Text.isBoundary source i.offset = true
  removed_fits : ∀ r ∈ s.removed, r.Fits source
  apart : s.inserts = [] ∨ s.removed = none

theorem Sketch.Fits.check {source : String} {s : Sketch} (h : s.Fits source.toList) {seq : Nat}
    {label : String} {e : Edit} (he : e ∈ (s.draft source seq label).edits) :
    e.check source.toList = .ok () := by
  rcases List.mem_append.1 he with he | he
  · obtain ⟨i, hi, rfl⟩ := List.mem_map.1 he
    exact Edit.check_of_insertion (Edit.isInsertion_iff.2 rfl) rfl (h.inserts_good i hi)
  · obtain ⟨r, hr, rfl⟩ := List.mem_map.1 he
    have hfits := h.removed_fits r (Option.mem_toList.1 hr)
    exact Edit.check_removal hfits.ordered hfits.start_good hfits.stop_good

/-! ## Documents -/

/-- Every node covers a range of the text between characters, blocks start with a brace, and names
in braces end with one. -/
structure Document.WellFormed (d : Document) : Prop where
  range_fits : ∀ n ∈ d.root.preorder, n.range.Fits d.source.toList
  block_open : ∀ n ∈ d.root.preorder, n.kind = "statement_block" →
    (Text.after d.source.toList n.start).head? = some '\x7b'
  names_closed : ∀ n ∈ d.root.preorder, n.kind = "named_imports" →
    (Text.before d.source.toList n.stop).getLast? = some '\x7d'

instance (d : Document) : Decidable d.WellFormed :=
  decidable_of_iff
    ((∀ n ∈ d.root.preorder, n.range.Fits d.source.toList) ∧
      (∀ n ∈ d.root.preorder, n.kind = "statement_block" →
        (Text.after d.source.toList n.start).head? = some '\x7b') ∧
      ∀ n ∈ d.root.preorder, n.kind = "named_imports" →
        (Text.before d.source.toList n.stop).getLast? = some '\x7d')
    ⟨fun h => ⟨h.1, h.2.1, h.2.2⟩, fun h => ⟨h.range_fits, h.block_open, h.names_closed⟩⟩

namespace Document.WellFormed

variable {d : Document} (h : d.WellFormed)

include h

theorem start_good {n : Node} (hn : n ∈ d.root.preorder) :
    Text.isBoundary d.source.toList n.start = true :=
  (h.range_fits n hn).start_good

theorem stop_good {n : Node} (hn : n ∈ d.root.preorder) :
    Text.isBoundary d.source.toList n.stop = true :=
  (h.range_fits n hn).stop_good

/-- Behind the opening brace of a block. -/
theorem block_inner_good {n : Node} (hn : n ∈ d.root.preorder)
    (hkind : n.kind = "statement_block") :
    Text.isBoundary d.source.toList (n.start + 1) = true := by
  obtain ⟨rest, hrest⟩ := List.head?_eq_some_iff.1 (h.block_open n hn hkind)
  exact Text.isBoundary_of_after_eq (a := ['\x7b']) (h.start_good hn) hrest

/-- Before the closing brace of names. -/
theorem names_inner_good {n : Node} (hn : n ∈ d.root.preorder) (hkind : n.kind = "named_imports") :
    Text.isBoundary d.source.toList (n.stop - 1) = true := by
  obtain ⟨front, hfront⟩ := List.getLast?_eq_some_iff.1 (h.names_closed n hn hkind)
  have hstop := (Text.before_append_after (h.stop_good hn)).2
  rw [hfront, Text.byteLength_append] at hstop
  -- The brace is one byte wide, so the offset before it is where the rest ends.
  have hbrace : Text.byteLength ['\x7d'] = 1 := rfl
  have hinner : n.stop - 1 = Text.byteLength front := by omega
  rw [hinner]
  exact Text.isBoundary_of_before_eq (h.stop_good hn) hfront

theorem edge_good {n : Node} (hn : n ∈ d.root.preorder) {offset : Nat}
    (hoffset : offset ∈ n.edges) : Text.isBoundary d.source.toList offset = true := by
  rcases List.mem_cons.1 hoffset with rfl | hoffset
  · exact h.start_good hn
  · rw [List.mem_singleton.1 hoffset]
    exact h.stop_good hn

/-- Places lie between characters if the edges do that they are taken from. -/
theorem place_good {edges : List Nat}
    (hedges : ∀ offset ∈ edges, Text.isBoundary d.source.toList offset = true) {offset : Nat}
    (hplace : d.Place edges offset) : Text.isBoundary d.source.toList offset = true := by
  cases hplace with
  | edge mem => exact hedges _ mem
  | blockStart mem kind => exact h.block_inner_good mem kind
  | namesEnd mem kind => exact h.names_inner_good mem kind
  | contentEnd mem => exact Text.isBoundary_trimEnd_before (h.start_good mem)

/-! ## Imports -/

theorem importEdge_good {offset : Nat} (hoffset : offset ∈ d.importEdges) :
    Text.isBoundary d.source.toList offset = true := by
  obtain ⟨statement, hstatement, hoffset⟩ := List.mem_flatMap.1 hoffset
  obtain ⟨n, hn, hoffset⟩ := List.mem_flatMap.1 hoffset
  exact h.edge_good (Node.mem_preorder_trans (mem_preorder_of_mem_importStatements hstatement) hn)
    hoffset

theorem mergeOffset_good {i : ExistingImport} (hi : i ∈ d.imports) {offset : Nat}
    (hoffset : offset ∈ i.mergeOffsets) : Text.isBoundary d.source.toList offset = true :=
  h.place_good (fun _ => h.importEdge_good) (mergeOffset_place hi hoffset)

theorem prologueEnd_good {found : Option Nat}
    (hfound : ∀ offset ∈ found, Text.isBoundary d.source.toList offset = true) {nodes : List Node}
    (hnodes : ∀ n ∈ nodes, n ∈ d.root.preorder) {offset : Nat}
    (hend : offset ∈ prologueEnd d.source.toList found nodes) :
    Text.isBoundary d.source.toList offset = true := by
  induction nodes generalizing found with
  | nil => exact hfound offset hend
  | cons n nodes ih =>
    have hrest : ∀ m ∈ nodes, m ∈ d.root.preorder :=
      fun m hm => hnodes m (List.mem_cons_of_mem n hm)
    have hstop : ∀ offset ∈ some n.stop, Text.isBoundary d.source.toList offset = true := by
      rintro _ ⟨⟩
      exact h.stop_good (hnodes n List.mem_cons_self)
    simp only [prologueEnd] at hend
    split at hend
    · refine ih ?_ hrest hend
      split
      · exact hstop
      · exact hfound
    · exact ih hstop hrest hend
    · split at hend
      · exact ih hstop hrest hend
      · exact hfound offset hend
    · exact hfound offset hend

/-- **New imports go between characters.** -/
theorem importPlacement_good :
    Text.isBoundary d.source.toList (d.importPlacement d.imports).offset = true := by
  unfold importPlacement
  split
  · rename_i first rest hstops
    have hgood : ∀ offset ∈ first :: rest, Text.isBoundary d.source.toList offset = true := by
      intro offset hoffset
      rw [← hstops] at hoffset
      obtain ⟨i, hi, rfl⟩ := List.mem_map.1 hoffset
      obtain ⟨statement, hstatement, hread⟩ := exists_readFrom hi
      rw [hread.stop_eq]
      exact h.stop_good (mem_preorder_of_mem_importStatements hstatement)
    refine List.foldlRecOn (motive := fun m => Text.isBoundary d.source.toList m = true) rest max
      (hgood first List.mem_cons_self) ?_
    intro m hm offset hoffset
    exact Text.isBoundary_max hm (hgood offset (List.mem_cons_of_mem first hoffset))
  · split
    · rename_i offset hoffset
      exact h.prologueEnd_good (fun _ hnone => by cases hnone)
        (fun _ hn => Node.mem_preorder_of_mem_namedChildren hn) hoffset
    · exact Text.isBoundary_zero _

end Document.WellFormed

/-! ## Requests -/

namespace Workspace

section Requests

variable {w : Workspace} (hdoc : w.document.WellFormed)

include hdoc

theorem mem_edges_good {request : Request} {offset : Nat} (h : offset ∈ w.edges request) :
    Text.isBoundary w.chars offset = true := by
  cases request with
  | addImport spec =>
    rcases List.mem_append.1 h with h | h
    · exact hdoc.importEdge_good h
    · rw [List.mem_singleton.1 h]
      exact hdoc.importPlacement_good
  | addEffect effect =>
    obtain ⟨f, hf, h⟩ := List.mem_flatMap.1 h
    obtain ⟨n, hn, h⟩ := List.mem_flatMap.1 h
    exact hdoc.edge_good (Node.mem_preorder_trans (body_mem_of_component? (Option.mem_toList.1 hf))
      (Node.mem_preorder_of_mem_namedChildren hn)) h
  | wrap target wrapper =>
    obtain ⟨n, hn, h⟩ := List.mem_flatMap.1 h
    exact hdoc.edge_good (mem_preorder_of_target? (Option.mem_toList.1 hn)) h
  | delete target =>
    obtain ⟨n, hn, h⟩ := List.mem_flatMap.1 h
    exact hdoc.edge_good (mem_preorder_of_target? (Option.mem_toList.1 hn)) h
  | insert target position markup =>
    obtain ⟨node, hnode, h⟩ := List.mem_flatMap.1 h
    obtain ⟨n, hn, hoffset⟩ := List.mem_flatMap.1 h
    have hnode := mem_preorder_of_target? (Option.mem_toList.1 hnode)
    rcases List.mem_cons.1 hn with rfl | hn
    · exact hdoc.edge_good hnode hoffset
    · exact hdoc.edge_good (Node.mem_preorder_trans hnode (Node.mem_preorder_of_mem_children hn))
        hoffset
  | addState | replace => exact absurd h List.not_mem_nil

/-- **What a request does fits the text.** -/
theorem Sketched.fits {declared : List (Nat × String)} {request : Request} {s : Sketch}
    (h : Sketched w declared request s) : s.Fits w.chars where
  inserts_good i hi := hdoc.place_good (fun _ => mem_edges_good hdoc) (h.insert_place hi)
  removed_fits r hr := by
    obtain ⟨node, hnode, -, rfl⟩ := h.removed_eq hr
    exact deletionRange_fits (hdoc.range_fits node hnode)
  apart := by
    cases h with
    | delete => exact .inl rfl
    | _ => exact .inr rfl

end Requests

end Workspace

end Graft
