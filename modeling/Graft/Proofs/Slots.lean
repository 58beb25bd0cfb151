import Graft.Proofs.Batch
import Graft.Session.Generate

set_option autoImplicit false

/-!
# Slots

The number of a request and the slot of a text become one number, the order of an insertion. What
that comes to at an offset is told here without numbers: the block of new imports, closing tags from
the last request to the first, merged imports, then what trails, what leads and what opens, each
from the first request to the last. This needs fewer requests than a band has room for.
-/

namespace Graft

/-! ## Sorting by bands -/

namespace Edit

theorem mem_of_mem_insertionsAt {edits : List Edit} {p : Nat} {e : Edit}
    (h : e ∈ insertionsAt edits p) : e ∈ edits := by
  simp only [insertionsAt, List.mem_mergeSort, List.mem_reverse, List.mem_filter] at h
  exact h.1

/-- Of edits with a wanted order, a tie is there as a whole or not at all. -/
theorem filter_order_insertionsAt_filter (edits : List Edit) (p : Nat) (wanted : Int → Bool)
    (k : Int) :
    ((insertionsAt (edits.filter fun e => wanted e.order) p).filter fun e => e.order == k) =
      if wanted k then (insertionsAt edits p).filter fun e => e.order == k else [] := by
  have htie : ∀ e : Edit, (e.order == k && (e.isInsertion && e.start == p) && wanted e.order) =
      (e.order == k && (e.isInsertion && e.start == p) && wanted k) := by
    intro e
    cases he : e.order == k with
    | false => rfl
    | true => rw [beq_iff_eq.1 he]
  rw [filter_order_insertionsAt, filter_order_insertionsAt, List.filter_filter]
  simp only [htie]
  cases wanted k <;> simp

/-- What is of lower order than some number reads before what is not. -/
theorem insertionsAt_split (edits : List Edit) (p : Nat) (c : Int) :
    insertionsAt edits p = insertionsAt (edits.filter fun e => e.order < c) p ++
      insertionsAt (edits.filter fun e => c ≤ e.order) p := by
  refine eq_of_sorted_of_ties Edit.order (insertionsAt_pairwise edits p) ?_ ?_
  · refine List.pairwise_append.2 ⟨insertionsAt_pairwise _ p, insertionsAt_pairwise _ p, ?_⟩
    intro e he f hf
    have hlow := of_decide_eq_true (List.mem_filter.1 (mem_of_mem_insertionsAt he)).2
    have hhigh := of_decide_eq_true (List.mem_filter.1 (mem_of_mem_insertionsAt hf)).2
    omega
  · -- A tie lies on one side of the number.
    intro k
    rw [List.filter_append, filter_order_insertionsAt_filter edits p fun order => order < c,
      filter_order_insertionsAt_filter edits p fun order => c ≤ order]
    by_cases hk : k < c
    · simp [hk, Int.not_le.2 hk]
    · simp [hk, Int.not_lt.1 hk]

/-- Insertions of rising order read as they are listed. -/
theorem insertionsAt_of_rising {edits : List Edit} (h : edits.Pairwise fun e f => e.order < f.order)
    (p : Nat) : insertionsAt edits p = edits.filter fun e => e.isInsertion && e.start == p := by
  have hsorted := h.filter fun e => e.isInsertion && e.start == p
  refine List.Perm.eq_of_pairwise ?_ (insertionsAt_pairwise edits p) (hsorted.imp Int.le_of_lt) ?_
  · intro e f he hf hef hfe
    have he : e ∈ edits.filter fun e => e.isInsertion && e.start == p := by
      simpa [insertionsAt, List.mem_mergeSort] using he
    have hnodup : ((edits.filter fun e => e.isInsertion && e.start == p).map Edit.order).Nodup :=
      List.pairwise_map.2 (hsorted.imp Int.ne_of_lt)
    exact List.inj_on_of_nodup_map hnodup he hf (Int.le_antisymm hef hfe)
  · exact (List.mergeSort_perm _ _).trans (List.reverse_perm _)

end Edit

open Workspace (importBlockOrder)

/-- The orders that insertions of a slot can have. -/
def Slot.holds : Slot → Int → Bool
  | closing, order => importBlockOrder + 1 ≤ order && order < 0
  | trailing, order => 1 ≤ order && order < 2 * band
  | leading, order => 2 * band ≤ order && order < 3 * band
  | opening, order => 3 * band ≤ order

/-- As long as numbers fit into a band, an order tells its slot. -/
theorem Slot.holds_order_iff (slot slot' : Slot) {seq : Nat} (hpos : 0 < seq)
    (hband : (seq : Int) < band) : slot.holds (slot'.order seq) = true ↔ slot' = slot := by
  cases slot <;> cases slot' <;>
    simp only [holds, Bool.and_eq_true, decide_eq_true_eq, reduceCtorEq, iff_false, iff_true,
      not_and] <;>
    simp only [order, band, importBlockOrder] at * <;> omega

namespace Edit

/-- The band between two numbers reads before what is above it. -/
theorem insertionsAt_band (edits : List Edit) (p : Nat) (low high : Int) (h : low ≤ high) :
    insertionsAt (edits.filter fun e => low ≤ e.order) p =
      insertionsAt (edits.filter fun e => low ≤ e.order && e.order < high) p ++
        insertionsAt (edits.filter fun e => high ≤ e.order) p := by
  rw [insertionsAt_split _ p high, List.filter_filter, List.filter_filter]
  congr 2
  · refine List.filter_congr ?_
    intro e _
    rw [Bool.and_comm]
  · refine List.filter_congr ?_
    intro e _
    rw [Bool.eq_iff_iff, Bool.and_eq_true, decide_eq_true_eq, decide_eq_true_eq]
    omega

/-- Edits at an offset read band by band. -/
theorem insertionsAt_bands (edits : List Edit) (p : Nat) :
    insertionsAt edits p =
      insertionsAt (edits.filter fun e => e.order < importBlockOrder + 1) p ++
      (insertionsAt (edits.filter fun e => Slot.closing.holds e.order) p ++
      (insertionsAt (edits.filter fun e => 0 ≤ e.order && e.order < 1) p ++
      (insertionsAt (edits.filter fun e => Slot.trailing.holds e.order) p ++
      (insertionsAt (edits.filter fun e => Slot.leading.holds e.order) p ++
      insertionsAt (edits.filter fun e => Slot.opening.holds e.order) p)))) := by
  rw [insertionsAt_split edits p (importBlockOrder + 1),
    insertionsAt_band edits p (importBlockOrder + 1) 0 (by decide),
    insertionsAt_band edits p 0 1 (by decide),
    insertionsAt_band edits p 1 (2 * Slot.band) (by decide),
    insertionsAt_band edits p (2 * Slot.band) (3 * Slot.band) (by decide)]
  rfl

end Edit

/-! ## Numbered sketches -/

/-- A sketch with the number and the name of its request. -/
structure Numbered where
  sketch : Sketch
  seq : Nat
  label : String

namespace Numbered

def draft (source : String) (n : Numbered) : Draft := n.sketch.draft source n.seq n.label

theorem inserts_insert (n : Numbered) :
    ∀ e ∈ n.sketch.inserts.map (Insert.edit n.seq), e.isInsertion = true := by
  intro e he
  obtain ⟨i, -, rfl⟩ := List.mem_map.1 he
  exact Edit.isInsertion_iff.2 rfl

/-- Numbers that rise from one on and fit into a band. -/
structure Rising (accepted : List Numbered) : Prop where
  pairwise : accepted.Pairwise fun n m => n.seq < m.seq
  pos : ∀ n ∈ accepted, 0 < n.seq
  lt_band : ∀ n ∈ accepted, (n.seq : Int) < Slot.band

/-- All edits of a session: merged imports, the block of new ones, and those of the accepted
sketches. -/
def batch (source : String) (merges : List Edit) (block : Option Edit)
    (accepted : List Numbered) : List Edit :=
  merges ++ block.toList ++ accepted.flatMap fun n => (n.draft source).edits

end Numbered

/-- The texts of a slot that accepted sketches put in at an offset, in the order of their
requests. -/
def Sketch.textsAt (accepted : List Sketch) (slot : Slot) (p : Nat) : List String :=
  accepted.flatMap fun s => (s.inserts.filter fun i => i.slot = slot && i.offset == p).map (·.text)

theorem filter_eq_if_of_forall {α : Type} {l : List α} {q : α → Bool} {b : Bool}
    (h : ∀ a ∈ l, q a = b) : l.filter q = if b then l else [] := by
  cases b with
  | false => exact List.filter_eq_nil_iff.2 fun a ha => by simp [h a ha]
  | true => exact List.filter_eq_self.2 h

section Batch

variable (source : String) {merges : List Edit} {block : Option Edit} {accepted : List Numbered}
  (hmerges : ∀ e ∈ merges, e.order = 0) (hblock : ∀ e ∈ block.toList, e.order = importBlockOrder)

include hmerges hblock

/-- The edits of a batch whose order is wanted. -/
theorem filter_batch (wanted : Int → Bool) :
    ((Numbered.batch source merges block accepted).filter fun e => wanted e.order) =
      (if wanted 0 then merges else []) ++ (if wanted importBlockOrder then block.toList else []) ++
        accepted.flatMap fun n =>
          (n.sketch.inserts.filter fun i => wanted (i.slot.order n.seq)).map (Insert.edit n.seq) ++
            if wanted 0 then n.sketch.removed.toList.map (ByteRange.removal source) else [] := by
  rw [Numbered.batch, List.filter_append, List.filter_append, List.filter_flatMap,
    filter_eq_if_of_forall fun e he => congrArg wanted (hmerges e he),
    filter_eq_if_of_forall fun e he => congrArg wanted (hblock e he)]
  congr 1
  refine List.flatMap_congr ?_
  intro n _
  show ((n.sketch.inserts.map (Insert.edit n.seq) ++
    n.sketch.removed.toList.map (ByteRange.removal source)).filter fun e => wanted e.order) = _
  have hremoved : ∀ e ∈ n.sketch.removed.toList.map (ByteRange.removal source),
      wanted e.order = wanted 0 := by
    intro e he
    obtain ⟨r, -, rfl⟩ := List.mem_map.1 he
    rfl
  rw [List.filter_append, filter_eq_if_of_forall hremoved, List.filter_map]
  rfl

variable (hrising : Numbered.Rising accepted)

include hrising

/-- The edits of a batch that belong to a slot are the insertions of that slot. -/
theorem filter_batch_slot (slot : Slot) :
    ((Numbered.batch source merges block accepted).filter fun e => slot.holds e.order) =
      accepted.flatMap fun n => (n.sketch.inserts.filter fun i => i.slot = slot).map
        (Insert.edit n.seq) := by
  have hzero : slot.holds 0 = false := by cases slot <;> decide
  have hlow : slot.holds importBlockOrder = false := by cases slot <;> decide
  rw [filter_batch source hmerges hblock, hzero, hlow]
  simp only [Bool.false_eq_true, if_false, List.append_nil, List.nil_append]
  refine List.flatMap_congr ?_
  intro n hn
  congr 1
  refine List.filter_congr ?_
  intro i _
  rw [Bool.eq_iff_iff, decide_eq_true_eq]
  exact Slot.holds_order_iff slot i.slot (hrising.pos n hn) (hrising.lt_band n hn)

/-- The edits of order zero are merged imports and removals. -/
theorem filter_batch_zero :
    ((Numbered.batch source merges block accepted).filter fun e => 0 ≤ e.order && e.order < 1) =
      merges ++ accepted.flatMap fun n =>
        n.sketch.removed.toList.map (ByteRange.removal source) := by
  rw [filter_batch source hmerges hblock fun order => 0 ≤ order && order < 1]
  simp only [show (decide ((0 : Int) ≤ 0) && decide ((0 : Int) < 1)) = true by decide,
    show (decide (0 ≤ importBlockOrder) && decide (importBlockOrder < 1)) = false by decide,
    Bool.false_eq_true, if_false, if_true, List.append_nil]
  congr 1
  refine List.flatMap_congr ?_
  intro n hn
  have hpos := hrising.pos n hn
  have hnone : (n.sketch.inserts.filter fun i => 0 ≤ i.slot.order n.seq && i.slot.order n.seq < 1) =
      [] := by
    refine List.filter_eq_nil_iff.2 ?_
    intro i _
    rw [Bool.and_eq_true, decide_eq_true_eq, decide_eq_true_eq]
    cases i.slot <;> simp only [Slot.order, Slot.band] <;> omega
  rw [hnone, List.map_nil, List.nil_append]

/-- The edits below all slots are the block of new imports. -/
theorem filter_batch_block :
    ((Numbered.batch source merges block accepted).filter fun e => e.order < importBlockOrder + 1) =
      block.toList := by
  rw [filter_batch source hmerges hblock fun order => order < importBlockOrder + 1]
  have hnone : ∀ n ∈ accepted,
      (n.sketch.inserts.filter fun i => i.slot.order n.seq < importBlockOrder + 1) = [] := by
    intro n hn
    have hband := hrising.lt_band n hn
    refine List.filter_eq_nil_iff.2 ?_
    intro i _
    rw [decide_eq_true_eq]
    cases i.slot <;> simp only [Slot.order, Slot.band, importBlockOrder] at * <;> omega
  simp only [show decide ((0 : Int) < importBlockOrder + 1) = false by decide,
    show decide (importBlockOrder < importBlockOrder + 1) = true by decide,
    Bool.false_eq_true, if_false, if_true, List.append_nil, List.nil_append]
  rw [List.flatMap_eq_nil_iff.2 fun n hn => by rw [hnone n hn, List.map_nil], List.append_nil]

end Batch

/-! ## How a batch reads -/

/-- A request puts at most one text into each slot. -/
def Sketch.OnePerSlot (s : Sketch) : Prop := s.inserts.Pairwise fun i j => i.slot ≠ j.slot

/-- What accepted sketches and imports do to a text, told without numbers. -/
def Sketch.textLayout (merges : List Edit) (block : Option Edit)
    (accepted : List Sketch) : Layout String :=
  { inserted := fun p =>
      (block.toList.filter fun e => e.start == p).map (·.text) ++
      ((textsAt accepted .closing p).reverse ++
      (((merges.filter fun e => e.start == p).map (·.text)).reverse ++
      (textsAt accepted .trailing p ++
        (textsAt accepted .leading p ++ textsAt accepted .opening p))))
    replaced := fun p =>
      (accepted.findSome? fun s => s.removed.filter fun r => r.start != r.stop && r.start == p).map
        fun r => (r.stop, "") }

section Reading

variable {accepted : List Numbered} (hrising : Numbered.Rising accepted)

/-- The insertions of a slot at an offset, as edits. -/
theorem texts_slot (accepted : List Numbered) (slot : Slot) (p : Nat) :
    (((accepted.flatMap fun n => (n.sketch.inserts.filter fun i => i.slot = slot).map
      (Insert.edit n.seq)).filter fun e => e.isInsertion && e.start == p).map (·.text)) =
      Sketch.textsAt (accepted.map (·.sketch)) slot p := by
  rw [List.filter_flatMap, List.map_flatMap, Sketch.textsAt, List.flatMap_map]
  congr 1
  funext n
  rw [List.filter_map, List.map_map, List.filter_filter]
  have hat : ∀ i : Insert,
      (((fun e : Edit => e.isInsertion && e.start == p) ∘ Insert.edit n.seq) i &&
      decide (i.slot = slot)) = (decide (i.slot = slot) && i.offset == p) := by
    intro i
    have hins : (Insert.edit n.seq i).isInsertion = true := Edit.isInsertion_iff.2 rfl
    show ((Insert.edit n.seq i).isInsertion && i.offset == p && decide (i.slot = slot)) = _
    rw [hins, Bool.true_and, Bool.and_comm]
  simp only [hat]
  rfl

include hrising

/-- Later closing tags have a lower order. -/
theorem closing_falls :
    (accepted.flatMap fun n => (n.sketch.inserts.filter fun i => i.slot = .closing).map
      (Insert.edit n.seq)).Pairwise fun e f => f.order ≤ e.order := by
  have horder : ∀ n : Numbered,
      ∀ e ∈ (n.sketch.inserts.filter fun i => i.slot = .closing).map (Insert.edit n.seq),
      e.order = -(n.seq : Int) := by
    intro n e he
    obtain ⟨i, hi, rfl⟩ := List.mem_map.1 he
    have hslot : i.slot = .closing := by simpa using (List.mem_filter.1 hi).2
    show i.slot.order n.seq = _
    rw [hslot]
    rfl
  refine List.pairwise_flatMap.2 ⟨?_, ?_⟩
  · intro n _
    refine List.pairwise_of_forall_mem_list ?_
    intro e he f hf
    rw [horder n e he, horder n f hf]
  · refine hrising.pairwise.imp ?_
    intro n m hnm e he f hf
    rw [horder n e he, horder m f hf]
    omega

/-- In the other slots, later texts have a higher order. -/
theorem slot_rises (hone : ∀ n ∈ accepted, n.sketch.OnePerSlot) {slot : Slot}
    (hslot : slot ≠ .closing) :
    (accepted.flatMap fun n => (n.sketch.inserts.filter fun i => i.slot = slot).map
      (Insert.edit n.seq)).Pairwise fun e f => e.order < f.order := by
  have horder : ∀ n : Numbered,
      ∀ e ∈ (n.sketch.inserts.filter fun i => i.slot = slot).map (Insert.edit n.seq),
      e.order = slot.order n.seq := by
    intro n e he
    obtain ⟨i, hi, rfl⟩ := List.mem_map.1 he
    have hslot : i.slot = slot := by simpa using (List.mem_filter.1 hi).2
    show i.slot.order n.seq = _
    rw [hslot]
  refine List.pairwise_flatMap.2 ⟨?_, ?_⟩
  · -- One request has one text for the slot.
    intro n hn
    rw [List.pairwise_map]
    refine ((hone n hn).filter fun i => i.slot = slot).imp_of_mem ?_
    intro i j hi hj hne
    have hi : i.slot = slot := by simpa using (List.mem_filter.1 hi).2
    have hj : j.slot = slot := by simpa using (List.mem_filter.1 hj).2
    exact absurd (hi.trans hj.symm) hne
  · refine hrising.pairwise.imp ?_
    intro n m hnm e he f hf
    rw [horder n e he, horder m f hf]
    cases slot <;> simp only [Slot.order, ne_eq, not_true_eq_false] at * <;> omega

end Reading

/-- The edits of a session as they come: imports are insertions with orders of their own, and
requests are numbered. -/
structure Orderly (merges : List Edit) (block : Option Edit) (accepted : List Numbered) : Prop where
  merges_insert : ∀ e ∈ merges, e.isInsertion = true
  merges_order : ∀ e ∈ merges, e.order = 0
  block_insert : ∀ e ∈ block.toList, e.isInsertion = true
  block_order : ∀ e ∈ block.toList, e.order = importBlockOrder
  rising : Numbered.Rising accepted
  one_per_slot : ∀ n ∈ accepted, n.sketch.OnePerSlot

/-- Among insertions only the offset matters. -/
theorem Edit.filter_insertions {edits : List Edit} (h : ∀ e ∈ edits, e.isInsertion = true)
    (p : Nat) :
    (edits.filter fun e => e.isInsertion && e.start == p) = edits.filter fun e => e.start == p := by
  refine List.filter_congr ?_
  intro e he
  rw [h e he, Bool.true_and]

/-- A removal puts in no text. -/
theorem flatMap_text_removals (source : String) (p : Nat) (accepted : List Numbered) :
    (((accepted.flatMap fun n => n.sketch.removed.toList.map (ByteRange.removal source)).filter
      fun e => e.isInsertion && e.start == p).reverse.flatMap fun e => e.text.toList) = [] := by
  refine List.flatMap_eq_nil_iff.2 ?_
  intro e he
  obtain ⟨n, -, he⟩ := List.mem_flatMap.1 (List.mem_filter.1 (List.mem_reverse.1 he)).1
  obtain ⟨r, -, rfl⟩ := List.mem_map.1 he
  rfl

namespace Orderly

variable {merges : List Edit} {block : Option Edit} {accepted : List Numbered}
  (h : Orderly merges block accepted) (source : String)

include h

theorem texts_closing (p : Nat) :
    (Edit.insertionsAt ((Numbered.batch source merges block accepted).filter fun e =>
      Slot.closing.holds e.order)
      p).map (·.text) = (Sketch.textsAt (accepted.map (·.sketch)) .closing p).reverse := by
  rw [filter_batch_slot source h.merges_order h.block_order h.rising,
    Edit.insertionsAt_of_falling (closing_falls h.rising), List.map_reverse, texts_slot]

theorem texts_other {slot : Slot} (hslot : slot ≠ .closing) (p : Nat) :
    (Edit.insertionsAt ((Numbered.batch source merges block accepted).filter fun e =>
      slot.holds e.order) p).map (·.text) = Sketch.textsAt (accepted.map (·.sketch)) slot p := by
  rw [filter_batch_slot source h.merges_order h.block_order h.rising,
    Edit.insertionsAt_of_rising (slot_rises h.rising h.one_per_slot hslot), texts_slot]

theorem texts_block (p : Nat) :
    Edit.insertionsAt ((Numbered.batch source merges block accepted).filter
      fun e => e.order < importBlockOrder + 1) p = block.toList.filter fun e => e.start == p := by
  have hone : block.toList.Pairwise fun e f => e.order < f.order := by
    cases block with
    | none => exact List.Pairwise.nil
    | some e => exact List.pairwise_singleton _ e
  rw [filter_batch_block source h.merges_order h.block_order h.rising,
    Edit.insertionsAt_of_rising hone, Edit.filter_insertions h.block_insert]

theorem texts_zero (p : Nat) :
    ((Edit.insertionsAt ((Numbered.batch source merges block accepted).filter
      fun e => 0 ≤ e.order && e.order < 1) p).flatMap fun e => e.text.toList) =
      (((merges.filter fun e => e.start == p).map (·.text)).reverse.flatMap String.toList) := by
  have hzero : ∀ e ∈ merges ++ accepted.flatMap fun n =>
      n.sketch.removed.toList.map (ByteRange.removal source), e.order = 0 := by
    intro e he
    rcases List.mem_append.1 he with he | he
    · exact h.merges_order e he
    · obtain ⟨n, -, he⟩ := List.mem_flatMap.1 he
      obtain ⟨r, -, rfl⟩ := List.mem_map.1 he
      rfl
  have hfalls : (merges ++ accepted.flatMap fun n =>
      n.sketch.removed.toList.map (ByteRange.removal source)).Pairwise fun e f =>
        f.order ≤ e.order := by
    refine List.pairwise_of_forall_mem_list ?_
    intro e he f hf
    rw [hzero e he, hzero f hf]
  rw [filter_batch_zero source h.merges_order h.block_order h.rising,
    Edit.insertionsAt_of_falling hfalls, List.filter_append, List.reverse_append,
    List.flatMap_append, flatMap_text_removals, List.nil_append,
    Edit.filter_insertions h.merges_insert, ← List.map_reverse, List.flatMap_map]

/-- **What a batch inserts at an offset**: block, closing tags, merged imports, trailing, leading
and opening texts, in this order. -/
theorem flatMap_text_insertionsAt (p : Nat) :
    ((Edit.insertionsAt (Numbered.batch source merges block accepted) p).flatMap fun e =>
      e.text.toList) =
      ((Sketch.textLayout merges block (accepted.map (·.sketch))).inserted p).flatMap
        String.toList := by
  have hmap : ∀ edits : List Edit, (edits.flatMap fun e => e.text.toList) =
      (edits.map (·.text)).flatMap String.toList := fun edits => (List.flatMap_map _ _ edits).symm
  -- Band by band; of order zero are merged imports and removals, and a removal has no text.
  rw [Edit.insertionsAt_bands]
  simp only [List.flatMap_append, Sketch.textLayout, h.texts_zero source p]
  rw [hmap, hmap, hmap, hmap, hmap, h.texts_block source p, h.texts_closing source p,
    h.texts_other source (by decide) p, h.texts_other source (by decide) p,
    h.texts_other source (by decide) p]

/-- What a batch replaces at an offset: the range of an accepted removal. -/
theorem replacementAt_batch (p : Nat) :
    Edit.replacementAt (Numbered.batch source merges block accepted) p =
      ((accepted.map (·.sketch)).findSome? fun s =>
        s.removed.filter fun r => r.start != r.stop && r.start == p).map
          (ByteRange.removal source) := by
  have hskip : ∀ edits : List Edit, (∀ e ∈ edits, e.isInsertion = true) →
      (edits.find? fun e => !e.isInsertion && e.start == p) = none := by
    intro edits hedits
    refine List.find?_eq_none.2 ?_
    intro e he
    simp [hedits e he]
  rw [Edit.replacementAt, Numbered.batch, List.find?_append, List.find?_append,
    hskip _ h.merges_insert, hskip _ h.block_insert, Option.none_or, Option.none_or,
    List.find?_flatMap, List.findSome?_map, List.map_findSome?]
  congr 1
  funext n
  show ((n.sketch.inserts.map (Insert.edit n.seq) ++
    n.sketch.removed.toList.map (ByteRange.removal source)).find?
    fun e => !e.isInsertion && e.start == p) =
      (n.sketch.removed.filter fun r => r.start != r.stop && r.start == p).map
        (ByteRange.removal source)
  rw [List.find?_append, hskip _ n.inserts_insert, Option.none_or]
  cases n.sketch.removed with
  | none => rfl
  | some r =>
    have hr :
        (!(ByteRange.removal source r).isInsertion && (ByteRange.removal source r).start == p) =
          (r.start != r.stop && r.start == p) := rfl
    rw [Option.toList_some, List.map_singleton, List.find?_singleton, hr, Option.filter_some]
    split <;> rfl

/-- Only accepted removals take characters away. -/
theorem outside_batch (q : Nat) :
    Edit.outside (Numbered.batch source merges block accepted) q =
      (accepted.map (·.sketch)).all fun s => s.removed.all fun r => q < r.start || r.stop ≤ q := by
  have hins : ∀ edits : List Edit, (∀ e ∈ edits, e.isInsertion = true) →
      (edits.all fun e => q < e.start || e.stop ≤ q) = true := by
    intro edits hedits
    refine List.all_eq_true.2 ?_
    intro e he
    have := Edit.isInsertion_iff.1 (hedits e he)
    simp only [Bool.or_eq_true, decide_eq_true_eq]
    omega
  rw [Edit.outside, Numbered.batch, List.all_append, List.all_append, hins _ h.merges_insert,
    hins _ h.block_insert, Bool.true_and, Bool.true_and, List.all_flatMap, List.all_map]
  congr 1
  funext n
  show ((n.sketch.inserts.map (Insert.edit n.seq) ++
    n.sketch.removed.toList.map (ByteRange.removal source)).all
    fun e => q < e.start || e.stop ≤ q) = n.sketch.removed.all fun r => q < r.start || r.stop ≤ q
  rw [List.all_append, hins _ n.inserts_insert, Bool.true_and]
  cases n.sketch.removed with
  | none => rfl
  | some r => exact Bool.and_true _

/-- **How a batch reads**, told without numbers. -/
theorem renderPieces_assembly (source : String) :
    Edit.renderPieces (Edit.assembly (Numbered.batch source merges block accepted) source.toList) =
      Piece.render String.toList
        ((Sketch.textLayout merges block (accepted.map (·.sketch))).pieces source.toList) := by
  refine Layout.render_weave_congr _ _ (h.flatMap_text_insertionsAt source) ?_ 0 0 source.toList
  intro p
  simp only [Edit.layout, h.replacementAt_batch source p, Sketch.textLayout, Option.map_map]
  rfl

/-- Which characters a batch keeps, told without numbers. -/
theorem kept_pieces (source : String) :
    ((Sketch.textLayout merges block (accepted.map (·.sketch))).pieces source.toList).filterMap
      Piece.kept? =
      (Edit.assembly (Numbered.batch source merges block accepted) source.toList).filterMap
        Piece.kept? := by
  refine Layout.kept_weave_congr ?_ 0 0 source.toList
  intro p
  simp only [Edit.layout, h.replacementAt_batch source p, Sketch.textLayout, Option.map_map]
  rfl

end Orderly

end Graft
