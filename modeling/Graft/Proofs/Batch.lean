import Graft.Edit
import Graft.Proofs.Weave
import Mathlib.Data.List.Pairwise
import Mathlib.Data.List.Sort

set_option autoImplicit false

/-!
# Batches of edits

Edits are made from the end of a text to its start, in an order that is found by sorting. The result
is said without either: it reads as the walk of `Edit.layout`, which looks up at every offset what a
list of edits inserts and replaces there. The bridge between the two is `Edit.InLine`, a list of
edits none of which starts before the one in front of it has ended. Sorted edits that do not overlap
are in line when read backwards; making edits in line keeps everything before the first of them.
-/

namespace Graft

/-! ## Sorting keeps ties in order -/

section Ties

variable {α : Type}

/-- Sorting does not rearrange elements that are all tied with each other. -/
theorem filter_mergeSort_of_ties {le : α → α → Bool} (trans : ∀ a b c, le a b → le b c → le a c)
    (total : ∀ a b, le a b || le b a) (l : List α) (tied : α → Bool)
    (hties : ∀ a b, tied a → tied b → le a b) : (l.mergeSort le).filter tied = l.filter tied := by
  have hsorted : (l.filter tied).Pairwise fun a b => le a b = true := by
    refine List.pairwise_of_forall_mem_list ?_
    intro a ha b hb
    exact hties a b (List.mem_filter.1 ha).2 (List.mem_filter.1 hb).2
  have hsub : (l.filter tied).Sublist ((l.mergeSort le).filter tied) := by
    have h := (List.sublist_mergeSort trans total hsorted List.filter_sublist).filter tied
    simpa only [List.filter_filter, Bool.and_self] using h
  have hlen : (l.filter tied).length = ((l.mergeSort le).filter tied).length :=
    ((List.mergeSort_perm l le).filter tied).length_eq.symm
  exact (hsub.eq_of_length hlen).symm

/-- A list sorted by a key is known once it is known what it holds for each key. -/
theorem eq_of_sorted_of_ties (key : α → Int) {l₁ l₂ : List α}
    (h₁ : l₁.Pairwise fun a b => key a ≤ key b) (h₂ : l₂.Pairwise fun a b => key a ≤ key b)
    (h : ∀ k, (l₁.filter fun a => key a == k) = l₂.filter fun a => key a == k) : l₁ = l₂ := by
  have hmem : ∀ a, a ∈ l₁ ↔ a ∈ l₂ := by
    intro a
    have hk := congrArg (a ∈ ·) (h (key a))
    simpa using hk
  induction l₁ generalizing l₂ with
  | nil =>
    cases l₂ with
    | nil => rfl
    | cons b l₂ => exact absurd ((hmem b).2 List.mem_cons_self) List.not_mem_nil
  | cons a l₁ ih =>
    cases l₂ with
    | nil => exact absurd ((hmem a).1 List.mem_cons_self) List.not_mem_nil
    | cons b l₂ =>
      -- Both heads have the least key, so they head the same tie.
      have hab : key a = key b := by
        have hba : key b ≤ key a := by
          rcases List.mem_cons.1 ((hmem a).1 List.mem_cons_self) with rfl | ha
          · exact Int.le_refl _
          · exact (List.pairwise_cons.1 h₂).1 a ha
        have hab : key a ≤ key b := by
          rcases List.mem_cons.1 ((hmem b).2 List.mem_cons_self) with rfl | hb
          · exact Int.le_refl _
          · exact (List.pairwise_cons.1 h₁).1 b hb
        omega
      have hhead := h (key a)
      rw [List.filter_cons_of_pos (by simp), List.filter_cons_of_pos (by simp [hab])] at hhead
      obtain rfl : a = b := (List.cons.inj hhead).1
      have htail : ∀ k, (l₁.filter fun a => key a == k) = l₂.filter fun a => key a == k := by
        intro k
        have hk := h k
        simp only [List.filter_cons] at hk
        split at hk
        · exact (List.cons.inj hk).2
        · exact hk
      have hmem' : ∀ c, c ∈ l₁ ↔ c ∈ l₂ := by
        intro c
        have hk := congrArg (c ∈ ·) (htail (key c))
        simpa using hk
      rw [ih (List.pairwise_cons.1 h₁).2 (List.pairwise_cons.1 h₂).2 htail hmem']

end Ties

namespace Edit

/-! ## One edit -/

/-- The range of an edit lies in a text, between characters. -/
structure Fits (source : List Char) (e : Edit) : Prop where
  ordered : e.start ≤ e.stop
  start_good : Text.isBoundary source e.start = true
  stop_good : Text.isBoundary source e.stop = true

theorem check_eq_ok_iff {source : List Char} {e : Edit} :
    e.check source = .ok () ↔
      e.Fits source ∧
      e.expected.holdsOf (String.ofList ((Text.slice? source e.start e.stop).getD [])) = true := by
  rw [check]
  constructor
  · intro h
    split at h
    · simp at h
    · split at h
      · simp at h
      · split at h
        · simp at h
        · rename_i hrange hstart hstop
          simp only [Bool.or_eq_true, decide_eq_true_eq, not_or, Nat.not_lt, Bool.not_eq_true',
            Bool.not_eq_false] at hrange hstart hstop
          refine ⟨⟨hrange.1, hstart, hstop⟩, ?_⟩
          by_contra hne
          simp [hne] at h
  · rintro ⟨⟨hle, hstart, hstop⟩, hexp⟩
    have hlen := Text.le_byteLength_of_isBoundary hstop
    have hrange : ¬(decide (e.stop < e.start) || decide (Text.byteLength source < e.stop)) =
        true := by
      simp only [Bool.or_eq_true, decide_eq_true_eq, not_or, Nat.not_lt]
      exact ⟨hle, hlen⟩
    simp only [if_neg hrange, hstart, hstop, hexp, Bool.not_true,
      Bool.false_eq_true, if_false, if_true]

theorem isInsertion_iff {e : Edit} : e.isInsertion = true ↔ e.start = e.stop := beq_iff_eq

theorem not_isInsertion_iff {e : Edit} : e.isInsertion = false ↔ e.start ≠ e.stop := by
  rw [← Bool.not_eq_true, isInsertion_iff]

theorem check_of_insertion {source : List Char} {e : Edit} (hins : e.isInsertion = true)
    (hexpected : e.expected = .exact "")
    (hgood : Text.isBoundary source e.start = true) : e.check source = .ok () := by
  have hstop := isInsertion_iff.1 hins
  refine check_eq_ok_iff.2 ⟨⟨hstop.le, hgood, hstop ▸ hgood⟩, ?_⟩
  obtain ⟨a, b, rfl, ha⟩ := Text.isBoundary_iff.1 hgood
  have hslice := Text.slice?_append a [] b
  rw [hexpected, ← hstop, ← ha]
  simp only [List.nil_append, Text.byteLength_nil, Nat.add_zero] at hslice
  rw [hslice]
  decide

/-- Two edits stay clear of each other if one ends before the other starts; at the same offset an
insertion comes first. -/
theorem overlaps_eq_false_iff {e f : Edit} :
    e.overlaps f = false ↔ e.stop ≤ f.start ∨ f.stop ≤ e.start := by
  rw [overlaps]
  cases hei : e.isInsertion <;> cases hfi : f.isInsertion <;>
    simp only [isInsertion_iff, not_isInsertion_iff] at hei hfi <;>
    simp only [Bool.and_eq_false_iff, decide_eq_false_iff_not, Nat.not_lt, true_iff] <;> omega

theorem overlaps_comm (e f : Edit) : e.overlaps f = f.overlaps e := by
  rw [overlaps, overlaps]
  cases e.isInsertion <;> cases f.isInsertion <;> simp [Bool.and_comm]

instance : Std.Symm fun e f : Edit => e.overlaps f = false where
  symm e f h := by rwa [overlaps_comm]

/-- What an edit does to a text that is cut at its range. -/
theorem splice_append {e : Edit} {a m b : List Char} (hstart : Text.byteLength a = e.start)
    (hstop : e.start + Text.byteLength m = e.stop) :
    splice (a ++ (m ++ b)) e = a ++ (e.text.toList ++ b) := by
  have hm : e.stop - e.start = Text.byteLength m := by omega
  rw [splice, ← hstart, Text.splitBytes_append_byteLength]
  simp only [hstart, hm, Text.splitBytes_append_byteLength, List.append_assoc]

/-! ## Edits in line -/

/-- No edit starts before the one in front of it has ended. -/
def InLine (edits : List Edit) : Prop := edits.Pairwise fun e f => e.stop ≤ f.start

/-- What edits in line do at every offset. -/
def lineLayout (edits : List Edit) : Layout Edit :=
  { inserted := fun p => edits.filter fun e => e.isInsertion && e.start == p
    replaced := fun p => (edits.find? fun e => !e.isInsertion && e.start == p).map fun e =>
      (e.stop, e) }

theorem lineLayout_inserted_cons_ne {e : Edit} {edits : List Edit} {p : Nat} (h : e.start ≠ p) :
    (lineLayout (e :: edits)).inserted p = (lineLayout edits).inserted p := by
  simp [lineLayout, h]

theorem lineLayout_replaced_cons_ne {e : Edit} {edits : List Edit} {p : Nat} (h : e.start ≠ p) :
    (lineLayout (e :: edits)).replaced p = (lineLayout edits).replaced p := by
  simp [lineLayout, h]

theorem lineLayout_inserted_eq_nil {edits : List Edit} {p : Nat} (h : ∀ e ∈ edits, p < e.start) :
    (lineLayout edits).inserted p = [] := by
  refine List.filter_eq_nil_iff.2 ?_
  intro e he
  simp [Nat.ne_of_gt (h e he)]

theorem lineLayout_replaced_eq_none {edits : List Edit} {p : Nat} (h : ∀ e ∈ edits, p < e.start) :
    (lineLayout edits).replaced p = none := by
  refine Option.map_eq_none_iff.2 (List.find?_eq_none.2 ?_)
  intro e he
  simp [Nat.ne_of_gt (h e he)]

/-- The walk up to the end of the first edit in line. -/
theorem weave_lineLayout_cons {e : Edit} {edits : List Edit} {p : Nat} (a m b : List Char)
    (hline : InLine (e :: edits)) (hstart : p + Text.byteLength a = e.start)
    (hstop : e.start + Text.byteLength m = e.stop) :
    (lineLayout (e :: edits)).weave p p (a ++ (m ++ b)) =
      keptPieces p a ++ .added e :: (lineLayout edits).weave e.stop e.stop b := by
  have hlater : ∀ f ∈ edits, e.stop ≤ f.start := (List.pairwise_cons.1 hline).1
  have hall : ∀ q, q < e.start → ∀ f ∈ e :: edits, q < f.start := by
    intro q hq f hf
    rcases List.mem_cons.1 hf with rfl | hf
    · exact hq
    · have := hlater f hf
      omega
  rw [Layout.weave_append_kept _ a _ (Nat.le_refl p)
    (fun q _ hq => lineLayout_inserted_eq_nil (hall q (by omega)))
    (fun q _ hq => lineLayout_replaced_eq_none (hall q (by omega))), hstart]
  congr 1
  -- Behind the start of the edit only the later ones matter.
  have hrest : ∀ q skip cs, e.start < q →
      (lineLayout (e :: edits)).weave q skip cs = (lineLayout edits).weave q skip cs := by
    intro q skip cs hq
    exact Layout.weave_congr skip cs (fun r hr => lineLayout_inserted_cons_ne (by omega))
      (fun r hr => lineLayout_replaced_cons_ne (by omega))
  cases m with
  | nil =>
    have heq : e.start = e.stop := by simpa using hstop
    have hins : (lineLayout (e :: edits)).inserted e.start =
        e :: (lineLayout edits).inserted e.start := by
      simp [lineLayout, isInsertion_iff.2 heq]
    have hrep : (lineLayout (e :: edits)).replaced e.start =
        (lineLayout edits).replaced e.start := by
      simp [lineLayout, isInsertion_iff.2 heq]
    rw [List.nil_append, ← heq]
    cases b with
    | nil => simp [Layout.weave, hins, show ¬e.start < p by omega]
    | cons c b =>
      have hpos := c.utf8Size_pos
      rw [Layout.weave, Layout.weave, if_neg (by omega), if_neg (by omega), hins, hrep,
        List.map_cons, List.cons_append]
      congr 2
      cases (lineLayout edits).replaced e.start with
      | none =>
        show _ :: _ = _ :: _
        rw [hrest _ _ _ (by omega), Layout.weave_skip_eq _ e.start _ (by omega) (by omega)]
      | some r =>
        show _ :: _ = _ :: _
        rw [hrest _ _ _ (by omega)]
  | cons c m =>
    have hpos := c.utf8Size_pos
    simp only [Text.byteLength_cons] at hstop
    have hne : e.isInsertion = false := not_isInsertion_iff.2 (by omega)
    have hins : (lineLayout (e :: edits)).inserted e.start = [] := by
      refine List.filter_eq_nil_iff.2 ?_
      intro f hf
      rcases List.mem_cons.1 hf with rfl | hf
      · simp [hne]
      · have := hlater f hf
        simp [show f.start ≠ e.start by omega]
    have hrep : (lineLayout (e :: edits)).replaced e.start = some (e.stop, e) := by
      simp [lineLayout, hne]
    rw [List.cons_append, Layout.weave, if_neg (by omega), hins, hrep,
      List.map_nil, List.nil_append]
    show _ :: _ = _ :: _
    rw [hrest _ _ _ (by omega), Layout.weave_append_skipped _ m b (by omega),
      show e.start + c.utf8Size + Text.byteLength m = e.stop by omega]

/-- Edits in line behind a beginning of a text, one after the other: each comes with the text before
it, the text of its range and the text behind it. -/
theorem inLine_induction {motive : List Char → List Char → List Edit → Prop}
    (nil : ∀ pre cs, motive pre cs [])
    (cons : ∀ pre a m b e edits, InLine (e :: edits) →
      Text.byteLength pre + Text.byteLength a = e.start →
      e.start + Text.byteLength m = e.stop → Text.byteLength (pre ++ (a ++ m)) = e.stop →
      motive (pre ++ (a ++ m)) b edits → motive pre (a ++ (m ++ b)) (e :: edits))
    {pre cs : List Char} {edits : List Edit} (hline : InLine edits)
    (hfits : ∀ e ∈ edits, e.Fits (pre ++ cs))
    (hpre : ∀ e ∈ edits, Text.byteLength pre ≤ e.start) : motive pre cs edits := by
  induction edits generalizing pre cs with
  | nil => exact nil pre cs
  | cons e edits ih =>
    have hlater := (List.pairwise_cons.1 hline).1
    have he := hfits e List.mem_cons_self
    obtain ⟨a, m, b, rfl, ha, hm⟩ := Text.exists_split_between pre cs he.start_good he.stop_good
      (hpre e List.mem_cons_self) he.ordered
    have hsplit : pre ++ (a ++ (m ++ b)) = (pre ++ (a ++ m)) ++ b := by simp
    have hlen : Text.byteLength (pre ++ (a ++ m)) = e.stop := by
      simp only [Text.byteLength_append]
      omega
    refine cons pre a m b e edits hline ha hm hlen (ih (List.pairwise_cons.1 hline).2 ?_ ?_)
    · intro f hf
      exact hsplit ▸ hfits f (List.mem_cons_of_mem e hf)
    · intro f hf
      exact hlen ▸ hlater f hf

theorem weave_lineLayout_nil (p : Nat) (cs : List Char) :
    (lineLayout []).weave p p cs = keptPieces p cs := by
  have h := Layout.weave_append_kept (lineLayout []) cs [] (Nat.le_refl p)
    (fun _ _ _ => rfl) (fun _ _ _ => rfl)
  rw [List.append_nil] at h
  rw [h]
  simp [Layout.weave, lineLayout]

/-- How a text with a list of edits in it reads. -/
def renderPieces (pieces : List (Piece Edit)) : List Char :=
  Piece.render (fun e => e.text.toList) pieces

/-- Making edits in line, the last one first, changes nothing before them and gives the walk
behind. -/
theorem foldr_splice_eq_weave {edits : List Edit} (pre cs : List Char) (hline : InLine edits)
    (hfits : ∀ e ∈ edits, e.Fits (pre ++ cs)) (hpre : ∀ e ∈ edits, Text.byteLength pre ≤ e.start) :
    edits.foldr (fun e buffer => splice buffer e) (pre ++ cs) =
      pre ++ renderPieces ((lineLayout edits).weave (Text.byteLength pre)
        (Text.byteLength pre) cs) := by
  refine inLine_induction (motive := fun pre cs edits =>
    edits.foldr (fun e buffer => splice buffer e) (pre ++ cs) =
      pre ++ renderPieces ((lineLayout edits).weave (Text.byteLength pre) (Text.byteLength pre) cs))
    ?_ ?_ hline hfits hpre
  · intro pre cs
    rw [List.foldr_nil, weave_lineLayout_nil, renderPieces, render_keptPieces]
  · intro pre a m b e edits hline ha hm hlen ih
    have hsplit : pre ++ (a ++ (m ++ b)) = (pre ++ (a ++ m)) ++ b := by simp
    generalize hw : (lineLayout edits).weave e.stop e.stop b = behind at *
    rw [List.foldr_cons, hsplit, ih, hlen, hw, weave_lineLayout_cons a m b hline ha hm, hw]
    calc splice (pre ++ (a ++ m) ++ renderPieces behind) e
        = splice ((pre ++ a) ++ (m ++ renderPieces behind)) e := by simp
      _ = (pre ++ a) ++ (e.text.toList ++ renderPieces behind) :=
          splice_append (by rw [Text.byteLength_append]; exact ha) hm
      _ = pre ++ renderPieces (keptPieces (Text.byteLength pre) a ++ .added e :: behind) := by
          simp only [renderPieces, Piece.render_append, Piece.render_added_cons, render_keptPieces,
            List.append_assoc]

/-- The walk puts in every edit once, in line. -/
theorem added_weave_lineLayout {edits : List Edit} (pre cs : List Char) (hline : InLine edits)
    (hfits : ∀ e ∈ edits, e.Fits (pre ++ cs)) (hpre : ∀ e ∈ edits, Text.byteLength pre ≤ e.start) :
    ((lineLayout edits).weave (Text.byteLength pre) (Text.byteLength pre) cs).filterMap
      Piece.added? = edits := by
  refine inLine_induction (motive := fun pre cs edits =>
    ((lineLayout edits).weave (Text.byteLength pre) (Text.byteLength pre) cs).filterMap
      Piece.added? = edits)
    ?_ ?_ hline hfits hpre
  · intro pre cs
    rw [weave_lineLayout_nil, filterMap_added?_keptPieces]
  · intro pre a m b e edits hline ha hm hlen ih
    rw [hlen] at ih
    rw [weave_lineLayout_cons a m b hline ha hm, List.filterMap_append, filterMap_added?_keptPieces,
      List.nil_append]
    exact congrArg (e :: ·) ih

/-- Whether an offset lies outside the ranges of all edits. -/
def outside (edits : List Edit) (p : Nat) : Bool := edits.all fun e => p < e.start || e.stop ≤ p

/-- The walk keeps every character outside the ranges of the edits. -/
theorem kept_weave_lineLayout {edits : List Edit} (pre cs : List Char) (hline : InLine edits)
    (hfits : ∀ e ∈ edits, e.Fits (pre ++ cs)) (hpre : ∀ e ∈ edits, Text.byteLength pre ≤ e.start) :
    ((lineLayout edits).weave (Text.byteLength pre) (Text.byteLength pre) cs).filterMap
      Piece.kept? = (Text.located (Text.byteLength pre) cs).filter fun x => outside edits x.1 := by
  refine inLine_induction (motive := fun pre cs edits =>
    ((lineLayout edits).weave (Text.byteLength pre) (Text.byteLength pre) cs).filterMap
      Piece.kept? =
      (Text.located (Text.byteLength pre) cs).filter fun x => outside edits x.1)
        ?_ ?_ hline hfits hpre
  · intro pre cs
    rw [weave_lineLayout_nil, filterMap_kept?_keptPieces]
    exact (List.filter_eq_self.2 fun x _ => rfl).symm
  · intro pre a m b e edits hline ha hm hlen ih
    have hlater := (List.pairwise_cons.1 hline).1
    have hfront :
        ((Text.located (Text.byteLength pre) a).filter fun x => outside (e :: edits) x.1) =
        Text.located (Text.byteLength pre) a := by
      refine List.filter_eq_self.2 ?_
      intro x hx
      have hx := Text.bounds_of_mem_located hx
      refine List.all_eq_true.2 ?_
      intro f hf
      have hf : e.start ≤ f.start := by
        rcases List.mem_cons.1 hf with rfl | hf
        · exact Nat.le_refl _
        · have := hlater f hf
          omega
      simp only [Bool.or_eq_true, decide_eq_true_eq]
      omega
    have hmiddle : ((Text.located e.start m).filter fun x => outside (e :: edits) x.1) = [] := by
      refine List.filter_eq_nil_iff.2 ?_
      intro x hx
      have hx := Text.bounds_of_mem_located hx
      simp only [outside, List.all_cons, Bool.and_eq_true, Bool.or_eq_true, decide_eq_true_eq]
      omega
    have hbehind : ((Text.located e.stop b).filter fun x => outside (e :: edits) x.1) =
        (Text.located e.stop b).filter fun x => outside edits x.1 := by
      refine List.filter_congr ?_
      intro x hx
      have hx := Text.bounds_of_mem_located hx
      simp [outside, hx.1]
    rw [hlen] at ih
    rw [weave_lineLayout_cons a m b hline ha hm, List.filterMap_append, filterMap_kept?_keptPieces,
      List.filterMap_cons_none rfl, ih, Text.located_append, Text.located_append, ha, hm,
      List.filter_append, List.filter_append, hfront, hmiddle, hbehind, List.nil_append]

/-! ## Sorting edits -/

theorem spliceOrder_isLE_iff {e f : Edit} :
    (spliceOrder e f).isLE = true ↔ f.start < e.start ∨ f.start = e.start ∧
      (e.isInsertion = false ∧ f.isInsertion = true ∨ e.isInsertion = f.isInsertion ∧
        f.order ≤ e.order) := by
  have hbool : ∀ a b : Bool, (compare a b = .lt ↔ a = false ∧ b = true) ∧
      (compare a b = .eq ↔ a = b) := by
    decide
  simp only [spliceOrder, Ordering.isLE_then_iff_or, Nat.compare_eq_lt, Nat.compare_eq_eq,
    (hbool e.isInsertion f.isInsertion).1, (hbool e.isInsertion f.isInsertion).2, Std.isLE_compare]

theorem spliceOrder_trans (e f g : Edit) (h₁ : (spliceOrder e f).isLE = true)
    (h₂ : (spliceOrder f g).isLE = true) : (spliceOrder e g).isLE = true := by
  rw [spliceOrder_isLE_iff] at *
  grind

theorem spliceOrder_total (e f : Edit) :
    ((spliceOrder e f).isLE || (spliceOrder f e).isLE) = true := by
  rw [Bool.or_eq_true, spliceOrder_isLE_iff, spliceOrder_isLE_iff]
  grind

theorem sorted_perm (edits : List Edit) : (sorted edits).Perm edits := List.mergeSort_perm _ _

theorem sorted_pairwise (edits : List Edit) :
    (sorted edits).Pairwise fun e f => (spliceOrder e f).isLE = true :=
  List.pairwise_mergeSort spliceOrder_trans spliceOrder_total edits

/-- A strictly sorted arrangement of edits is the sorted one. -/
theorem sorted_eq_of_perm {edits l : List Edit} (hperm : l.Perm edits)
    (h : l.Pairwise fun e f => (spliceOrder e f).isLE = true ∧ (spliceOrder f e).isLE = false) :
    sorted edits = l := by
  have : Std.Symm fun e f : Edit =>
      ¬((spliceOrder e f).isLE = true ∧ (spliceOrder f e).isLE = true) :=
    ⟨fun e f h hle => h hle.symm⟩
  have hstrict : l.Pairwise fun e f =>
      ¬((spliceOrder e f).isLE = true ∧ (spliceOrder f e).isLE = true) :=
    h.imp fun h hle => by simp [h.2] at hle
  refine ((sorted_perm edits).trans hperm.symm).eq_of_pairwise ?_
    (sorted_pairwise edits) (h.imp And.left)
  intro e f he hf hle hle'
  by_contra hne
  exact hstrict.forall (hperm.mem_iff.2 ((sorted_perm edits).mem_iff.1 he)) hf hne ⟨hle, hle'⟩

/-- Of two sorted edits that do not overlap, the second ends before the first starts. -/
theorem stop_le_start_of_spliceOrder {e f : Edit} (he : e.start ≤ e.stop)
    (hle : (spliceOrder e f).isLE = true) (hclear : e.overlaps f = false) : f.stop ≤ e.start := by
  rcases overlaps_eq_false_iff.1 hclear with h | h
  · -- Then both are at one offset, and the first is an insertion; so is the second.
    rcases spliceOrder_isLE_iff.1 hle with hlt | ⟨heq, ⟨hins, -⟩ | ⟨hins, -⟩⟩
    · omega
    · have := not_isInsertion_iff.1 hins
      omega
    · have hfi : f.isInsertion = true := by
        rw [← hins, isInsertion_iff]
        omega
      have := isInsertion_iff.1 hfi
      omega
  · exact h

/-! ## Neighbours -/

/-- Sorted edits of which no two neighbours overlap come one after the other, from the end of the
text. -/
theorem pairwise_of_firstOverlap_eq_none {edits : List Edit} (hord : ∀ e ∈ edits, e.start ≤ e.stop)
    (hsorted : edits.Pairwise fun e f => (spliceOrder e f).isLE = true)
    (h : firstOverlap edits = none) : edits.Pairwise fun e f => f.stop ≤ e.start := by
  induction edits with
  | nil => exact List.Pairwise.nil
  | cons later edits ih =>
    cases edits with
    | nil => exact List.pairwise_singleton _ _
    | cons earlier rest =>
      rw [firstOverlap] at h
      split at h
      · simp at h
      · rename_i hclear
        have hnext :=
          ih (fun e he => hord e (List.mem_cons_of_mem _ he)) (List.pairwise_cons.1 hsorted).2 h
        have hfirst : earlier.stop ≤ later.start :=
          stop_le_start_of_spliceOrder (hord later List.mem_cons_self)
            ((List.pairwise_cons.1 hsorted).1 earlier List.mem_cons_self)
            (by rw [overlaps_comm]; simpa using hclear)
        refine List.pairwise_cons.2 ⟨?_, hnext⟩
        intro f hf
        rcases List.mem_cons.1 hf with rfl | hf
        · exact hfirst
        · have h₁ := (List.pairwise_cons.1 hnext).1 f hf
          have h₂ := hord earlier (List.mem_cons_of_mem _ List.mem_cons_self)
          omega

theorem firstOverlap_eq_none_of_pairwise {edits : List Edit}
    (h : edits.Pairwise fun e f => e.overlaps f = false) : firstOverlap edits = none := by
  induction edits with
  | nil => rfl
  | cons later edits ih =>
    cases edits with
    | nil => rfl
    | cons earlier rest =>
      have hclear := (List.pairwise_cons.1 h).1 earlier List.mem_cons_self
      rw [firstOverlap, if_neg (by rw [overlaps_comm, hclear]; simp), ih (List.pairwise_cons.1 h).2]

theorem sorted_pairwise_overlaps_iff (edits : List Edit) :
    ((sorted edits).Pairwise fun e f => e.overlaps f = false) ↔
      edits.Pairwise fun e f => e.overlaps f = false :=
  (sorted_perm edits).pairwise_iff fun {e f} h => by rwa [overlaps_comm]

/-- It is enough to compare neighbours. -/
theorem firstOverlap_sorted_eq_none_iff {edits : List Edit} (hord : ∀ e ∈ edits, e.start ≤ e.stop) :
    firstOverlap (sorted edits) = none ↔ edits.Pairwise fun e f => e.overlaps f = false := by
  rw [← sorted_pairwise_overlaps_iff]
  constructor
  · intro h
    have hord' : ∀ e ∈ sorted edits, e.start ≤ e.stop :=
      fun e he => hord e ((sorted_perm edits).mem_iff.1 he)
    refine (pairwise_of_firstOverlap_eq_none hord' (sorted_pairwise edits) h).imp ?_
    intro e f hef
    exact overlaps_eq_false_iff.2 (Or.inr hef)
  · exact firstOverlap_eq_none_of_pairwise

theorem inLine_reverse_sorted {edits : List Edit} (hord : ∀ e ∈ edits, e.start ≤ e.stop)
    (hclear : edits.Pairwise fun e f => e.overlaps f = false) : InLine (sorted edits).reverse := by
  rw [InLine, List.pairwise_reverse]
  refine List.Pairwise.imp_of_mem ?_
    ((sorted_pairwise edits).and ((sorted_pairwise_overlaps_iff edits).2 hclear))
  intro e f he _ h
  exact stop_le_start_of_spliceOrder (hord e ((sorted_perm edits).mem_iff.1 he)) h.1 h.2

/-! ## What a list of edits does at every offset -/

/-- The insertions at an offset as they read: by their order, and of the same order the last one
first. -/
def insertionsAt (edits : List Edit) (p : Nat) : List Edit :=
  (edits.filter fun e => e.isInsertion && e.start == p).reverse.mergeSort fun e f =>
    e.order ≤ f.order

/-- The replacement that starts at an offset. -/
def replacementAt (edits : List Edit) (p : Nat) : Option Edit :=
  edits.find? fun e => !e.isInsertion && e.start == p

/-- What a list of edits does to a text. -/
def layout (edits : List Edit) : Layout Edit :=
  { inserted := insertionsAt edits
    replaced := fun p => (replacementAt edits p).map fun e => (e.stop, e) }

theorem order_trans (e f g : Edit) (h₁ : decide (e.order ≤ f.order) = true)
    (h₂ : decide (f.order ≤ g.order) = true) : decide (e.order ≤ g.order) = true := by
  simp only [decide_eq_true_eq] at *
  omega

theorem order_total (e f : Edit) :
    (decide (e.order ≤ f.order) || decide (f.order ≤ e.order)) = true := by
  simp only [Bool.or_eq_true, decide_eq_true_eq]
  omega

theorem insertionsAt_pairwise (edits : List Edit) (p : Nat) :
    (insertionsAt edits p).Pairwise fun e f => e.order ≤ f.order :=
  (List.pairwise_mergeSort order_trans order_total _).imp fun h => of_decide_eq_true h

/-- Insertions of one order, the last one first. -/
theorem filter_order_insertionsAt (edits : List Edit) (p : Nat) (k : Int) :
    ((insertionsAt edits p).filter fun e => e.order == k) =
      (edits.filter fun e => e.order == k && (e.isInsertion && e.start == p)).reverse := by
  have hties : ∀ e f : Edit, (e.order == k) = true → (f.order == k) = true →
      decide (e.order ≤ f.order) = true := by
    intro e f he hf
    simp only [beq_iff_eq] at he hf
    simp [he, hf]
  rw [insertionsAt, filter_mergeSort_of_ties order_trans order_total _ _ hties, List.filter_reverse,
    List.filter_filter]

theorem filter_sorted_eq_insertionsAt (edits : List Edit) (p : Nat) :
    ((sorted edits).reverse.filter fun e => e.isInsertion && e.start == p) =
      insertionsAt edits p := by
  refine eq_of_sorted_of_ties Edit.order ?_ (insertionsAt_pairwise edits p) ?_
  · rw [List.filter_reverse, List.pairwise_reverse]
    refine ((sorted_pairwise edits).filter _).imp_of_mem ?_
    intro e f he hf hle
    have he := (List.mem_filter.1 he).2
    have hf := (List.mem_filter.1 hf).2
    simp only [Bool.and_eq_true, beq_iff_eq] at he hf
    rcases spliceOrder_isLE_iff.1 hle with h | ⟨-, ⟨h, -⟩ | ⟨-, h⟩⟩
    · omega
    · exact absurd he.1 (by simp [h])
    · exact h
  · intro k
    rw [filter_order_insertionsAt, List.filter_reverse, List.filter_reverse, List.filter_filter,
      sorted, filter_mergeSort_of_ties spliceOrder_trans spliceOrder_total]
    -- Insertions of one order at one offset are all tied.
    intro e f he hf
    simp only [Bool.and_eq_true, beq_iff_eq] at he hf
    refine spliceOrder_isLE_iff.2 (Or.inr ⟨by omega, Or.inr ⟨by rw [he.2.1, hf.2.1], by omega⟩⟩)

/-- There is only one replacement at an offset if no edits overlap, so it does not matter where one
looks. -/
theorem find?_sorted_eq_replacementAt {edits : List Edit} (hord : ∀ e ∈ edits, e.start ≤ e.stop)
    (hclear : edits.Pairwise fun e f => e.overlaps f = false) (p : Nat) :
    ((sorted edits).reverse.find? fun e => !e.isInsertion && e.start == p) =
      replacementAt edits p := by
  have hmem : ∀ e, e ∈ (sorted edits).reverse ↔ e ∈ edits := fun e => by
    rw [List.mem_reverse, (sorted_perm edits).mem_iff]
  cases hf : replacementAt edits p with
  | none =>
    refine List.find?_eq_none.2 ?_
    intro e he
    exact List.find?_eq_none.1 hf e ((hmem e).1 he)
  | some e =>
    have hein := List.mem_of_find?_eq_some hf
    have hep := List.find?_some hf
    cases hg : (sorted edits).reverse.find? fun e => !e.isInsertion && e.start == p with
    | none => exact absurd hep (List.find?_eq_none.1 hg e ((hmem e).2 hein))
    | some f =>
      have hfin := (hmem f).1 (List.mem_of_find?_eq_some hg)
      have hfp := List.find?_some hg
      simp only [Bool.and_eq_true, Bool.not_eq_true', beq_iff_eq, not_isInsertion_iff] at hep hfp
      by_contra hne
      have hfe := hclear.forall hfin hein (fun h => hne (h ▸ rfl))
      rcases overlaps_eq_false_iff.1 hfe with h | h
      · have := hord f hfin
        omega
      · have := hord e hein
        omega

theorem layout_eq_lineLayout {edits : List Edit} (hord : ∀ e ∈ edits, e.start ≤ e.stop)
    (hclear : edits.Pairwise fun e f => e.overlaps f = false) :
    layout edits = lineLayout (sorted edits).reverse := by
  simp only [layout, lineLayout, filter_sorted_eq_insertionsAt,
    find?_sorted_eq_replacementAt hord hclear]

/-- Insertions of falling order read backwards. -/
theorem insertionsAt_of_falling {edits : List Edit}
    (h : edits.Pairwise fun e f => f.order ≤ e.order) (p : Nat) :
    insertionsAt edits p = (edits.filter fun e => e.isInsertion && e.start == p).reverse := by
  refine List.mergeSort_of_pairwise ?_
  rw [List.pairwise_reverse]
  exact (h.filter _).imp fun h => decide_eq_true h

/-! ## The whole batch -/

/-- The pieces that a list of edits makes of a text. -/
def assembly (edits : List Edit) (source : List Char) : List (Piece Edit) :=
  (layout edits).pieces source

theorem forM_check_eq_ok_iff {source : List Char} {edits : List Edit} :
    edits.forM (check source) = .ok () ↔ ∀ e ∈ edits, e.check source = .ok () := by
  induction edits with
  | nil => simp [pure, Except.pure]
  | cons e edits ih =>
    rw [List.forall_mem_cons, ← ih]
    show (e.check source >>= fun _ => edits.forM (check source)) = .ok () ↔ _
    cases he : e.check source with
    | error error => simp [bind, Except.bind]
    | ok u => simp [bind, Except.bind]

theorem outside_reverse_sorted (edits : List Edit) (p : Nat) :
    outside (sorted edits).reverse p = outside edits p := by
  rw [outside, outside, List.all_reverse]
  exact (sorted_perm edits).all_eq

section Clear

variable {source : List Char} {edits : List Edit} (hfits : ∀ e ∈ edits, e.Fits source)
  (hclear : edits.Pairwise fun e f => e.overlaps f = false)

include hfits hclear

theorem foldl_splice_sorted :
    (sorted edits).foldl splice source = renderPieces (assembly edits source) := by
  have hord : ∀ e ∈ edits, e.start ≤ e.stop := fun e he => (hfits e he).ordered
  have h := foldr_splice_eq_weave [] source (inLine_reverse_sorted hord hclear)
    (fun e he => hfits e ((sorted_perm edits).mem_iff.1 (List.mem_reverse.1 he)))
    (fun _ _ => Nat.zero_le _)
  rw [List.foldr_reverse] at h
  rw [assembly, layout_eq_lineLayout hord hclear]
  exact h

/-- Every edit is put in once. -/
theorem added_assembly : ((assembly edits source).filterMap Piece.added?).Perm edits := by
  have hord : ∀ e ∈ edits, e.start ≤ e.stop := fun e he => (hfits e he).ordered
  have h := added_weave_lineLayout [] source (inLine_reverse_sorted hord hclear)
    (fun e he => hfits e ((sorted_perm edits).mem_iff.1 (List.mem_reverse.1 he)))
    (fun _ _ => Nat.zero_le _)
  rw [assembly, layout_eq_lineLayout hord hclear]
  exact (List.Perm.of_eq h).trans ((List.reverse_perm _).trans (sorted_perm edits))

/-- Every character outside the ranges of the edits is kept, and nothing else. -/
theorem kept_assembly : (assembly edits source).filterMap Piece.kept? =
    (Text.located 0 source).filter fun x => outside edits x.1 := by
  have hord : ∀ e ∈ edits, e.start ≤ e.stop := fun e he => (hfits e he).ordered
  have h := kept_weave_lineLayout [] source (inLine_reverse_sorted hord hclear)
    (fun e he => hfits e ((sorted_perm edits).mem_iff.1 (List.mem_reverse.1 he)))
    (fun _ _ => Nat.zero_le _)
  rw [assembly, layout_eq_lineLayout hord hclear]
  refine Eq.trans h ?_
  simp only [outside_reverse_sorted]
  rfl

/-- Whatever has been made of a batch, the range of the next edit lies in the text, between
characters. -/
theorem fits_foldl_splice {done rest : List Edit} {e : Edit}
    (h : sorted edits = done ++ e :: rest) : e.Fits (done.foldl splice source) := by
  have hmem : ∀ f ∈ e :: done.reverse, f ∈ edits := by
    intro f hf
    refine (sorted_perm edits).mem_iff.1 ?_
    simp only [List.mem_cons, List.mem_reverse] at hf
    rw [h, List.mem_append, List.mem_cons]
    tauto
  have hline : InLine (e :: done.reverse) := by
    have hall := inLine_reverse_sorted (fun f hf => (hfits f hf).ordered) hclear
    rw [h, List.reverse_append, List.reverse_cons, List.append_assoc] at hall
    exact (List.pairwise_append.1 hall).2.1
  have hlater := (List.pairwise_cons.1 hline).1
  have he := hfits e (hmem e List.mem_cons_self)
  obtain ⟨a, m, b, hsource, ha, hm⟩ :=
    Text.exists_split_between [] source he.start_good he.stop_good (Nat.zero_le _) he.ordered
  have hsplit : source = (a ++ m) ++ b := by rw [hsource, List.append_assoc]
  have hlen : Text.byteLength (a ++ m) = e.stop := by
    simp only [Text.byteLength_append, Text.byteLength_nil] at *
    omega
  -- The edits made so far lie behind this one, so the text up to its end is still there.
  have hbuffer := foldr_splice_eq_weave (a ++ m) b (List.pairwise_cons.1 hline).2
    (fun f hf => hsplit ▸ hfits f (hmem f (List.mem_cons_of_mem e hf)))
    (fun f hf => hlen ▸ hlater f hf)
  rw [List.foldr_reverse, ← hsplit] at hbuffer
  have hstart : Text.byteLength a = e.start := by simpa using ha
  refine ⟨he.ordered, ?_, ?_⟩
  · rw [hbuffer, List.append_assoc, ← hstart]
    exact Text.isBoundary_append_byteLength a _
  · rw [hbuffer, ← hlen]
    exact Text.isBoundary_append_byteLength (a ++ m) _

end Clear

/-- **A batch succeeds exactly if every edit is valid and no two overlap**, and then reads as its
assembly. -/
theorem applyBatch_eq_ok_iff {source code : String} {edits : List Edit} :
    applyBatch source edits = .ok code ↔ (∀ e ∈ edits, e.check source.toList = .ok ()) ∧
      (edits.Pairwise fun e f => e.overlaps f = false) ∧
      code = String.ofList (renderPieces (assembly edits source.toList)) := by
  by_cases hvalid : ∀ e ∈ edits, e.check source.toList = .ok ()
  · have hfits : ∀ e ∈ edits, e.Fits source.toList :=
      fun e he => (check_eq_ok_iff.1 (hvalid e he)).1
    have hover := firstOverlap_sorted_eq_none_iff fun e he => (hfits e he).ordered
    rw [applyBatch, forM_check_eq_ok_iff.2 hvalid]
    cases h : firstOverlap (sorted edits) with
    | none =>
      have hclear := hover.1 h
      show Except.ok (String.ofList ((sorted edits).foldl splice source.toList)) = .ok code ↔ _
      rw [foldl_splice_sorted hfits hclear, Except.ok.injEq]
      exact ⟨fun heq => ⟨hvalid, hclear, heq.symm⟩, fun heq => heq.2.2.symm⟩
    | some error =>
      show Except.error error = .ok code ↔ _
      refine ⟨fun heq => (by cases heq), fun heq => ?_⟩
      exact absurd (hover.2 heq.2.1) (by simp [h])
  · refine ⟨fun heq => absurd ?_ hvalid, fun heq => absurd heq.1 hvalid⟩
    rw [← forM_check_eq_ok_iff]
    cases hforM : edits.forM (check source.toList) with
    | ok u => rfl
    | error error => simp [applyBatch, hforM, bind, Except.bind] at heq

/-- A batch whose order is known. -/
theorem applyBatch_eq_foldl {source : String} {edits l : List Edit}
    (hvalid : ∀ e ∈ edits, e.check source.toList = .ok ())
    (hclear : edits.Pairwise fun e f => e.overlaps f = false) (hperm : l.Perm edits)
    (hsorted : l.Pairwise fun e f => (spliceOrder e f).isLE = true ∧
      (spliceOrder f e).isLE = false) :
    applyBatch source edits = .ok (String.ofList (l.foldl splice source.toList)) := by
  have hfits : ∀ e ∈ edits, e.Fits source.toList := fun e he => (check_eq_ok_iff.1 (hvalid e he)).1
  refine applyBatch_eq_ok_iff.2 ⟨hvalid, hclear, ?_⟩
  rw [← foldl_splice_sorted hfits hclear, sorted_eq_of_perm hperm hsorted]

/-- **A batch of valid edits that do not overlap reads as if made from left to right.** On the way
every range lies in the text and between characters; all characters outside the ranges are kept, in
order, and every edit is put in once. -/
theorem applyBatch_assembles (source : String) (edits : List Edit)
    (hvalid : ∀ e ∈ edits, e.check source.toList = .ok ())
    (hclear : edits.Pairwise fun e f => e.overlaps f = false) :
    applyBatch source edits = .ok (String.ofList (renderPieces (assembly edits source.toList))) ∧
      (∀ done e rest, sorted edits = done ++ e :: rest → e.Fits (done.foldl splice source.toList)) ∧
      (assembly edits source.toList).filterMap Piece.kept? =
        ((Text.located 0 source.toList).filter fun x => outside edits x.1) ∧
      ((assembly edits source.toList).filterMap Piece.added?).Perm edits := by
  have hfits : ∀ e ∈ edits, e.Fits source.toList := fun e he => (check_eq_ok_iff.1 (hvalid e he)).1
  refine ⟨applyBatch_eq_ok_iff.2 ⟨hvalid, hclear, rfl⟩, ?_, ?_, ?_⟩
  · intro done e rest h
    exact fits_foldl_splice hfits hclear h
  · exact kept_assembly hfits hclear
  · exact added_assembly hfits hclear

/-- Edits that touch: a replacement with insertions at both of its ends, two of them with the same
order. -/
def touching : List Edit :=
  [insertion 3 "x", replacement 1 3 "z" "é", insertion 3 "y", insertion 1 "<"]

theorem applyBatch_assembles_touching :
    (∀ e ∈ touching, e.check "aéb".toList = .ok ()) ∧
      (touching.Pairwise fun e f => e.overlaps f = false) ∧
      applyBatch "aéb" touching = .ok "a<zyxb" := by
  refine ⟨by decide, by decide, ?_⟩
  have hins : insertionsAt touching = fun p =>
      (touching.filter fun e => e.isInsertion && e.start == p).reverse :=
    funext (insertionsAt_of_falling (by decide))
  rw [(applyBatch_assembles "aéb" touching (by decide) (by decide)).1, assembly, layout, hins]
  decide +kernel

end Edit

end Graft
