import Graft.Proofs.Batch
import Graft.Text.Lines

set_option autoImplicit false

/-!
# Part of a text

Edits in line that end before an offset and edits in line that start behind it do not see each
other: the walk over the text falls apart there. So what stands between two edits of a batch is the
source between them, changed by the edits in between alone.
-/

namespace Graft

/-- An offset that is good in a text is good in a beginning that it lies in. -/
theorem Text.isBoundary_of_append {a b : List Char} {n : Nat} (h : isBoundary (a ++ b) n = true)
    (hle : n ≤ byteLength a) : isBoundary a n = true := by
  obtain ⟨before, after, hab, rfl⟩ := isBoundary_iff.1 h
  rcases List.append_eq_append_iff.1 hab with ⟨m, rfl, rfl⟩ | ⟨m, rfl, rfl⟩
  · have hm : byteLength (a ++ m) = byteLength a := by
      rw [byteLength_append] at hle ⊢
      omega
    rw [hm]
    exact isBoundary_byteLength a
  · exact isBoundary_append_byteLength before m

namespace Edit

theorem Fits.of_append {a b : List Char} {e : Edit} (h : e.Fits (a ++ b))
    (hstop : e.stop ≤ Text.byteLength a) : e.Fits a where
  ordered := h.ordered
  start_good := Text.isBoundary_of_append h.start_good (h.ordered.trans hstop)
  stop_good := Text.isBoundary_of_append h.stop_good hstop

/-- **A walk falls apart** where the first edits have ended and the others have not started. -/
theorem weave_lineLayout_append (edits later : List Edit) (pre cs behind : List Char)
    (hline : InLine (edits ++ later)) (hfits : ∀ e ∈ edits, e.Fits (pre ++ cs))
    (hpre : ∀ e ∈ edits, Text.byteLength pre ≤ e.start)
    (hlater : ∀ e ∈ later, Text.byteLength (pre ++ cs) ≤ e.start) :
    (lineLayout (edits ++ later)).weave (Text.byteLength pre) (Text.byteLength pre) (cs ++ behind) =
      (lineLayout edits).weave (Text.byteLength pre) (Text.byteLength pre) cs ++
        (lineLayout later).weave (Text.byteLength (pre ++ cs))
          (Text.byteLength (pre ++ cs)) behind := by
  have hfirst : InLine edits := (List.pairwise_append.1 hline).1
  revert hline hlater
  refine inLine_induction (motive := fun pre cs edits =>
    InLine (edits ++ later) → (∀ e ∈ later, Text.byteLength (pre ++ cs) ≤ e.start) →
    (lineLayout (edits ++ later)).weave (Text.byteLength pre) (Text.byteLength pre) (cs ++ behind) =
      (lineLayout edits).weave (Text.byteLength pre) (Text.byteLength pre) cs ++
        (lineLayout later).weave (Text.byteLength (pre ++ cs)) (Text.byteLength (pre ++ cs)) behind)
    ?_ ?_ hfirst hfits hpre
  · intro pre cs _ hlater
    simp only [Text.byteLength_append] at hlater ⊢
    rw [List.nil_append, weave_lineLayout_nil, Layout.weave_append_kept _ cs behind (Nat.le_refl _)
      (fun q _ hq => lineLayout_inserted_eq_nil fun e he => Nat.lt_of_lt_of_le hq (hlater e he))
      (fun q _ hq => lineLayout_replaced_eq_none fun e he => Nat.lt_of_lt_of_le hq (hlater e he)),
      Layout.weave_skip_eq _ (Text.byteLength pre + Text.byteLength cs) behind
        (by omega) (Nat.le_refl _)]
  · intro pre a m b e edits hline ha hm hlen ih hline' hlater
    have hsplit : pre ++ (a ++ (m ++ b)) = (pre ++ (a ++ m)) ++ b := by simp
    rw [List.cons_append] at hline'
    have hrest := ih (List.pairwise_cons.1 hline').2 (fun f hf => hsplit ▸ hlater f hf)
    rw [hlen] at hrest
    rw [List.append_assoc a, List.append_assoc m, List.cons_append,
      weave_lineLayout_cons a m _ hline' ha hm,
      weave_lineLayout_cons a m b hline ha hm, hrest, hsplit]
    simp only [List.append_assoc, List.cons_append]

/-- The walk over a text all of whose edits lie in the middle of it. -/
theorem pieces_lineLayout_middle {edits : List Edit} (before text after : List Char)
    (hline : InLine edits) (hfits : ∀ e ∈ edits, e.Fits (before ++ text))
    (hstart : ∀ e ∈ edits, Text.byteLength before ≤ e.start) :
    (lineLayout edits).pieces (before ++ (text ++ after)) = keptPieces 0 before ++
      ((lineLayout edits).weave (Text.byteLength before) (Text.byteLength before) text ++
        keptPieces (Text.byteLength (before ++ text)) after) := by
  have hfront := weave_lineLayout_append [] edits [] before (text ++ after) hline
    (fun _ h => absurd h List.not_mem_nil) (fun _ h => absurd h List.not_mem_nil) hstart
  have hback := weave_lineLayout_append edits [] before text after (by rwa [List.append_nil]) hfits
    hstart (fun _ h => absurd h List.not_mem_nil)
  rw [List.append_nil, weave_lineLayout_nil] at hback
  rw [Layout.pieces, ← hback]
  refine hfront.trans ?_
  rw [Text.byteLength_nil, weave_lineLayout_nil, List.nil_append]

/-- What a batch puts in stands in its order. -/
theorem added_assembly_eq {source : List Char} {edits : List Edit}
    (hfits : ∀ e ∈ edits, e.Fits source) (hclear : edits.Pairwise fun e f => e.overlaps f = false) :
    (assembly edits source).filterMap Piece.added? = (sorted edits).reverse := by
  have hord : ∀ e ∈ edits, e.start ≤ e.stop := fun e he => (hfits e he).ordered
  rw [assembly, layout_eq_lineLayout hord hclear]
  exact added_weave_lineLayout [] source (inLine_reverse_sorted hord hclear)
    (fun e he => hfits e ((sorted_perm edits).mem_iff.1 (List.mem_reverse.1 he)))
    (fun _ _ => Nat.zero_le _)

/-- Edits that are listed from the last to the first are sorted. -/
theorem sorted_reverse_of_pairwise {edits : List Edit}
    (h : edits.Pairwise fun e f => (spliceOrder f e).isLE = true) :
    sorted edits.reverse = edits.reverse :=
  List.mergeSort_of_pairwise (List.pairwise_reverse.2 h)

/-- Edits in line that lie in the middle of a text change nothing else. -/
theorem applyBatch_middle {source : String} {edits : List Edit} {before text after : List Char}
    (hsource : source.toList = before ++ (text ++ after)) (hline : InLine edits)
    (horder : edits.Pairwise fun e f => (spliceOrder f e).isLE = true)
    (hvalid : ∀ e ∈ edits, e.check source.toList = .ok ())
    (hstart : ∀ e ∈ edits, Text.byteLength before ≤ e.start)
    (hstop : ∀ e ∈ edits, e.stop ≤ Text.byteLength (before ++ text)) :
    applyBatch source edits.reverse = .ok (String.ofList (before ++ (renderPieces
      ((lineLayout edits).weave (Text.byteLength before) (Text.byteLength before) text) ++
        after))) := by
  have hfits : ∀ e ∈ edits, e.Fits source.toList := fun e he => (check_eq_ok_iff.1 (hvalid e he)).1
  have hclear : edits.reverse.Pairwise fun e f => e.overlaps f = false :=
    List.pairwise_reverse.2 (hline.imp fun h => overlaps_eq_false_iff.2 (.inr h))
  refine applyBatch_eq_ok_iff.2 ⟨fun e he => hvalid e (List.mem_reverse.1 he), hclear, ?_⟩
  rw [assembly, layout_eq_lineLayout (fun e he => (hfits e (List.mem_reverse.1 he)).ordered) hclear,
    sorted_reverse_of_pairwise horder, List.reverse_reverse, hsource,
    pieces_lineLayout_middle before text after hline ?_ hstart]
  · simp only [renderPieces, Piece.render_append, render_keptPieces]
  · intro e he
    have hfit := hfits e he
    rw [hsource, ← List.append_assoc] at hfit
    exact hfit.of_append (hstop e he)

/-- The walk from an insertion on. -/
theorem weave_lineLayout_insertion {e : Edit} {edits : List Edit} (cs : List Char)
    (hline : InLine (e :: edits)) (he : e.isInsertion = true) :
    (lineLayout (e :: edits)).weave e.start e.start cs =
      .added e :: (lineLayout edits).weave e.start e.start cs := by
  have hpoint := isInsertion_iff.1 he
  have h := weave_lineLayout_cons [] [] cs hline rfl hpoint
  rwa [← hpoint] at h

section Enclosed

variable {front inside back : List Edit} {e f : Edit}
  (hline : InLine (front ++ e :: (inside ++ f :: back)))
  (he : e.isInsertion = true) (hf : f.isInsertion = true)

include hline he

theorem between_of_inLine : ∀ g ∈ inside, e.start ≤ g.start ∧ g.stop ≤ f.start := by
  obtain ⟨hbehind, hrest⟩ := List.pairwise_cons.1 (List.pairwise_append.1 hline).2.1
  intro g hg
  have hpoint := isInsertion_iff.1 he
  exact ⟨hpoint ▸ hbehind g (List.mem_append_left _ hg),
    (List.pairwise_append.1 hrest).2.2 g hg f List.mem_cons_self⟩

include hf

/-- The walk over a text with two insertions: before the first, between them and behind the
second. -/
theorem weave_lineLayout_enclosed {before text after : List Char}
    (hfits : ∀ g ∈ front ++ e :: (inside ++ f :: back), g.Fits (before ++ (text ++ after)))
    (hbefore : Text.byteLength before = e.start)
    (hmiddle : Text.byteLength (before ++ text) = f.start) :
    (lineLayout (front ++ e :: (inside ++ f :: back))).weave 0 0 (before ++ (text ++ after)) =
      (lineLayout front).weave 0 0 before ++ .added e ::
        ((lineLayout inside).weave e.start e.start text ++ .added f ::
          (lineLayout back).weave f.start f.start after) := by
  obtain ⟨-, hline₂, hfront⟩ := List.pairwise_append.1 hline
  obtain ⟨hbehind, hline₃⟩ := List.pairwise_cons.1 hline₂
  obtain ⟨-, hline₄, -⟩ := List.pairwise_append.1 hline₃
  have hback := (List.pairwise_cons.1 hline₄).1
  have hbetween := between_of_inLine hline he
  have hpoint := isInsertion_iff.1 he
  have hpoint' := isInsertion_iff.1 hf
  have hfirst := weave_lineLayout_append front (e :: (inside ++ f :: back)) [] before
    (text ++ after) hline
    (fun g hg => (hfits g (List.mem_append_left _ hg)).of_append
      (hbefore ▸ hfront g hg e List.mem_cons_self)) (fun _ _ => Nat.zero_le _)
    (by
      rw [List.nil_append, hbefore]
      refine List.forall_mem_cons.2 ⟨Nat.le_refl _, fun g hg => ?_⟩
      rw [hpoint]
      exact hbehind g hg)
  have hsecond := weave_lineLayout_append inside (f :: back) before text after hline₃
    (fun g hg => by
      have hfit :=
        hfits g (List.mem_append_right _ (List.mem_cons_of_mem _ (List.mem_append_left _ hg)))
      rw [← List.append_assoc] at hfit
      exact hfit.of_append (hmiddle ▸ (hbetween g hg).2))
    (fun g hg => hbefore ▸ (hbetween g hg).1)
    (by
      rw [hmiddle]
      refine List.forall_mem_cons.2 ⟨Nat.le_refl _, fun g hg => ?_⟩
      rw [hpoint']
      exact hback g hg)
  rw [Text.byteLength_nil, List.nil_append, hbefore,
    weave_lineLayout_insertion _ hline₂ he] at hfirst
  rw [hbefore, hmiddle, weave_lineLayout_insertion _ hline₄ hf] at hsecond
  rw [hfirst, hsecond]

end Enclosed

/-- **What two insertions of a batch enclose** is the source between them, changed by the edits
between them alone. -/
theorem exists_enclosed {source : String} {edits front inside back : List Edit} {e f : Edit}
    (hvalid : ∀ e ∈ edits, e.check source.toList = .ok ())
    (hclear : edits.Pairwise fun e f => e.overlaps f = false)
    (hsorted : (sorted edits).reverse = front ++ e :: (inside ++ f :: back))
    (he : e.isInsertion = true) (hf : f.isInsertion = true) :
    ∃ first enclosed last,
      assembly edits source.toList = first ++ .added e :: (enclosed ++ .added f :: last) ∧
      enclosed.filterMap Piece.added? = inside ∧
      applyBatch source inside.reverse = .ok (String.ofList (Text.before source.toList e.start ++
        (renderPieces enclosed ++ Text.after source.toList f.start))) := by
  have hvalid' : ∀ g ∈ front ++ e :: (inside ++ f :: back), g.check source.toList = .ok () := by
    intro g hg
    rw [← hsorted, List.mem_reverse] at hg
    exact hvalid g ((sorted_perm edits).mem_iff.1 hg)
  have hfits : ∀ g ∈ front ++ e :: (inside ++ f :: back), g.Fits source.toList :=
    fun g hg => (check_eq_ok_iff.1 (hvalid' g hg)).1
  have hord : ∀ g ∈ edits, g.start ≤ g.stop :=
    fun g hg => (check_eq_ok_iff.1 (hvalid g hg)).1.ordered
  have hline := inLine_reverse_sorted hord hclear
  have horder : (sorted edits).reverse.Pairwise fun e f => (spliceOrder f e).isLE = true :=
    List.pairwise_reverse.2 (sorted_pairwise edits)
  rw [hsorted] at hline horder
  have hinside : inside.Sublist (front ++ e :: (inside ++ f :: back)) :=
    ((List.sublist_append_left inside _).cons e).trans (List.sublist_append_right front _)
  have hbetween := between_of_inLine hline he
  -- The insertions cut the source in three.
  have hfit := hfits e (List.mem_append_right _ List.mem_cons_self)
  have hfit' :=
    hfits f (List.mem_append_right
      _ (List.mem_cons_of_mem _ (List.mem_append_right _ List.mem_cons_self)))
  have hle : e.start ≤ f.start := by
    have hbehind := (List.pairwise_cons.1 (List.pairwise_append.1 hline).2.1).1
    exact isInsertion_iff.1 he ▸ hbehind f (List.mem_append_right _ List.mem_cons_self)
  obtain ⟨before, text, after, hsource, hbefore, htext⟩ :=
    Text.exists_split_between [] source.toList hfit.start_good hfit'.start_good (Nat.zero_le _) hle
  rw [Text.byteLength_nil, Nat.zero_add] at hbefore
  have hmiddle : Text.byteLength (before ++ text) = f.start := by
    rw [Text.byteLength_append, hbefore, htext]
  have hends : Text.before source.toList e.start = before ∧
      Text.after source.toList f.start = after := by
    rw [Text.before, Text.after, hsource, ← hbefore, Text.splitBytes_append_byteLength,
      ← List.append_assoc, ← hmiddle, Text.splitBytes_append_byteLength]
    exact ⟨rfl, rfl⟩
  have hfits' : ∀ g ∈ inside, g.Fits (before ++ text) := by
    intro g hg
    have hfit := hfits g (hinside.subset hg)
    rw [hsource, ← List.append_assoc] at hfit
    exact hfit.of_append (hmiddle ▸ (hbetween g hg).2)
  refine ⟨(lineLayout front).weave 0 0 before, (lineLayout inside).weave e.start e.start text,
    (lineLayout back).weave f.start f.start after, ?_, ?_, ?_⟩
  · rw [assembly, layout_eq_lineLayout hord hclear, hsorted, Layout.pieces, hsource]
    exact weave_lineLayout_enclosed hline he hf (hsource ▸ hfits) hbefore hmiddle
  · have hadded := added_weave_lineLayout before text (hline.sublist hinside) hfits'
      (fun g hg => hbefore ▸ (hbetween g hg).1)
    rwa [hbefore] at hadded
  · have hbatch := applyBatch_middle hsource (hline.sublist hinside) (horder.sublist hinside)
      (fun g hg => hvalid' g (hinside.subset hg)) (fun g hg => hbefore ▸ (hbetween g hg).1)
      (fun g hg => hmiddle ▸ (hbetween g hg).2)
    rw [hends.1, hends.2]
    rwa [hbefore] at hbatch

end Edit

end Graft
