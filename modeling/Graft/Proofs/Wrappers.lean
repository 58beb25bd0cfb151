import Graft.Proofs.Enclosure
import Graft.Proofs.Generation
import Graft.Proofs.Tags
import Graft.Proofs.Traversal

set_option autoImplicit false

/-!
# The wrappers of a queue

Which wrappers of a queue are accepted, and where their tags are found in the text before
substitutions. Only wrappers put in tags, and no two edits of requests have the same order, so a tag
is known by its edit, and of two tags the one with the smaller offset comes first, or at one offset
the one with the lower order.
-/

namespace Graft

/-! ## Insertions before others -/

namespace Edit

/-- An insertion stands before another: at an earlier offset, or at the same one with a lower
order. -/
def Before (e f : Edit) : Prop := e.start < f.start ∨ e.start = f.start ∧ e.order < f.order

/-- Of two insertions in line the later one does not stand before the other. -/
theorem not_before_of_isLE {e f : Edit} (he : e.isInsertion = true) (hf : f.isInsertion = true)
    (h : (spliceOrder f e).isLE = true) : ¬f.Before e := by
  rw [spliceOrder_isLE_iff, he, hf] at h
  simp only [Bool.true_eq_false, and_true, false_or, true_and] at h
  unfold Before
  omega

/-- Insertions that stand before each other are found in this order. -/
theorem sublist_of_before {edits chain : List Edit}
    (hedits : edits.Pairwise fun e f => (spliceOrder f e).isLE = true)
    (hchain : chain.Pairwise Before) (hins : ∀ e ∈ chain, e.isInsertion = true)
    (hmem : ∀ e ∈ chain, e ∈ edits) : chain.Sublist edits := by
  induction chain generalizing edits with
  | nil => exact List.nil_sublist edits
  | cons e chain ih =>
    obtain ⟨hbefore, hchain⟩ := List.pairwise_cons.1 hchain
    obtain ⟨front, back, rfl⟩ := List.append_of_mem (hmem e List.mem_cons_self)
    obtain ⟨-, hback, hfront⟩ := List.pairwise_append.1 hedits
    refine ((ih (List.pairwise_cons.1 hback).2 hchain
      (fun f hf => hins f (List.mem_cons_of_mem e hf)) ?_).cons_cons e).trans
        (List.sublist_append_right front _)
    -- None of the others is found before the first.
    intro f hf
    have hbefore := hbefore f hf
    have hfe := hins f (List.mem_cons_of_mem e hf)
    rcases List.mem_append.1 (hmem f (List.mem_cons_of_mem e hf)) with hmem | hmem
    · exact absurd hbefore
        (not_before_of_isLE hfe (hins e List.mem_cons_self) (hfront f hmem e List.mem_cons_self))
    · refine (List.mem_cons.1 hmem).resolve_left ?_
      rintro rfl
      unfold Before at hbefore
      omega

end Edit

/-! ## Orders that tell requests apart -/

open Workspace (importBlockOrder)

/-- As long as numbers fit into a band, an order tells the slot and the number. -/
theorem Slot.order_inj {slot slot' : Slot} {seq seq' : Nat} (hpos : 0 < seq)
    (hband : (seq : Int) < band) (hpos' : 0 < seq') (hband' : (seq' : Int) < band)
    (h : slot.order seq = slot'.order seq') : slot = slot' ∧ seq = seq' := by
  cases slot <;> cases slot' <;> simp only [order, band, reduceCtorEq, true_and, false_and] at * <;>
    omega

/-- The order of an edit of a sketch with a number: zero, or that of an insertion. -/
theorem Numbered.order_cases {source : String} {n : Numbered} {e : Edit}
    (he : e ∈ (n.draft source).edits) :
    e.order = 0 ∨ ∃ i ∈ n.sketch.inserts, e = Insert.edit n.seq i := by
  rcases List.mem_append.1 he with he | he
  · obtain ⟨i, hi, rfl⟩ := List.mem_map.1 he
    exact .inr ⟨i, hi, rfl⟩
  · obtain ⟨r, -, rfl⟩ := List.mem_map.1 he
    exact .inl rfl

/-- **No two edits of a session have the same order**, but for merged imports and removals. -/
theorem Orderly.pairwise_order {merges : List Edit} {block : Option Edit} {accepted : List Numbered}
    (h : Orderly merges block accepted) (source : String) :
    (Numbered.batch source merges block accepted).Pairwise fun e f => e.order = f.order →
      e.order = 0 := by
  have hmerges : ∀ e ∈ merges, ∀ f : Edit, e.order = f.order → e.order = 0 :=
    fun e he f _ => h.merges_order e he
  have hblock : block.toList.Pairwise fun e f => e.order = f.order → e.order = 0 := by
    cases block with
    | none => exact .nil
    | some e => exact List.pairwise_singleton _ e
  have hinj : ∀ n ∈ accepted, ∀ m ∈ accepted, ∀ slot slot' : Slot,
      slot.order n.seq = slot'.order m.seq → slot = slot' ∧ n.seq = m.seq := fun n hn m hm _ _ =>
    Slot.order_inj (h.rising.pos n hn) (h.rising.lt_band n hn) (h.rising.pos m hm)
      (h.rising.lt_band m hm)
  refine List.pairwise_append.2
    ⟨List.pairwise_append.2 ⟨?_, hblock, fun e he f _ => hmerges e he f⟩,
      List.pairwise_flatMap.2 ⟨fun n hn => List.pairwise_append.2 ⟨?_, ?_, ?_⟩, ?_⟩, ?_⟩
  · exact List.pairwise_of_forall_mem_list fun e he f _ => hmerges e he f
  · rw [List.pairwise_map]
    exact (h.one_per_slot n hn).imp fun hne heq => absurd (hinj n hn n hn _ _ heq).1 hne
  · refine List.pairwise_map.2 (List.pairwise_of_forall_mem_list fun _ _ _ _ _ => rfl)
  · intro e _ f hf heq
    obtain ⟨r, -, rfl⟩ := List.mem_map.1 hf
    exact heq
  · refine h.rising.pairwise.imp_of_mem ?_
    intro n m hn hm hlt e he f hf heq
    rcases Numbered.order_cases hf with hzero | ⟨j, -, rfl⟩
    · exact heq.trans hzero
    rcases Numbered.order_cases he with hzero | ⟨i, -, rfl⟩
    · exact hzero
    · exact absurd (hinj n hn m hm _ _ heq).2 (Nat.ne_of_lt hlt)
  · intro e he f hf heq
    rcases List.mem_append.1 he with he | he
    · exact hmerges e he f heq
    obtain ⟨n, hn, hf⟩ := List.mem_flatMap.1 hf
    rcases Numbered.order_cases hf with hzero | ⟨i, -, rfl⟩
    · exact heq.trans hzero
    · -- The block of new imports comes below all slots.
      have hlt := h.rising.lt_band n hn
      have hlow : i.slot.order n.seq = importBlockOrder := heq.symm.trans (h.block_order e he)
      generalize i.slot = slot at hlow
      cases slot <;> simp only [Slot.order, Slot.band, importBlockOrder] at hlt hlow <;> omega

/-! ## The wrappers of a queue -/

namespace Workspace

/-- The text before substitutions, in pieces. -/
def pieces (w : Workspace) (queue : List Request) : List (Piece Edit) :=
  Edit.assembly (w.edits queue) w.chars

/-- What is put into the text, from left to right. -/
def added (w : Workspace) (queue : List Request) : List Edit :=
  (w.pieces queue).filterMap Piece.added?

/-- The draft of a request at a place of a queue, if it is accepted. -/
def accepted? (w : Workspace) (queue : List Request) (item : Request × Nat) : Option Draft :=
  match w.draft [] item.1 (item.2 + 1) with
  | some (.ok d) => if (w.drafted queue).accepted.any (· = d) then some d else none
  | _ => none

/-- The wrapper that a request at a place of a queue puts around an element, if it is accepted. -/
def wrap? (w : Workspace) (queue : List Request) (item : Request × Nat) : Option Wrap :=
  match item.1 with
  | .wrap target wrapper =>
    (w.accepted? queue item).bind fun _ => (w.target? target).map fun node =>
      ⟨item.2 + 1, node, wrapper⟩
  | _ => none

/-- The wrappers of a queue that are accepted. -/
def wraps (w : Workspace) (queue : List Request) : List Wrap :=
  queue.zipIdx.filterMap (w.wrap? queue)

/-- The tag that an edit puts in. -/
def tag? (w : Workspace) (queue : List Request) (e : Edit) : Option Tag :=
  ((w.wraps queue).flatMap Wrap.tags).find? fun t => t.edit = e

/-- The tags of wrappers in the text, from left to right. -/
def tags (w : Workspace) (queue : List Request) : List Tag :=
  (w.added queue).filterMap (w.tag? queue)

variable {w : Workspace} {queue : List Request}

theorem accepted?_eq_some_iff {item : Request × Nat} {d : Draft} : w.accepted? queue item = some d ↔
    w.draft [] item.1 (item.2 + 1) = some (.ok d) ∧ d ∈ (w.drafted queue).accepted := by
  unfold accepted?
  split
  · rename_i d' hd'
    have hmem : (w.drafted queue).accepted.any (· = d') = true ↔
        d' ∈ (w.drafted queue).accepted := by simp
    rw [Option.ite_none_right_eq_some, hmem, hd', Option.some_inj, Option.some_inj, Except.ok.injEq]
    constructor
    · rintro ⟨hmem, rfl⟩
      exact ⟨rfl, hmem⟩
    · rintro ⟨rfl, hmem⟩
      exact ⟨hmem, rfl⟩
  · rename_i hnot
    exact iff_of_false (by rintro ⟨⟩) fun h => hnot d h.1

theorem draft_eq_some_ok_iff {declared : List (Nat × String)} {request : Request} {seq : Nat}
    {d : Draft} :
    w.draft declared request seq = some (.ok d) ↔
      ∃ s, w.sketch declared request (request.label seq) = some (.ok s) ∧
      s.draft w.document.source seq (request.label seq) = d := by
  rw [draft, Option.map_eq_some_iff]
  constructor
  · rintro ⟨sketch, hsketch, hd⟩
    cases sketch with
    | error e => cases hd
    | ok s => exact ⟨s, hsketch, Except.ok.inj hd⟩
  · rintro ⟨s, hsketch, rfl⟩
    exact ⟨.ok s, hsketch, rfl⟩

/-- What an accepted request has been sketched as. -/
theorem sketched_of_accepted? {item : Request × Nat} {d : Draft}
    (h : w.accepted? queue item = some d) :
    ∃ s, Sketched w [] item.1 s ∧
      s.draft w.document.source (item.2 + 1) (item.1.label (item.2 + 1)) = d := by
  obtain ⟨s, hsketch, hd⟩ := draft_eq_some_ok_iff.1 (accepted?_eq_some_iff.1 h).1
  exact ⟨s, sketched_of_sketch hsketch, hd⟩

theorem mem_edits_of_accepted? {item : Request × Nat} {d : Draft}
    (h : w.accepted? queue item = some d) {e : Edit} (he : e ∈ d.edits) : e ∈ w.edits queue :=
  List.mem_append_right _ (List.mem_flatMap.2 ⟨d, (accepted?_eq_some_iff.1 h).2, he⟩)

theorem takeWhile_isDigit_label (request : Request) (seq : Nat) :
    ((request.label seq).toList.drop 1).takeWhile Char.isDigit = Nat.toDigits 10 seq := by
  have hlabel : (request.label seq).toList =
      '#' :: (Nat.toDigits 10 seq ++ ' ' :: request.render.toList) := by
    show ("#" ++ toString seq ++ " " ++ request.render).toList = _
    simp [Nat.toString_eq_repr]
  have hdigits : ∀ c ∈ Nat.toDigits 10 seq, c.isDigit = true :=
    fun c hc => Nat.isDigit_of_mem_toDigits (by decide) (by decide) hc
  have hspace : (' ' :: request.render.toList).takeWhile Char.isDigit = [] :=
    List.takeWhile_cons_of_neg (by decide)
  rw [hlabel, List.drop_one, List.tail_cons, List.takeWhile_append_of_pos hdigits,
    hspace, List.append_nil]

/-- The label of a request tells its number. -/
theorem seq_eq_of_label_eq {request request' : Request} {m n : Nat}
    (h : request.label m = request'.label n) : m = n := by
  have hdigits := takeWhile_isDigit_label request m
  rw [h, takeWhile_isDigit_label] at hdigits
  have hnumber := congrArg (fun digits => Nat.ofDigitChars 10 digits 0) hdigits
  simpa using hnumber.symm

/-- An accepted request is found among those with a number under its own. -/
theorem exists_numbered_of_accepted? {verdicts : List (Except GenerationError Numbered)}
    (hjudged : List.Forall₂ w.Judged (structural queue) verdicts)
    (haccepted : (w.drafted queue).accepted = (acceptedOf verdicts).map (·.draft w.document.source))
    {request : Request} {k : Nat} {d : Draft} (h : w.accepted? queue (request, k) = some d) :
    ∃ n ∈ acceptedOf verdicts, n.seq = k + 1 ∧ n.draft w.document.source = d := by
  obtain ⟨hdraft, hmem⟩ := accepted?_eq_some_iff.1 h
  rw [haccepted] at hmem
  obtain ⟨n, hn, rfl⟩ := List.mem_map.1 hmem
  obtain ⟨item, -, hseq, hlabel, -⟩ := judged_of_mem_acceptedOf hjudged hn
  obtain ⟨s, -, hd⟩ := draft_eq_some_ok_iff.1 hdraft
  have hsame := seq_eq_of_label_eq (hlabel.symm.trans (congrArg Draft.label hd).symm)
  exact ⟨n, hn, hseq.trans hsame, rfl⟩

theorem pair_sublist_of_seq_lt {accepted : List Numbered}
    (hrising : accepted.Pairwise fun n m => n.seq < m.seq) {n m : Numbered} (hn : n ∈ accepted)
    (hm : m ∈ accepted) (hlt : n.seq < m.seq) : [n, m].Sublist accepted := by
  obtain ⟨front, back, rfl⟩ := List.append_of_mem hn
  refine (List.Sublist.cons_cons n (List.singleton_sublist.2 ?_)).trans
    (List.sublist_append_right front _)
  rcases List.mem_append.1 hm with hfront | hback
  · have := (List.pairwise_append.1 hrising).2.2 m hfront n List.mem_cons_self
    omega
  · refine (List.mem_cons.1 hback).resolve_left ?_
    rintro rfl
    omega

/-- Accepted requests make their edits in the order of the queue. -/
theorem sublist_edits_of_accepted? {request request' : Request} {i j : Nat} {d d' : Draft}
    (hij : i < j) (h : w.accepted? queue (request, i) = some d)
    (h' : w.accepted? queue (request', j) = some d') :
    (d.edits ++ d'.edits).Sublist (w.edits queue) := by
  obtain ⟨verdicts, hjudged, hdrafted, -, -⟩ :=
    w.draftAll_verdicts (w.parse w.document.source) queue
  have haccepted : (w.drafted queue).accepted =
      (acceptedOf verdicts).map (·.draft w.document.source) :=
    congrArg Progress.accepted hdrafted
  obtain ⟨n, hn, hseq, rfl⟩ := exists_numbered_of_accepted? hjudged haccepted h
  obtain ⟨n', hn', hseq', rfl⟩ := exists_numbered_of_accepted? hjudged haccepted h'
  have hrising := acceptedOf_pairwise hjudged ((zipIdx_pairwise queue).filter _)
  have hpair := pair_sublist_of_seq_lt hrising hn hn' (by omega)
  have hdrafts := (hpair.map (·.draft w.document.source)).flatMap (·.edits)
  rw [← haccepted] at hdrafts
  simpa [edits] using hdrafts.trans (List.sublist_append_right (w.imported queue).edits _)

/-- The edits of a queue are those of accepted requests, with imports. -/
theorem exists_orderly (w : Workspace) {queue : List Request} (hlen : queue.length < 0x100000000) :
    ∃ merges block accepted, w.edits queue =
      Numbered.batch w.document.source merges block accepted ∧ Orderly merges block accepted ∧
      ∀ n ∈ accepted, ∃ item ∈ queue.zipIdx,
        w.accepted? queue item = some (n.draft w.document.source) := by
  obtain ⟨verdicts, hjudged, hdrafted, -, -⟩ :=
    w.draftAll_verdicts (w.parse w.document.source) queue
  have haccepted : (w.drafted queue).accepted =
      (acceptedOf verdicts).map (·.draft w.document.source) :=
    congrArg Progress.accepted hdrafted
  refine ⟨_, _, acceptedOf verdicts, edits_eq_batch haccepted,
    orderly_of_judged hjudged hlen _, fun n hn => ?_⟩
  obtain ⟨item, hitem, -, -, declared, hdraft, -⟩ := judged_of_mem_acceptedOf hjudged hn
  refine ⟨item, List.mem_of_mem_filter hitem,
    accepted?_eq_some_iff.2 ⟨?_, haccepted ▸ List.mem_map_of_mem hn⟩⟩
  obtain ⟨s, hsketch, hd⟩ := draft_eq_some_ok_iff.1 hdraft
  exact draft_eq_some_ok_iff.2 ⟨s, (sketch_eq_some_ok_iff.1 hsketch).1, hd⟩

/-- An edit of a queue has order zero, is the block of new imports, or is an insertion of an
accepted request. -/
theorem mem_edits_cases (hlen : queue.length < 0x100000000) {e : Edit} (he : e ∈ w.edits queue) :
    e.order = 0 ∨ e.order = importBlockOrder ∨ ∃ item ∈ queue.zipIdx, ∃ s, Sketched w [] item.1 s ∧
      (w.accepted? queue item).isSome = true ∧ ∃ i ∈ s.inserts, e = Insert.edit (item.2 + 1) i := by
  obtain ⟨merges, block, accepted, hedits, horderly, haccepted⟩ := w.exists_orderly hlen
  rw [hedits] at he
  rcases List.mem_append.1 he with he | he
  · rcases List.mem_append.1 he with he | he
    · exact .inl (horderly.merges_order e he)
    · exact .inr (.inl (horderly.block_order e he))
  · obtain ⟨n, hn, he⟩ := List.mem_flatMap.1 he
    obtain ⟨item, hitem, hd⟩ := haccepted n hn
    obtain ⟨s, hsketched, hdraft⟩ := sketched_of_accepted? hd
    have he' :
        e ∈ ((⟨s, item.2 + 1, item.1.label (item.2 + 1)⟩ : Numbered).draft
          w.document.source).edits := by
      rw [← hdraft] at he
      exact he
    rcases Numbered.order_cases he' with hzero | ⟨i, hi, rfl⟩
    · exact .inl hzero
    · exact .inr (.inr ⟨item, hitem, s, hsketched, by rw [hd]; rfl, i, hi, rfl⟩)

/-! ## Only wrappers have tags -/

theorem placeEffect_slot (w : Workspace) (effect : Effect) (body : Node) :
    (w.placeEffect effect body).slot = .trailing ∨ (w.placeEffect effect body).slot = .leading := by
  unfold placeEffect
  dsimp only
  split
  · exact .inl rfl
  · split
    · split
      · exact .inr rfl
      · exact .inl rfl
    · exact .inr rfl

theorem placeMarkup_before {node : Node} {markup : String} {i : Insert}
    (h : w.placeMarkup node .before markup = .ok i) :
    i.offset = node.start ∧ i.slot = .leading := by
  unfold placeMarkup at h
  dsimp only at h
  split at h <;> cases h <;> exact ⟨rfl, rfl⟩

theorem placeMarkup_after {node : Node} {markup : String} {i : Insert}
    (h : w.placeMarkup node .after markup = .ok i) : i.offset = node.stop ∧ i.slot = .trailing := by
  unfold placeMarkup at h
  dsimp only at h
  split at h <;> cases h <;> exact ⟨rfl, rfl⟩

theorem placeMarkup_slot {node : Node} {position : InsertPosition} {markup : String} {i : Insert}
    (h : w.placeMarkup node position markup = .ok i) : i.slot = .trailing ∨ i.slot = .leading := by
  cases position with
  | before => exact .inr (placeMarkup_before h).2
  | after => exact .inl (placeMarkup_after h).2
  | startOfChildren | endOfChildren =>
    unfold placeMarkup at h
    dsimp only at h
    split at h
    · cases h
    · split at h
      · split at h <;> cases h <;> exact .inr rfl
      · split at h <;> cases h <;> exact .inl rfl

/-- An insertion that neither trails nor leads is a tag. -/
theorem Sketched.tag_of_slot {declared : List (Nat × String)} {request : Request} {s : Sketch}
    {i : Insert} (h : Sketched w declared request s) (hi : i ∈ s.inserts)
    (htrailing : i.slot ≠ .trailing) (hleading : i.slot ≠ .leading) :
    ∃ target wrapper node, request = .wrap target wrapper ∧
      w.target? target = some node ∧
      (i = ⟨node.start, openingTag wrapper, .opening⟩ ∨
        i = ⟨node.stop, closingTag wrapper, .closing⟩) := by
  have hnot : ¬(i.slot = .trailing ∨ i.slot = .leading) := not_or.2 ⟨htrailing, hleading⟩
  cases h with
  | state => exact absurd (.inl (by rw [List.mem_singleton.1 hi]; rfl)) hnot
  | effect => exact absurd (by rw [List.mem_singleton.1 hi]; exact w.placeEffect_slot _ _) hnot
  | insert found placed =>
    rw [List.mem_singleton.1 hi] at hnot
    exact absurd (placeMarkup_slot placed) hnot
  | @wrap target wrapper node found =>
    refine ⟨target, wrapper, node, rfl, found, ?_⟩
    simpa using hi
  | delete => exact absurd hi List.not_mem_nil

theorem mem_wraps_iff {x : Wrap} : x ∈ w.wraps queue ↔ ∃ item ∈ queue.zipIdx, x.seq = item.2 + 1 ∧
    (w.accepted? queue item).isSome = true ∧
      ∃ target, item.1 = .wrap target x.wrapper ∧ w.target? target = some x.node := by
  rw [wraps, List.mem_filterMap]
  refine exists_congr fun item => and_congr_right fun _ => ?_
  obtain ⟨request, k⟩ := item
  constructor
  · intro h
    cases request with
    | wrap target wrapper =>
      simp only [wrap?, Option.bind_eq_some_iff] at h
      obtain ⟨d, hd, hx⟩ := h
      obtain ⟨node, hnode, rfl⟩ := Option.map_eq_some_iff.1 hx
      exact ⟨rfl, by rw [hd]; rfl, target, rfl, hnode⟩
    | _ => cases h
  · rintro ⟨hseq, hsome, target, hrequest, hnode⟩
    obtain ⟨d, hd⟩ := Option.isSome_iff_exists.1 hsome
    obtain ⟨seq, node, wrapper⟩ := x
    obtain rfl : seq = k + 1 := hseq
    obtain rfl : request = .wrap target wrapper := hrequest
    simp only [wrap?, Option.bind_eq_some_iff]
    exact ⟨d, hd, Option.map_eq_some_iff.2 ⟨node, hnode, rfl⟩⟩

/-- Both tags of an accepted wrapper are put in. -/
theorem tags_mem_edits {x : Wrap} (hx : x ∈ w.wraps queue) :
    x.opening ∈ w.edits queue ∧ x.closing ∈ w.edits queue := by
  obtain ⟨⟨request, k⟩, -, hseq, hsome, target, rfl, hnode⟩ := mem_wraps_iff.1 hx
  obtain ⟨d, hd⟩ := Option.isSome_iff_exists.1 hsome
  obtain ⟨s, hsketched, hdraft⟩ := sketched_of_accepted? hd
  have hedits : d.edits = [x.opening, x.closing] := by
    cases hsketched with
    | wrap found =>
      obtain rfl := Option.some_inj.1 (found.symm.trans hnode)
      rw [← hdraft, Wrap.opening, Wrap.closing, hseq]
      rfl
  exact ⟨mem_edits_of_accepted? hd (by rw [hedits]; simp),
    mem_edits_of_accepted? hd (by rw [hedits]; simp)⟩

theorem node_mem_preorder {x : Wrap} (hx : x ∈ w.wraps queue) :
    x.node ∈ w.document.root.preorder := by
  obtain ⟨item, -, -, -, target, -, hnode⟩ := mem_wraps_iff.1 hx
  exact mem_preorder_of_target? hnode

theorem seq_bounds (hlen : queue.length < 0x100000000) {x : Wrap} (hx : x ∈ w.wraps queue) :
    0 < x.seq ∧ (x.seq : Int) < Slot.band := by
  obtain ⟨item, hitem, hseq, -⟩ := mem_wraps_iff.1 hx
  have := List.snd_lt_of_mem_zipIdx hitem
  rw [Slot.band]
  omega

/-- A request asks for one wrapper. -/
theorem wraps_pairwise (w : Workspace) (queue : List Request) :
    (w.wraps queue).Pairwise fun x y => x.seq < y.seq := by
  have hseq : ∀ {item : Request × Nat} {x : Wrap}, w.wrap? queue item = some x →
      x.seq = item.2 + 1 := by
    intro item x h
    unfold wrap? at h
    split at h
    · obtain ⟨d, -, hx⟩ := Option.bind_eq_some_iff.1 h
      obtain ⟨node, -, rfl⟩ := Option.map_eq_some_iff.1 hx
      rfl
    · cases h
  refine List.pairwise_filterMap.2 ((zipIdx_pairwise queue).imp ?_)
  intro a b hlt x hx y hy
  rw [hseq hx, hseq hy]
  exact Nat.succ_lt_succ hlt

theorem eq_of_seq_eq {x y : Wrap} (hx : x ∈ w.wraps queue) (hy : y ∈ w.wraps queue)
    (h : x.seq = y.seq) : x = y :=
  List.inj_on_of_nodup_map (List.pairwise_map.2 ((w.wraps_pairwise queue).imp Nat.ne_of_lt)) hx hy h

/-- Edits below and above all other slots are tags, but for the block of new imports. -/
theorem tag_of_order (hlen : queue.length < 0x100000000) {e : Edit} (he : e ∈ w.edits queue)
    (horder : e.order < 0 ∨ 3 * Slot.band ≤ e.order) :
    e.order = importBlockOrder ∨ ∃ x ∈ w.wraps queue, e = x.opening ∨ e = x.closing := by
  rcases mem_edits_cases hlen he with hzero | hblock |
    ⟨item, hitem, s, hsketched, hsome, i, hi, rfl⟩
  · rw [hzero, Slot.band] at horder
    omega
  · exact .inl hblock
  · have hlt := List.snd_lt_of_mem_zipIdx hitem
    have horder : i.slot.order (item.2 + 1) < 0 ∨ 3 * Slot.band ≤ i.slot.order (item.2 + 1) :=
      horder
    have htrailing : i.slot ≠ .trailing := by
      intro h
      rw [h, Slot.order, Slot.band] at horder
      omega
    have hleading : i.slot ≠ .leading := by
      intro h
      rw [h, Slot.order, Slot.band] at horder
      omega
    obtain ⟨target, wrapper, node, hrequest, hnode, hi⟩ :=
      hsketched.tag_of_slot hi htrailing hleading
    have hx : (⟨item.2 + 1, node, wrapper⟩ : Wrap) ∈ w.wraps queue :=
      mem_wraps_iff.2 ⟨item, hitem, rfl, hsome, target, hrequest, hnode⟩
    refine .inr ⟨_, hx, ?_⟩
    rcases hi with rfl | rfl
    · exact .inl rfl
    · exact .inr rfl

/-! ## Reading tags -/

theorem mem_allTags_iff {t : Tag} : t ∈ (w.wraps queue).flatMap Wrap.tags ↔
    ∃ x ∈ w.wraps queue, t = .opening x ∨ t = .closing x := by
  simp [Wrap.tags]

theorem allTags_nodup (w : Workspace) (queue : List Request) :
    ((w.wraps queue).flatMap Wrap.tags).Nodup := by
  refine List.pairwise_flatMap.2 ⟨fun x _ => by simp [Wrap.tags], (w.wraps_pairwise queue).imp ?_⟩
  rintro x y hlt t ht _ hu rfl
  simp only [Wrap.tags, List.mem_cons, List.not_mem_nil, or_false] at ht hu
  rcases ht with rfl | rfl <;> rcases hu with heq | heq <;> cases heq <;> exact Nat.lt_irrefl _ hlt

theorem order_ne_zero (hlen : queue.length < 0x100000000) {t : Tag}
    (ht : t ∈ (w.wraps queue).flatMap Wrap.tags) : t.edit.order ≠ 0 := by
  obtain ⟨x, hx, rfl | rfl⟩ := mem_allTags_iff.1 ht
  · simp only [Tag.edit, Wrap.opening_order, Slot.band]
    omega
  · have := (seq_bounds hlen hx).1
    simp only [Tag.edit, Wrap.closing_order]
    omega

/-- Tags are put in by different edits. -/
theorem eq_of_edit_eq {t u : Tag} (ht : t ∈ (w.wraps queue).flatMap Wrap.tags)
    (hu : u ∈ (w.wraps queue).flatMap Wrap.tags) (h : t.edit = u.edit) : t = u := by
  obtain ⟨x, hx, hxt⟩ := mem_allTags_iff.1 ht
  obtain ⟨y, hy, hyu⟩ := mem_allTags_iff.1 hu
  have horder := congrArg Edit.order h
  rcases hxt with rfl | rfl <;> rcases hyu with rfl | rfl <;>
    simp only [Tag.edit, Wrap.opening_order, Wrap.closing_order, Slot.band] at horder
  · rw [eq_of_seq_eq hx hy (by omega)]
  · omega
  · omega
  · rw [eq_of_seq_eq hx hy (by omega)]

theorem tag?_eq_some_iff {e : Edit} {t : Tag} :
    w.tag? queue e = some t ↔ t ∈ (w.wraps queue).flatMap Wrap.tags ∧ t.edit = e := by
  constructor
  · intro h
    have hedit := List.find?_some h
    exact ⟨List.mem_of_find?_eq_some h, by simpa using hedit⟩
  · rintro ⟨ht, rfl⟩
    cases hfound : w.tag? queue t.edit with
    | none => exact absurd (decide_eq_true rfl) (List.find?_eq_none.1 hfound t ht)
    | some u =>
      have hedit := List.find?_some hfound
      rw [eq_of_edit_eq (List.mem_of_find?_eq_some hfound) ht (by simpa using hedit)]

section Spliced

variable {code : String} (hcode : w.spliced queue = .ok code)

include hcode

theorem code_eq_pieces : code = String.ofList (Edit.renderPieces (w.pieces queue)) :=
  (Edit.applyBatch_eq_ok_iff.1 hcode).2.2

theorem added_eq : w.added queue = (Edit.sorted (w.edits queue)).reverse := by
  obtain ⟨hvalid, hclear, -⟩ := Edit.applyBatch_eq_ok_iff.1 hcode
  exact Edit.added_assembly_eq (fun e he => (Edit.check_eq_ok_iff.1 (hvalid e he)).1) hclear

theorem perm_added : (w.added queue).Perm (w.edits queue) := by
  rw [added_eq hcode]
  exact (List.reverse_perm _).trans (Edit.sorted_perm _)

theorem added_sorted : (w.added queue).Pairwise fun e f => (Edit.spliceOrder f e).isLE = true := by
  rw [added_eq hcode]
  exact List.pairwise_reverse.2 (Edit.sorted_pairwise _)

/-- Insertions that stand before each other are found in this order in the text. -/
theorem sublist_added {chain : List Edit} (hchain : chain.Pairwise Edit.Before)
    (hins : ∀ e ∈ chain, e.isInsertion = true) (hmem : ∀ e ∈ chain, e ∈ w.edits queue) :
    chain.Sublist (w.added queue) :=
  Edit.sublist_of_before (added_sorted hcode) hchain hins fun e he =>
    (perm_added hcode).mem_iff.2 (hmem e he)

theorem pair_sublist_added {e f : Edit} (he : e ∈ w.edits queue) (hf : f ∈ w.edits queue)
    (hins : e.isInsertion = true) (hins' : f.isInsertion = true) (h : e.Before f) :
    [e, f].Sublist (w.added queue) := by
  refine sublist_added hcode (List.pairwise_pair.2 h) ?_ ?_
  · simp [hins, hins']
  · simp [he, hf]

/-- At one offset, insertions of one order are found the other way round. -/
theorem pair_sublist_added_of_tied {e f : Edit} (hins : e.isInsertion = true)
    (hins' : f.isInsertion = true) (hstart : e.start = f.start) (horder : e.order = f.order)
    (h : [e, f].Sublist (w.edits queue)) : [f, e].Sublist (w.added queue) := by
  have hle : (Edit.spliceOrder e f).isLE = true := by
    simp [Edit.spliceOrder_isLE_iff, hins, hins', hstart, horder]
  rw [added_eq hcode]
  exact (List.pair_sublist_mergeSort Edit.spliceOrder_trans Edit.spliceOrder_total hle h).reverse

theorem not_before_of_sublist {e f : Edit} (he : e.isInsertion = true) (hf : f.isInsertion = true)
    (hpair : [e, f].Sublist (w.added queue)) : ¬f.Before e := by
  have hle := (added_sorted hcode).sublist hpair
  rw [List.pairwise_pair] at hle
  exact Edit.not_before_of_isLE he hf hle

theorem mem_tags_iff {t : Tag} : t ∈ w.tags queue ↔ t ∈ (w.wraps queue).flatMap Wrap.tags := by
  rw [tags, List.mem_filterMap]
  constructor
  · rintro ⟨e, -, he⟩
    exact (tag?_eq_some_iff.1 he).1
  · intro ht
    refine ⟨t.edit, (perm_added hcode).mem_iff.2 ?_, tag?_eq_some_iff.2 ⟨ht, rfl⟩⟩
    obtain ⟨x, hx, rfl | rfl⟩ := mem_allTags_iff.1 ht
    · exact (tags_mem_edits hx).1
    · exact (tags_mem_edits hx).2

/-- So are tags. -/
theorem sublist_tags {chain : List Tag} (hchain : chain.Pairwise fun t u => t.edit.Before u.edit)
    (hmem : ∀ t ∈ chain, t ∈ (w.wraps queue).flatMap Wrap.tags) : chain.Sublist (w.tags queue) := by
  have hedits : (chain.map Tag.edit).Sublist (w.added queue) := by
    refine sublist_added hcode (List.pairwise_map.2 hchain) ?_ ?_
    · refine List.forall_mem_map.2 fun t _ => t.edit_isInsertion
    · refine List.forall_mem_map.2 fun t ht => ?_
      obtain ⟨e, he, htag⟩ := List.mem_filterMap.1 ((mem_tags_iff hcode).2 (hmem t ht))
      rw [(tag?_eq_some_iff.1 htag).2]
      exact (perm_added hcode).mem_iff.1 he
  have hchain' : (chain.map Tag.edit).filterMap (w.tag? queue) = chain := by
    rw [List.filterMap_map]
    refine (List.filterMap_congr fun t ht => ?_).trans List.filterMap_some
    exact tag?_eq_some_iff.2 ⟨hmem t ht, rfl⟩
  rw [← hchain']
  exact hedits.filterMap _

theorem tags_pairwise : (w.tags queue).Pairwise fun t u => ¬u.edit.Before t.edit := by
  refine List.pairwise_filterMap.2 ((added_sorted hcode).imp ?_)
  intro e f hle t ht u hu
  obtain ⟨-, rfl⟩ := tag?_eq_some_iff.1 ht
  obtain ⟨-, rfl⟩ := tag?_eq_some_iff.1 hu
  exact Edit.not_before_of_isLE t.edit_isInsertion u.edit_isInsertion hle

variable (hlen : queue.length < 0x100000000)

include hlen

theorem added_pairwise_order :
    (w.added queue).Pairwise fun e f => e.order = f.order → e.order = 0 := by
  obtain ⟨merges, block, accepted, hedits, horderly, -⟩ := w.exists_orderly hlen
  have h := horderly.pairwise_order w.document.source
  rw [← hedits] at h
  refine (perm_added hcode).symm.pairwise h fun {e f} hef hfe => ?_
  rw [hfe]
  exact hef hfe.symm

theorem tags_nodup : (w.tags queue).Nodup := by
  refine List.pairwise_filterMap.2 ((added_pairwise_order hcode hlen).imp ?_)
  rintro e f horder t ht _ hu rfl
  obtain ⟨hmem, rfl⟩ := tag?_eq_some_iff.1 ht
  obtain ⟨-, rfl⟩ := tag?_eq_some_iff.1 hu
  exact order_ne_zero hlen hmem (horder rfl)

end Spliced

end Workspace

end Graft
