import Graft.Proofs.Slots

set_option autoImplicit false

/-!
# Tags of wrappers

A wrapper puts two tags around an element. A text with the tags of many wrappers in it is good if
the tags come in pairs that nest, and this is so as soon as every opening tag stands before its
closing tag and no two pairs cross.
-/

namespace Graft

/-! ## Tags that nest -/

/-- A wrapper around an element, asked for by a request with a number. -/
structure Wrap where
  seq : Nat
  node : Node
  wrapper : Wrapper

namespace Wrap

def opening (x : Wrap) : Edit :=
  Insert.edit x.seq ⟨x.node.start, Workspace.openingTag x.wrapper, .opening⟩

def closing (x : Wrap) : Edit :=
  Insert.edit x.seq ⟨x.node.stop, Workspace.closingTag x.wrapper, .closing⟩

@[simp] theorem opening_start (x : Wrap) : x.opening.start = x.node.start := rfl

@[simp] theorem closing_start (x : Wrap) : x.closing.start = x.node.stop := rfl

@[simp] theorem opening_order (x : Wrap) : x.opening.order = 3 * Slot.band + x.seq := rfl

@[simp] theorem closing_order (x : Wrap) : x.closing.order = -(x.seq : Int) := rfl

end Wrap

/-- One of the two tags of a wrapper. -/
inductive Tag where
  | opening (x : Wrap)
  | closing (x : Wrap)

def Tag.edit : Tag → Edit
  | opening x => x.opening
  | closing x => x.closing

theorem Tag.edit_isInsertion (t : Tag) : t.edit.isInsertion = true := by
  cases t <;> exact Edit.isInsertion_iff.2 rfl

def Wrap.tags (x : Wrap) : List Tag := [.opening x, .closing x]

/-- Tags that come in pairs, with other such tags between them and behind them. -/
inductive WellNested : List Tag → Prop where
  | nil : WellNested []
  | around (x : Wrap) {inner rest : List Tag} (hinner : WellNested inner)
    (hrest : WellNested rest) : WellNested (.opening x :: (inner ++ .closing x :: rest))

/-- A pair of tags that does not cross another stands between the tags of the other or behind
them. -/
theorem pair_sublist_of_uncrossed {x y : Wrap} {inner rest : List Tag} (hne : y ≠ x)
    (hpair : [Tag.opening y, .closing y].Sublist (.opening x :: (inner ++ .closing x :: rest)))
    (huncrossed : ¬[Tag.opening x, .opening y, .closing x, .closing y].Sublist
      (.opening x :: (inner ++ .closing x :: rest))) :
    [Tag.opening y, .closing y].Sublist inner ∨ [Tag.opening y, .closing y].Sublist rest := by
  rcases List.cons_sublist_cons'.1 hpair with hpair | ⟨heq, -⟩
  · obtain ⟨first, last, hsplit, hfirst, hlast⟩ := List.sublist_append_iff.1 hpair
    rcases first with _ | ⟨t, _ | ⟨u, first⟩⟩
    · rw [List.nil_append] at hsplit
      rw [← hsplit] at hlast
      rcases List.cons_sublist_cons'.1 hlast with hlast | ⟨heq, -⟩
      · exact .inr hlast
      · cases heq
    · -- The opening tag stands between the others and the closing tag behind them.
      obtain ⟨rfl, rfl⟩ := List.cons_eq_cons.1 hsplit
      have hclosing : Tag.closing y ∈ rest := by
        rw [List.singleton_sublist, List.mem_cons] at hlast
        exact hlast.resolve_left fun heq => hne (Tag.closing.inj heq)
      refine absurd ?_ huncrossed
      exact (hfirst.append ((List.singleton_sublist.2 hclosing).cons_cons (.closing x))).cons_cons
        (.opening x)
    · have hpair : [Tag.opening y, .closing y] = t :: u :: first := by
        simp only [List.cons_append, List.cons.injEq] at hsplit ⊢
        exact ⟨hsplit.1, hsplit.2.1, (List.append_eq_nil_iff.1 hsplit.2.2.symm).1.symm⟩
      exact .inl (hpair ▸ hfirst)
  · exact absurd (Tag.opening.inj heq) hne

/-- **Pairs of tags that do not cross nest.** -/
theorem wellNested_of_uncrossed {tags : List Tag} (hnodup : tags.Nodup)
    (hpaired : ∀ x, Tag.opening x ∈ tags ∨ Tag.closing x ∈ tags →
      [Tag.opening x, .closing x].Sublist tags)
    (huncrossed : ∀ x y, ¬[Tag.opening x, .opening y, .closing x, .closing y].Sublist tags) :
    WellNested tags := by
  induction hlen : tags.length using Nat.strong_induction_on generalizing tags with
  | _ n ih =>
    rcases tags with _ | ⟨x | x, tags⟩
    · exact .nil
    · have hclosing : Tag.closing x ∈ tags :=
        List.singleton_sublist.1 (List.cons_sublist_cons.1 (hpaired x (.inl List.mem_cons_self)))
      obtain ⟨inner, rest, rfl⟩ := List.append_of_mem hclosing
      obtain ⟨hx, hbehind⟩ := List.nodup_cons.1 hnodup
      obtain ⟨hinner, hrest, hapart⟩ := List.nodup_append.1 hbehind
      obtain ⟨hx', hrest⟩ := List.nodup_cons.1 hrest
      have hsplit : ∀ y, y ≠ x →
          [Tag.opening y, .closing y].Sublist (.opening x :: (inner ++ .closing x :: rest)) →
          [Tag.opening y, .closing y].Sublist inner ∨ [Tag.opening y, .closing y].Sublist rest :=
        fun y hne hpair => pair_sublist_of_uncrossed hne hpair (huncrossed x y)
      have hsub : inner.Sublist (.opening x :: (inner ++ .closing x :: rest)) :=
        (List.sublist_append_left inner _).cons _
      have hsub' : rest.Sublist (.opening x :: (inner ++ .closing x :: rest)) :=
        (((List.Sublist.refl rest).cons _).trans (List.sublist_append_right inner _)).cons _
      rw [List.length_cons, List.length_append, List.length_cons] at hlen
      refine .around x
        (ih inner.length (by omega) hinner ?_ (fun y z h => huncrossed y z (h.trans hsub)) rfl)
        (ih rest.length (by omega) hrest ?_ (fun y z h => huncrossed y z (h.trans hsub')) rfl)
      · intro y hy
        have hne : y ≠ x := by
          rintro rfl
          rcases hy with hy | hy
          · exact hx (List.mem_append_left _ hy)
          · exact hapart _ hy _ List.mem_cons_self rfl
        refine (hsplit y hne (hpaired y (hy.imp (hsub.subset ·) (hsub.subset ·)))).resolve_right
          fun hpair => ?_
        rcases hy with hy | hy
        · exact hapart _ hy _ (List.mem_cons_of_mem _ (hpair.subset (by simp))) rfl
        · exact hapart _ hy _ (List.mem_cons_of_mem _ (hpair.subset (by simp))) rfl
      · intro y hy
        have hne : y ≠ x := by
          rintro rfl
          rcases hy with hy | hy
          · exact hx (List.mem_append_right _ (List.mem_cons_of_mem _ hy))
          · exact hx' hy
        refine (hsplit y hne (hpaired y (hy.imp (hsub'.subset ·) (hsub'.subset ·)))).resolve_left
          fun hpair => ?_
        rcases hy with hy | hy
        · exact hapart _ (hpair.subset (by simp)) _ (List.mem_cons_of_mem _ hy) rfl
        · exact hapart _ (hpair.subset (by simp)) _ (List.mem_cons_of_mem _ hy) rfl
    · -- Its opening tag would have to stand before it.
      rcases List.cons_sublist_cons'.1 (hpaired x (.inr List.mem_cons_self)) with hpair | ⟨heq, -⟩
      · exact absurd (hpair.subset (List.mem_cons_of_mem _ List.mem_cons_self))
          (List.nodup_cons.1 hnodup).1
      · cases heq

end Graft
