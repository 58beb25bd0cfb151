import Graft.Substitution
import Mathlib.Data.List.Infix

set_option autoImplicit false

/-!
# Replacing text

The pieces of a text are what is left between the leftmost occurrences of another text, each looked
for behind the one before (`LeftmostPieces`). They depend on nothing else, so a replacement is put
between them as it is and not looked at again (`replaceAll_leftmost`). A piece holds no occurrence
itself. If a replacement has no character of the text that it takes the place of, then no occurrence
reaches into it from a piece either, and none is left (`replaceAll_fresh`).
-/

namespace Graft

namespace Text

/-! ## The first occurrence -/

/-- A text is cut around the first occurrence of another. -/
structure FirstCut (needle cs front rest : List Char) : Prop where
  eq_append : cs = front ++ (needle ++ rest)
  first : ∀ front' rest', cs = front' ++ (needle ++ rest') → front.length ≤ front'.length

theorem firstCut_of_start {needle cs rest : List Char} (h : dropStart? cs needle = some rest) :
    FirstCut needle cs [] rest where
  eq_append := by rw [List.nil_append, dropStart?_eq_some_iff.1 h]
  first _ _ _ := Nat.zero_le _

theorem FirstCut.cons {needle cs front rest : List Char} {c : Char}
    (h : FirstCut needle cs front rest) (hstart : dropStart? (c :: cs) needle = none) :
    FirstCut needle (c :: cs) (c :: front) rest where
  eq_append := by rw [h.eq_append, List.cons_append]
  first front' rest' heq := by
    cases front' with
    | nil =>
      -- There is no occurrence at the very start.
      rw [List.nil_append, ← dropStart?_eq_some_iff, hstart] at heq
      cases heq
    | cons d front' =>
      rw [List.cons_append, List.cons.injEq] at heq
      simpa using h.first front' rest' heq.2

theorem firstCut_of_cut? {needle cs front rest : List Char}
    (h : cut? needle cs = some (front, rest)) : FirstCut needle cs front rest := by
  fun_induction cut? needle cs generalizing front with
  | case1 cs rest hstart =>
    cases h
    exact firstCut_of_start hstart
  | case2 => cases h
  | case3 c cs hstart ih =>
    obtain ⟨⟨front, rest⟩, hcut, heq⟩ := Option.map_eq_some_iff.1 h
    cases heq
    exact (ih hcut).cons hstart

theorem not_infix_of_cut? {needle cs : List Char}
    (h : cut? needle cs = none) : ¬needle <:+: cs := by
  fun_induction cut? needle cs with
  | case1 => cases h
  | case2 hstart =>
    intro hinfix
    rw [List.infix_nil.1 hinfix, dropStart?] at hstart
    cases hstart
  | case3 c cs hstart ih =>
    intro hinfix
    rcases List.infix_cons_iff.1 hinfix with ⟨rest, hrest⟩ | hinfix
    · rw [dropStart?_eq_some_iff.2 hrest.symm] at hstart
      cases hstart
    · exact ih (Option.map_eq_none_iff.1 h) hinfix

/-! ## Pieces -/

/-- What is left of a text between the leftmost occurrences of another, each of which is looked for
behind the one before. -/
inductive LeftmostPieces (needle : List Char) : List Char → List (List Char) → Prop where
  | last {cs : List Char} (none : ¬needle <:+: cs) : LeftmostPieces needle cs [cs]
  | cut {cs front rest : List Char} {pieces : List (List Char)}
    (first : FirstCut needle cs front rest)
      (behind : LeftmostPieces needle rest pieces) : LeftmostPieces needle cs (front :: pieces)

/-- The search ends before its fuel does: every occurrence takes a character with it. -/
theorem leftmostPieces_pieces {needle : List Char} (hneedle : needle ≠ []) {fuel : Nat}
    {cs : List Char} (hfuel : cs.length ≤ fuel) :
    LeftmostPieces needle cs (pieces needle fuel cs) := by
  induction fuel generalizing cs with
  | zero =>
    have hnil : cs = [] := List.eq_nil_of_length_eq_zero (Nat.le_zero.1 hfuel)
    subst hnil
    exact .last fun hinfix => hneedle (List.infix_nil.1 hinfix)
  | succ fuel ih =>
    rw [pieces]
    split
    · rename_i front rest hcut
      have hfirst := firstCut_of_cut? hcut
      have hlength := congrArg List.length hfirst.eq_append
      have hpos := List.length_pos_of_ne_nil hneedle
      simp only [List.length_append] at hlength
      exact .cut hfirst (ih (by omega))
    · rename_i hcut
      exact .last (not_infix_of_cut? hcut)

namespace LeftmostPieces

variable {needle cs : List Char} {pieces : List (List Char)}

theorem ne_nil (h : LeftmostPieces needle cs pieces) : pieces ≠ [] := by
  cases h <;> exact List.cons_ne_nil _ _

/-- With the occurrences put back, the pieces make up the text. -/
theorem intercalate_eq (h : LeftmostPieces needle cs pieces) : needle.intercalate pieces = cs := by
  induction h with
  | last none => exact List.intercalate_singleton
  | @cut cs front rest pieces first behind ih =>
    obtain ⟨next, pieces, rfl⟩ := List.exists_cons_of_ne_nil behind.ne_nil
    rw [List.intercalate_cons_cons, ih, first.eq_append, List.append_assoc]

/-- A piece holds no occurrence: it would start before the first one. -/
theorem not_infix_of_mem (h : LeftmostPieces needle cs pieces) (hneedle : needle ≠ [])
    {piece : List Char} (hpiece : piece ∈ pieces) : ¬needle <:+: piece := by
  induction h with
  | last none =>
    rw [List.mem_singleton.1 hpiece]
    exact none
  | @cut cs front rest pieces first behind ih =>
    rcases List.mem_cons.1 hpiece with rfl | hpiece
    · rintro ⟨a, b, rfl⟩
      have hle := first.first a (b ++ (needle ++ rest)) (by simp [first.eq_append])
      have hpos := List.length_pos_of_ne_nil hneedle
      simp only [List.length_append] at hle
      omega
    · exact ih hpiece

end LeftmostPieces

/-! ## Fresh replacements -/

/-- What stands in two texts without a common character is empty. -/
theorem eq_nil_of_fresh {fresh needle part : List Char} (hfresh : ∀ c ∈ fresh, c ∉ needle)
    (h : part ⊆ fresh) (h' : part ⊆ needle) : part = [] :=
  List.eq_nil_iff_forall_not_mem.2 fun c hc => hfresh c (h hc) (h' hc)

/-- An occurrence does not reach into text without a common character, so it lies on one side of
it. -/
theorem infix_beside_fresh {needle fresh a b : List Char} (hfresh : ∀ c ∈ fresh, c ∉ needle)
    (hne : fresh ≠ []) (h : needle <:+: a ++ (fresh ++ b)) : needle <:+: a ∨ needle <:+: b := by
  rcases List.infix_append_iff.1 h with h | h | ⟨left, right, rfl, hleft, hright⟩
  · exact .inl h
  · rcases List.infix_append_iff.1 h with h | h | ⟨left, right, rfl, hleft, hright⟩
    · have hnil := eq_nil_of_fresh hfresh h.subset (List.Subset.refl needle)
      exact .inl (hnil ▸ List.nil_infix)
    · exact .inr h
    · have hnil := eq_nil_of_fresh hfresh hleft.subset (List.subset_append_left left right)
      rw [hnil, List.nil_append]
      exact .inr hright.isInfix
  · -- The part behind `a` starts with the first fresh character, unless it is empty.
    cases right with
    | nil =>
      rw [List.append_nil]
      exact .inl hleft.isInfix
    | cons c right =>
      obtain ⟨d, fresh, rfl⟩ := List.exists_cons_of_ne_nil hne
      rw [List.cons_append, List.cons_prefix_cons] at hright
      obtain ⟨rfl, -⟩ := hright
      exact absurd (List.mem_append_right left List.mem_cons_self) (hfresh c List.mem_cons_self)

/-- Fresh text between pieces without an occurrence makes none. -/
theorem not_infix_intercalate {needle fresh : List Char} (hfresh : ∀ c ∈ fresh, c ∉ needle)
    (hne : fresh ≠ []) (hneedle : needle ≠ []) {pieces : List (List Char)}
    (hpieces : ∀ piece ∈ pieces, ¬needle <:+: piece) : ¬needle <:+: fresh.intercalate pieces := by
  induction pieces with
  | nil => exact fun h => hneedle (List.infix_nil.1 h)
  | cons piece pieces ih =>
    have hpiece := hpieces piece List.mem_cons_self
    have hrest := ih fun piece hmem => hpieces piece (List.mem_cons_of_mem _ hmem)
    cases pieces with
    | nil => rwa [List.intercalate_singleton]
    | cons next pieces =>
      rw [List.intercalate_cons_cons, List.append_assoc]
      intro h
      exact (infix_beside_fresh hfresh hne h).elim hpiece hrest

end Text

open Text

/-! ## Substitution -/

/-- The text of a substitution and its count come from the same pieces, whatever is put between
them. -/
theorem exists_replaceAll_eq_ok {text search : String} (hsearch : search ≠ "")
    (h : search.toList <:+: text.toList) :
    ∃ first next rest, LeftmostPieces search.toList text.toList (first :: next :: rest) ∧
      ∀ replacement : String, replaceAll text search replacement =
        .ok ⟨String.ofList (replacement.toList.intercalate (first :: next :: rest)),
          rest.length + 1⟩ := by
  have hneedle : search.toList ≠ [] := fun hnil => hsearch (String.toList_eq_nil_iff.1 hnil)
  have hpieces := leftmostPieces_pieces hneedle (Nat.le_refl text.toList.length)
  generalize heq : pieces search.toList text.toList.length text.toList = found at hpieces
  cases hpieces with
  | last none => exact absurd h none
  | @cut _ first rest found hfirst behind =>
    obtain ⟨next, rest, rfl⟩ := List.exists_cons_of_ne_nil behind.ne_nil
    refine ⟨first, next, rest, .cut hfirst behind, fun replacement => ?_⟩
    rw [replaceAll, if_neg fun hempty => hsearch (String.isEmpty_iff.1 hempty), heq]
    rfl

theorem replaceAll_eq_notFound {text search : String}
    (h : ¬(search ≠ "" ∧ search.toList <:+: text.toList)) (replacement : String) :
    replaceAll text search replacement = .error (.notFound search) := by
  by_cases hsearch : search = ""
  · rw [replaceAll, if_pos (String.isEmpty_iff.2 hsearch)]
  · have hneedle : search.toList ≠ [] := fun hnil => hsearch (String.toList_eq_nil_iff.1 hnil)
    have hpieces := leftmostPieces_pieces hneedle (Nat.le_refl text.toList.length)
    generalize heq : pieces search.toList text.toList.length text.toList = found at hpieces
    rw [replaceAll, if_neg fun hempty => hsearch (String.isEmpty_iff.1 hempty), heq]
    cases hpieces with
    | last none => rfl
    | cut hfirst behind =>
      exact absurd ⟨hsearch, _, _, by rw [hfirst.eq_append, List.append_assoc]⟩ h

theorem occurs_of_replaceAll {text search replacement : String} {s : Substitution}
    (hs : replaceAll text search replacement = .ok s) :
    search ≠ "" ∧ search.toList <:+: text.toList := by
  by_contra h
  rw [replaceAll_eq_notFound h] at hs
  cases hs

theorem replaceAll_eq_error {text search replacement missing : String}
    (h : replaceAll text search replacement = .error (.notFound missing)) : missing = search := by
  by_cases hoccurs : search ≠ "" ∧ search.toList <:+: text.toList
  · obtain ⟨first, next, rest, -, hok⟩ := exists_replaceAll_eq_ok hoccurs.1 hoccurs.2
    rw [hok] at h
    cases h
  · rw [replaceAll_eq_notFound hoccurs] at h
    cases h
    rfl

/-- **Every occurrence is replaced, from left to right.** A substitution succeeds exactly if there
is something to look for and it occurs. The text is cut into pieces at the leftmost occurrences,
whatever the replacement is, and the replacement is put between the pieces as it is. -/
theorem replaceAll_leftmost (text search : String) :
    (∀ replacement, (∃ s, replaceAll text search replacement = .ok s) ↔
      search ≠ "" ∧ search.toList <:+: text.toList) ∧
    (∀ replacement e, replaceAll text search replacement = .error e → e = .notFound search) ∧
    (∃ first rest, ∀ replacement s, replaceAll text search replacement = .ok s →
      LeftmostPieces search.toList text.toList (first :: rest) ∧
      text.toList = search.toList.intercalate (first :: rest) ∧
      s.text.toList = replacement.toList.intercalate (first :: rest) ∧
      s.occurrences = rest.length ∧ 1 ≤ s.occurrences) ∧
    ∀ s, replaceAll text search search = .ok s → s.text = text := by
  refine ⟨fun replacement => ⟨?_, ?_⟩, ?_, ?_⟩
  · rintro ⟨s, hs⟩
    exact occurs_of_replaceAll hs
  · rintro ⟨hsearch, hoccurs⟩
    obtain ⟨first, next, rest, -, hok⟩ := exists_replaceAll_eq_ok hsearch hoccurs
    exact ⟨_, hok replacement⟩
  · rintro replacement ⟨missing⟩ he
    rw [replaceAll_eq_error he]
  · by_cases h : search ≠ "" ∧ search.toList <:+: text.toList
    · obtain ⟨first, next, rest, hpieces, hok⟩ := exists_replaceAll_eq_ok h.1 h.2
      refine ⟨⟨first, next :: rest, ?_⟩, ?_⟩
      · intro replacement s hs
        rw [hok, Except.ok.injEq] at hs
        subst hs
        exact ⟨hpieces, hpieces.intercalate_eq.symm, String.toList_ofList, rfl,
          Nat.le_add_left 1 rest.length⟩
      · intro s hs
        rw [hok, Except.ok.injEq, hpieces.intercalate_eq, String.ofList_toList] at hs
        rw [← hs]
    · -- Nothing is replaced, so there is nothing to show of any pieces.
      exact ⟨⟨[], [], fun _ _ hs => absurd (occurs_of_replaceAll hs) h⟩,
        fun _ hs => absurd (occurs_of_replaceAll hs) h⟩

-- Occurrences that share a character are not both replaced, and what is put in may hold one.
example : replaceAll "aaaab" "aa" "baa" = .ok ⟨"baabaab", 2⟩ := rfl

/-- **A fresh replacement leaves no occurrence.** -/
theorem replaceAll_fresh (text search replacement : String) (hne : replacement ≠ "")
    (hfresh : ∀ c ∈ replacement.toList, c ∉ search.toList) (s : Substitution)
    (hs : replaceAll text search replacement = .ok s) :
    ¬search.toList <:+: s.text.toList ∧ ∀ again, replaceAll s.text search again =
      .error (.notFound search) := by
  have hoccurs := occurs_of_replaceAll hs
  obtain ⟨first, next, rest, hpieces, hok⟩ := exists_replaceAll_eq_ok hoccurs.1 hoccurs.2
  rw [hok, Except.ok.injEq] at hs
  have hneedle : search.toList ≠ [] := fun hnil => hoccurs.1 (String.toList_eq_nil_iff.1 hnil)
  have hclear : ¬search.toList <:+: s.text.toList := by
    rw [← hs, String.toList_ofList]
    exact not_infix_intercalate hfresh (fun hnil => hne (String.toList_eq_nil_iff.1 hnil)) hneedle
      fun piece => hpieces.not_infix_of_mem hneedle
  exact ⟨hclear, replaceAll_eq_notFound fun hfound => hclear hfound.2⟩

theorem replaceAll_fresh_overlapping :
    replaceAll "ababab" "abab" "x" = .ok ⟨"xab", 1⟩ ∧ ¬"abab".toList <:+: "xab".toList ∧
      ∀ again, replaceAll "xab" "abab" again = .error (.notFound "abab") := by
  have hs : replaceAll "ababab" "abab" "x" = .ok ⟨"xab", 1⟩ := rfl
  exact ⟨hs, replaceAll_fresh "ababab" "abab" "x" (by decide) (by simp) _ hs⟩

end Graft
