import Graft.Text.Lines
import Mathlib.Data.List.TakeWhile

set_option autoImplicit false

/-!
# Lines of a text

What is left of a text without the blanks at its end, and how a text is made up of its lines. Lines
that are joined can be told apart again, since none of them contains a line break
(`lines_append_break`).
-/

namespace Graft.Text

/-! ## Blanks at the end -/

theorem trimEnd_eq_nil_iff {cs : List Char} : trimEnd cs = [] ↔ cs.all isBlank = true := by
  rw [trimEnd, List.reverse_eq_nil_iff, List.dropWhile_eq_nil_iff, List.all_eq_true]
  simp only [List.mem_reverse]

theorem trimEnd_append (a b : List Char) :
    trimEnd (a ++ b) = if b.all isBlank then trimEnd a else a ++ trimEnd b := by
  have hblank : (b.reverse.dropWhile isBlank).isEmpty = b.all isBlank := by
    rw [Bool.eq_iff_iff, List.isEmpty_iff, ← trimEnd_eq_nil_iff, trimEnd, List.reverse_eq_nil_iff]
  rw [trimEnd, List.reverse_append, List.dropWhile_append, hblank]
  split
  · rfl
  · rw [List.reverse_append, List.reverse_reverse]
    rfl

theorem exists_eq_trimEnd_append (cs : List Char) : ∃ blanks, cs = trimEnd cs ++ blanks := by
  refine ⟨(cs.reverse.takeWhile isBlank).reverse, ?_⟩
  rw [trimEnd, ← List.reverse_append, List.takeWhile_append_dropWhile, List.reverse_reverse]

theorem mem_of_mem_trimEnd {cs : List Char} {c : Char} (h : c ∈ trimEnd cs) : c ∈ cs :=
  List.mem_reverse.1 ((List.dropWhile_sublist _).mem (List.mem_reverse.1 h))

/-- What is left without blanks at the end does not end with a blank. -/
theorem isBlank_of_getLast?_trimEnd {cs : List Char} {c : Char}
    (h : (trimEnd cs).getLast? = some c) : isBlank c = false := by
  rw [trimEnd, List.getLast?_reverse] at h
  have hblank := List.head?_dropWhile_not isBlank cs.reverse
  rwa [h] at hblank

theorem getLast?_trimEnd_ne (cs : List Char) : (trimEnd cs).getLast? ≠ some '\r' := by
  intro h
  exact absurd (isBlank_of_getLast?_trimEnd h) (by decide)

/-- A text that does not end with a blank is left as it is. -/
theorem trimEnd_of_getLast? {cs : List Char} {c : Char} (h : cs.getLast? = some c)
    (hc : isBlank c = false) : trimEnd cs = cs := by
  rw [← List.head?_reverse] at h
  obtain ⟨rest, hrest⟩ := List.head?_eq_some_iff.1 h
  rw [trimEnd, hrest, List.dropWhile_cons_of_neg (by simp [hc]), ← hrest, List.reverse_reverse]

theorem trimEnd_trimEnd (cs : List Char) : trimEnd (trimEnd cs) = trimEnd cs := by
  cases hlast : (trimEnd cs).getLast? with
  | none => rw [List.getLast?_eq_none_iff.1 hlast]; rfl
  | some c => exact trimEnd_of_getLast? hlast (isBlank_of_getLast?_trimEnd hlast)

/-! ## Cutting a text into lines -/

theorem takeWhile_of_not_mem {cs rest : List Char} (h : '\n' ∉ cs)
    (hrest : rest = [] ∨ rest.head? = some '\n') : (cs ++ rest).takeWhile (· != '\n') = cs := by
  have hall : ∀ c ∈ cs, (c != '\n') = true := by
    intro c hc
    exact bne_iff_ne.2 fun heq => h (heq ▸ hc)
  rw [List.takeWhile_append_of_pos hall]
  rcases hrest with rfl | hrest
  · simp
  · obtain ⟨rest, rfl⟩ := List.head?_eq_some_iff.1 hrest
    simp

theorem not_mem_of_mem_lines {cs line : List Char} (h : line ∈ lines cs) : '\n' ∉ line := by
  induction cs generalizing line with
  | nil => exact absurd h List.not_mem_nil
  | cons c cs ih =>
    rw [lines] at h
    split at h
    · rcases List.mem_cons.1 h with rfl | h
      · exact List.not_mem_nil
      · exact ih h
    · rename_i hc
      have hc : c ≠ '\n' := by simpa using hc
      split at h
      · rw [List.mem_singleton.1 h, List.mem_singleton]
        exact hc.symm
      · rename_i first rest hlines
        rcases List.mem_cons.1 h with rfl | h
        · rw [List.mem_cons, not_or]
          exact ⟨hc.symm, ih (hlines ▸ List.mem_cons_self)⟩
        · exact ih (hlines ▸ List.mem_cons_of_mem _ h)

theorem lines_cons_break (cs : List Char) : lines ('\n' :: cs) = [] :: lines cs := by
  rw [lines]
  rfl

theorem lines_cons_of_ne {c : Char} (h : c ≠ '\n') (cs : List Char) :
    lines (c :: cs) = (c :: (lines cs).headD []) :: (lines cs).tail := by
  rw [lines, if_neg (by simpa using h)]
  cases lines cs <;> rfl

theorem lines_of_not_mem {line : List Char} (h : '\n' ∉ line)
    (hne : line ≠ []) : lines line = [line] := by
  induction line with
  | nil => exact absurd rfl hne
  | cons c line ih =>
    rw [List.mem_cons, not_or] at h
    rw [lines_cons_of_ne (Ne.symm h.1)]
    by_cases hnil : line = []
    · subst hnil
      rfl
    · rw [ih h.2 hnil]
      rfl

/-- The first line of a text ends with the first line break. -/
theorem lines_append_break {line : List Char} (h : '\n' ∉ line) (cs : List Char) :
    lines (line ++ '\n' :: cs) = line :: lines cs := by
  induction line with
  | nil => exact lines_cons_break cs
  | cons c line ih =>
    rw [List.mem_cons, not_or] at h
    rw [List.cons_append, lines_cons_of_ne (Ne.symm h.1), ih h.2]
    rfl

/-- There are line breaks between lines. -/
theorem length_lines_le (cs : List Char) : (lines cs).length ≤ cs.count '\n' + 1 := by
  induction cs with
  | nil => exact Nat.zero_le _
  | cons c cs ih =>
    by_cases hc : c = '\n'
    · rw [hc, lines_cons_break, List.length_cons, List.count_cons_self]
      omega
    · rw [lines_cons_of_ne hc, List.length_cons, List.length_tail, List.count_cons_of_ne hc]
      omega

/-- A text that does not end with a line break consists of its lines. -/
theorem intercalate_lines {cs : List Char} (h : cs.getLast? ≠ some '\n') :
    ['\n'].intercalate (lines cs) = cs := by
  induction cs with
  | nil => rfl
  | cons c cs ih =>
    by_cases hnil : cs = []
    · subst hnil
      have hc : c ≠ '\n' := fun hc => h (by rw [hc]; rfl)
      rw [lines_cons_of_ne hc]
      rfl
    · rw [List.getLast?_cons_of_ne_nil hnil] at h
      have hcs := ih h
      obtain ⟨first, rest, hlines⟩ : ∃ first rest, lines cs = first :: rest := by
        cases hlines : lines cs with
        | nil =>
          rw [hlines] at hcs
          exact absurd hcs.symm hnil
        | cons first rest => exact ⟨first, rest, rfl⟩
      rw [hlines] at hcs
      by_cases hc : c = '\n'
      · rw [hc, lines_cons_break, hlines, List.intercalate_cons_cons, hcs]
        rfl
      · rw [lines_cons_of_ne hc, hlines]
        cases rest with
        | nil =>
          rw [List.intercalate_singleton] at hcs
          simp [hcs]
        | cons second rest =>
          rw [List.intercalate_cons_cons] at hcs
          simp [List.intercalate_cons_cons, ← hcs]

end Graft.Text
