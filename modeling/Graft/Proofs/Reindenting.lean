import Graft.Proofs.Lines

set_option autoImplicit false

/-!
# Indenting a block

A block is taken apart into lines, the lines are shifted, and they are joined again. The lines of
the result are the shifted lines (`map_trimEnd_lines_intercalate`), of which the least indented now
has exactly the new indentation (`commonIndent_map_shifted`). So a block that is indented twice
stays as it is, with two exceptions: line breaks around a block are taken off, but not lines of
blanks, which then become line breaks at the start or end of the result; and without indentation a
first line may come to start with a carriage return.
-/

namespace Graft.Text

/-! ## Kinds of blanks -/

theorem isBlank_of_isSpaceOrTab {c : Char} (h : isSpaceOrTab c = true) : isBlank c = true := by
  rcases Bool.or_eq_true_iff.1 h with h | h <;> rw [beq_iff_eq.1 h] <;> rfl

theorem isBlank_of_isLineBreak {c : Char} (h : isLineBreak c = true) : isBlank c = true := by
  rcases Bool.or_eq_true_iff.1 h with h | h <;> rw [beq_iff_eq.1 h] <;> rfl

theorem isLineBreak_of_isSpaceOrTab {c : Char}
    (h : isSpaceOrTab c = true) : isLineBreak c = false := by
  rcases Bool.or_eq_true_iff.1 h with h | h <;> rw [beq_iff_eq.1 h] <;> rfl

/-! ## Joined lines -/

/-- The ways in which a line ends. -/
def IsLineEnding (eol : List Char) : Prop := eol = ['\n'] ∨ eol = ['\r', '\n']

theorem IsLineEnding.exists_returns {eol : List Char} (h : IsLineEnding eol) :
    ∃ returns, eol = returns ++ ['\n'] ∧ '\n' ∉ returns ∧ returns.all isBlank = true ∧
      ∀ c ∈ eol, isLineBreak c = true := by
  rcases h with rfl | rfl
  · exact ⟨[], rfl, List.not_mem_nil, rfl, List.all_eq_true.1 rfl⟩
  · exact ⟨['\r'], rfl, by decide, rfl, List.all_eq_true.1 rfl⟩

/-- A line without its break and without blanks at its end. -/
structure IsTrimmed (line : List Char) : Prop where
  unbroken : '\n' ∉ line
  trimmed : trimEnd line = line

namespace IsTrimmed

theorem nil : IsTrimmed [] := ⟨List.not_mem_nil, rfl⟩

theorem all_isBlank_iff {line : List Char} (h : IsTrimmed line) :
    line.all isBlank = true ↔ line = [] := by
  rw [← trimEnd_eq_nil_iff, h.trimmed]

theorem exists_getLast? {line : List Char} (h : IsTrimmed line) (hne : line ≠ []) :
    ∃ c, line.getLast? = some c ∧ isBlank c = false := by
  cases hlast : line.getLast? with
  | none => exact absurd (List.getLast?_eq_none_iff.1 hlast) hne
  | some c =>
    rw [← h.trimmed] at hlast
    exact ⟨c, rfl, isBlank_of_getLast?_trimEnd hlast⟩

/-- The rest of a line, if it is not empty, is as good as the line. -/
theorem drop {line : List Char} (h : IsTrimmed line) {n : Nat}
    (hn : n < line.length) : IsTrimmed (line.drop n) := by
  obtain ⟨c, hlast, hc⟩ := h.exists_getLast? (List.ne_nil_of_length_pos (Nat.zero_lt_of_lt hn))
  have hrest : (line.drop n).getLast? = some c := by
    rw [List.getLast?_drop, if_neg (by omega), hlast]
  exact ⟨fun hmem => h.unbroken (List.mem_of_mem_drop hmem), trimEnd_of_getLast? hrest hc⟩

theorem append {line indent : List Char} (h : IsTrimmed line) (hne : line ≠ [])
    (hindent : '\n' ∉ indent) : IsTrimmed (indent ++ line) := by
  obtain ⟨c, hlast, hc⟩ := h.exists_getLast? hne
  have hjoined : (indent ++ line).getLast? = some c := by
    rw [List.getLast?_append, hlast, Option.some_or]
  exact ⟨by simp [hindent, h.unbroken], trimEnd_of_getLast? hjoined hc⟩

end IsTrimmed

theorem isTrimmed_of_mem_blockLines {cs line : List Char}
    (h : line ∈ blockLines cs) : IsTrimmed line := by
  obtain ⟨full, hfull, rfl⟩ := List.mem_map.1 h
  exact ⟨fun hmem => not_mem_of_mem_lines hfull (mem_of_mem_trimEnd hmem), trimEnd_trimEnd full⟩

/-- Joined lines end with the last one. -/
theorem intercalate_eq_append_last (eol : List Char) {parts : List (List Char)} {last : List Char}
    (hlast : parts.getLast? = some last) :
    ∃ front, eol.intercalate parts = front ++ last ∧
      (front = [] ∧ parts = [last] ∨ ∃ rest, front = rest ++ eol) := by
  induction parts with
  | nil => cases hlast
  | cons p parts ih =>
    cases parts with
    | nil =>
      obtain rfl : p = last := by simpa using hlast
      exact ⟨[], List.intercalate_singleton, .inl ⟨rfl, rfl⟩⟩
    | cons q parts =>
      rw [List.getLast?_cons_cons] at hlast
      obtain ⟨front, hfront, hbreak⟩ := ih hlast
      refine ⟨p ++ eol ++ front,
        by rw [List.intercalate_cons_cons, hfront, List.append_assoc _ front], .inr ?_⟩
      rcases hbreak with ⟨rfl, -⟩ | ⟨rest, rfl⟩
      · exact ⟨p, List.append_nil _⟩
      · exact ⟨p ++ eol ++ rest, (List.append_assoc _ _ _).symm⟩

theorem getLast?_intercalate (eol : List Char) {parts : List (List Char)} {last : List Char}
    (hne : last ≠ []) (hlast : parts.getLast? = some last) :
    (eol.intercalate parts).getLast? = last.getLast? := by
  obtain ⟨front, hfront, -⟩ := intercalate_eq_append_last eol hlast
  obtain ⟨c, hc⟩ := Option.ne_none_iff_exists'.1 (mt List.getLast?_eq_none_iff.1 hne)
  rw [hfront, List.getLast?_append, hc, Option.some_or]

section Joined

variable {eol : List Char} (heol : IsLineEnding eol)

include heol

/-- **Lines that are joined can be told apart again.** -/
theorem map_trimEnd_lines_intercalate {parts : List (List Char)} (hparts : ∀ p ∈ parts, IsTrimmed p)
    (hlast : parts.getLast? ≠ some []) : (lines (eol.intercalate parts)).map trimEnd = parts := by
  obtain ⟨returns, rfl, hreturns, hblank, -⟩ := heol.exists_returns
  induction parts with
  | nil => rfl
  | cons p parts ih =>
    have hp := hparts p List.mem_cons_self
    cases parts with
    | nil =>
      have hne : p ≠ [] := fun h => hlast (by rw [h]; rfl)
      rw [List.intercalate_singleton, lines_of_not_mem hp.unbroken hne,
        List.map_singleton, hp.trimmed]
    | cons q parts =>
      rw [List.getLast?_cons_cons] at hlast
      have hline : '\n' ∉ p ++ returns := by simp [hp.unbroken, hreturns]
      have hcut : p ++ (returns ++ ['\n']) ++ (returns ++ ['\n']).intercalate (q :: parts) =
          (p ++ returns) ++ '\n' :: (returns ++ ['\n']).intercalate (q :: parts) := by simp
      rw [List.intercalate_cons_cons, hcut, lines_append_break hline, List.map_cons, trimEnd_append,
        if_pos hblank, hp.trimmed, ih (fun q hq => hparts q (List.mem_cons_of_mem p hq)) hlast]

theorem intercalate_inj {parts parts' : List (List Char)} (hparts : ∀ p ∈ parts, IsTrimmed p)
    (hlast : parts.getLast? ≠ some []) (hparts' : ∀ p ∈ parts', IsTrimmed p)
    (hlast' : parts'.getLast? ≠ some [])
    (h : eol.intercalate parts = eol.intercalate parts') : parts = parts' := by
  rw [← map_trimEnd_lines_intercalate heol hparts hlast, h,
    map_trimEnd_lines_intercalate heol hparts' hlast']

theorem count_intercalate {parts : List (List Char)} (hparts : ∀ p ∈ parts, '\n' ∉ p) :
    (eol.intercalate parts).count '\n' = parts.length - 1 := by
  obtain ⟨returns, rfl, hreturns, -⟩ := heol.exists_returns
  induction parts with
  | nil => rfl
  | cons p parts ih =>
    have hp : p.count '\n' = 0 := List.count_eq_zero_of_not_mem (hparts p List.mem_cons_self)
    cases parts with
    | nil => simpa using hp
    | cons q parts =>
      have hrest := ih fun q hq => hparts q (List.mem_cons_of_mem p hq)
      have hbreak : returns.count '\n' = 0 := List.count_eq_zero_of_not_mem hreturns
      rw [List.intercalate_cons_cons, List.count_append, List.count_append,
        List.count_append, hp, hbreak, hrest]
      simp only [List.length_cons, List.count_singleton_self]
      omega

theorem mem_intercalate_iff {parts : List (List Char)} (hparts : ∀ p ∈ parts, '\n' ∉ p) :
    '\n' ∈ eol.intercalate parts ↔ 2 ≤ parts.length := by
  rw [← List.count_pos_iff, count_intercalate heol hparts]
  omega

end Joined

/-! ## Shifted lines -/

/-- How far a line is indented. -/
def indentation (line : List Char) : Nat := (line.takeWhile isSpaceOrTab).length

theorem indentation_append {indent : List Char} (hindent : ∀ c ∈ indent, isSpaceOrTab c = true)
    (line : List Char) : indentation (indent ++ line) = indent.length + indentation line := by
  rw [indentation, List.takeWhile_append_of_pos hindent, List.length_append, indentation]

/-- Nothing is left of the indentation if it is taken off. -/
theorem indentation_drop_indentation (line : List Char) :
    indentation (line.drop (indentation line)) = 0 := by
  induction line with
  | nil => rfl
  | cons c line ih =>
    by_cases hc : isSpaceOrTab c = true
    · have hcount : indentation (c :: line) = indentation line + 1 := by
        simp [indentation, List.takeWhile_cons_of_pos hc]
      rw [hcount, List.drop_succ_cons, ih]
    · have hcount : indentation (c :: line) = 0 := by
        simp [indentation, List.takeWhile_cons_of_neg hc]
      rw [hcount, List.drop_zero, hcount]

theorem IsTrimmed.indentation_lt_length {line : List Char} (h : IsTrimmed line) (hne : line ≠ []) :
    indentation line < line.length := by
  obtain ⟨c, hlast, hc⟩ := h.exists_getLast? hne
  have hle : indentation line ≤ line.length := (List.takeWhile_sublist _).length_le
  refine Nat.lt_of_le_of_ne hle ?_
  intro heq
  -- Else the last character is part of the indentation.
  have hall : line.takeWhile isSpaceOrTab = line := (List.takeWhile_sublist _).eq_of_length heq
  have hblank : isSpaceOrTab c = true := by
    have hmem := List.mem_of_getLast? hlast
    rw [← hall] at hmem
    exact List.mem_takeWhile_imp hmem
  rw [isBlank_of_isSpaceOrTab hblank] at hc
  cases hc

theorem commonIndent_eq_iff {ls : List (List Char)} (hne : ∃ line ∈ ls, line ≠ []) {n : Nat} :
    commonIndent ls = n ↔
      (∃ line ∈ ls, line ≠ [] ∧ indentation line = n) ∧
        ∀ line ∈ ls, line ≠ [] → n ≤ indentation line := by
  have hmem : ∀ m, m ∈ (ls.filter (!·.isEmpty)).map indentation ↔
      ∃ line ∈ ls, line ≠ [] ∧ indentation line = m := by
    intro m
    simp [and_assoc]
  cases hmin : ((ls.filter (!·.isEmpty)).map indentation).min? with
  | none =>
    obtain ⟨line, hline, hne⟩ := hne
    have hnone := (hmem (indentation line)).2 ⟨line, hline, hne, rfl⟩
    rw [List.min?_eq_none_iff.1 hmin] at hnone
    exact absurd hnone List.not_mem_nil
  | some m =>
    have hcommon : commonIndent ls = m := congrArg (Option.getD · 0) hmin
    have hleast : ∀ m, ((ls.filter (!·.isEmpty)).map indentation).min? = some m ↔
        (∃ line ∈ ls, line ≠ [] ∧ indentation line = m) ∧
          ∀ line ∈ ls, line ≠ [] → m ≤ indentation line := by
      intro m
      rw [List.min?_eq_some_iff, hmem]
      refine and_congr_right fun _ => ⟨fun h line hline hne => ?_, fun h k hk => ?_⟩
      · exact h _ ((hmem _).2 ⟨line, hline, hne, rfl⟩)
      · obtain ⟨line, hline, hne, rfl⟩ := (hmem k).1 hk
        exact h line hline hne
    rw [hcommon, ← hleast, hmin, Option.some_inj]

/-- A line with another indentation in place of the first `common` characters. -/
def shifted (indent : List Char) (common : Nat) (line : List Char) : List Char :=
  if line.isEmpty then [] else indent ++ line.drop common

@[simp] theorem shifted_nil (indent : List Char) (common : Nat) :
    shifted indent common [] = [] := rfl

theorem shifted_of_ne {indent line : List Char} {common : Nat} (h : line ≠ []) :
    shifted indent common line = indent ++ line.drop common := by
  rw [shifted, if_neg (by simpa using h)]

theorem reindent_eq (cs indent eol : List Char) : reindent cs indent eol =
    eol.intercalate ((blockLines cs).map (shifted indent (commonIndent (blockLines cs)))) := rfl

section Shifted

variable {ls : List (List Char)} (hls : ∀ line ∈ ls, IsTrimmed line)
  {line : List Char} (hline : line ∈ ls)

include hls hline

theorem commonIndent_lt_length (hne : line ≠ []) : commonIndent ls < line.length :=
  Nat.lt_of_le_of_lt (((commonIndent_eq_iff ⟨line, hline, hne⟩).1 rfl).2 line hline hne)
    ((hls line hline).indentation_lt_length hne)

variable {indent : List Char}

theorem shifted_eq_nil_iff : shifted indent (commonIndent ls) line = [] ↔ line = [] := by
  constructor
  · intro h
    by_contra hne
    rw [shifted_of_ne hne, List.append_eq_nil_iff, List.drop_eq_nil_iff] at h
    have hlt := commonIndent_lt_length hls hline hne
    omega
  · rintro rfl
    rfl

theorem isTrimmed_shifted (hindent : ∀ c ∈ indent, isSpaceOrTab c = true) :
    IsTrimmed (shifted indent (commonIndent ls) line) := by
  by_cases hne : line = []
  · rw [hne, shifted_nil]
    exact .nil
  · have hlt := commonIndent_lt_length hls hline hne
    have hbreak : '\n' ∉ indent := fun h => absurd (hindent _ h) (by decide)
    rw [shifted_of_ne hne]
    refine ((hls line hline).drop hlt).append ?_ hbreak
    rw [Ne, List.drop_eq_nil_iff]
    omega

end Shifted

/-- **The least indented of the shifted lines has the new indentation.** -/
theorem commonIndent_map_shifted {ls : List (List Char)} (hls : ∀ line ∈ ls, IsTrimmed line)
    (hne : ∃ line ∈ ls, line ≠ []) {indent : List Char}
    (hindent : ∀ c ∈ indent, isSpaceOrTab c = true) :
    commonIndent (ls.map (shifted indent (commonIndent ls))) = indent.length := by
  have hmoved : ∀ line ∈ ls, line ≠ [] → shifted indent (commonIndent ls) line ≠ [] := by
    intro line hline hfilled
    rwa [Ne, shifted_eq_nil_iff hls hline]
  obtain ⟨least, hleast, hfilled, hcommon⟩ := ((commonIndent_eq_iff hne).1 rfl).1
  have hmem : shifted indent (commonIndent ls) least ∈ ls.map (shifted indent (commonIndent ls)) :=
    List.mem_map_of_mem hleast
  refine (commonIndent_eq_iff ⟨_, hmem, hmoved least hleast hfilled⟩).2
    ⟨⟨_, hmem, hmoved least hleast hfilled, ?_⟩, ?_⟩
  · rw [shifted_of_ne hfilled, indentation_append hindent, ← hcommon,
      indentation_drop_indentation, Nat.add_zero]
  · intro line hline hfilled
    obtain ⟨old, -, rfl⟩ := List.mem_map.1 hline
    have hold : old ≠ [] := fun h => hfilled (by rw [h, shifted_nil])
    rw [shifted_of_ne hold, indentation_append hindent]
    exact Nat.le_add_right _ _

/-- A line that has been shifted to an indentation stays there. -/
theorem shifted_shifted (indent : List Char) (common : Nat) (line : List Char) :
    shifted indent indent.length (shifted indent common line) = shifted indent common line := by
  by_cases hne : shifted indent common line = []
  · rw [hne, shifted_nil]
  · have hline : line ≠ [] := fun h => hne (by rw [h, shifted_nil])
    rw [shifted_of_ne hne, shifted_of_ne hline, List.drop_left]

/-! ## Line breaks around a block -/

/-- A text without the line breaks around it. -/
def trimBreaks (cs : List Char) : List Char :=
  ((cs.dropWhile isLineBreak).reverse.dropWhile isLineBreak).reverse

theorem blockLines_eq (cs : List Char) : blockLines cs = (lines (trimBreaks cs)).map trimEnd := rfl

theorem trimBreaks_sublist (cs : List Char) : (trimBreaks cs).Sublist cs := by
  have hback := ((cs.dropWhile isLineBreak).reverse.dropWhile_sublist isLineBreak).reverse
  rw [List.reverse_reverse] at hback
  exact hback.trans (List.dropWhile_sublist _)

theorem trimBreaks_append_left {breaks : List Char} (h : ∀ c ∈ breaks, isLineBreak c = true)
    (cs : List Char) : trimBreaks (breaks ++ cs) = trimBreaks cs := by
  rw [trimBreaks, List.dropWhile_append_of_pos h, trimBreaks]

theorem trimBreaks_append_right_sublist {breaks : List Char}
    (h : ∀ c ∈ breaks, isLineBreak c = true) (cs : List Char) :
    (trimBreaks (cs ++ breaks)).Sublist cs := by
  have hnone : breaks.dropWhile isLineBreak = [] := List.dropWhile_eq_nil_iff.2 h
  have hback : ∀ c ∈ breaks.reverse, isLineBreak c = true := fun c hc => h c (List.mem_reverse.1 hc)
  rw [trimBreaks, List.dropWhile_append]
  split
  · rw [hnone]
    exact List.nil_sublist cs
  · rw [List.reverse_append, List.dropWhile_append_of_pos hback]
    exact trimBreaks_sublist cs

theorem getLast?_trimBreaks_ne (cs : List Char) : (trimBreaks cs).getLast? ≠ some '\n' := by
  rw [trimBreaks, List.getLast?_reverse]
  intro h
  have hbreak := List.head?_dropWhile_not isLineBreak (cs.dropWhile isLineBreak).reverse
  rw [h] at hbreak
  exact absurd hbreak (by decide)

/-- Of a text that does not end with a line break, only those at the start are taken off. -/
theorem trimBreaks_of_getLast? {cs : List Char} {c : Char} (h : cs.getLast? = some c)
    (hc : isLineBreak c = false) : trimBreaks cs = cs.dropWhile isLineBreak := by
  obtain ⟨front, rfl⟩ := List.getLast?_eq_some_iff.1 h
  have hlast : [c].dropWhile isLineBreak = [c] := List.dropWhile_cons_of_neg (by simp [hc])
  have hend : ∃ rest, ((front ++ [c]).dropWhile isLineBreak) = rest ++ [c] := by
    rw [List.dropWhile_append]
    split
    · exact ⟨[], hlast⟩
    · exact ⟨_, rfl⟩
  obtain ⟨rest, hrest⟩ := hend
  rw [trimBreaks, hrest, List.reverse_append, List.reverse_singleton, List.singleton_append,
    List.dropWhile_cons_of_neg (by simp [hc]), List.reverse_cons, List.reverse_reverse]

/-- What line breaks are taken off at the start of a line leave something of it. -/
theorem IsTrimmed.dropWhile_isLineBreak {line : List Char} (h : IsTrimmed line) (hne : line ≠ []) :
    IsTrimmed (line.dropWhile isLineBreak) ∧ line.dropWhile isLineBreak ≠ [] := by
  obtain ⟨c, hlast, hc⟩ := h.exists_getLast? hne
  have hrest : line.dropWhile isLineBreak ≠ [] := by
    intro hnil
    have hall := List.dropWhile_eq_nil_iff.1 hnil c (List.mem_of_getLast? hlast)
    rw [isBlank_of_isLineBreak hall] at hc
    cases hc
  have hsuffix : (line.dropWhile isLineBreak).getLast? = some c := by
    have hsplit := List.takeWhile_append_dropWhile (p := isLineBreak) (l := line)
    rw [← hsplit, List.getLast?_append] at hlast
    obtain ⟨last, hlast'⟩ := Option.ne_none_iff_exists'.1 (mt List.getLast?_eq_none_iff.1 hrest)
    rw [hlast', Option.some_or] at hlast
    rw [hlast', hlast]
  exact ⟨⟨fun hmem => h.unbroken ((List.dropWhile_sublist _).mem hmem),
    trimEnd_of_getLast? hsuffix hc⟩, hrest⟩

theorem getLast?_cons_ne_nil {p q : List Char} {parts : List (List Char)}
    (h : (p :: parts).getLast? ≠ some []) (hq : q ≠ []) : (q :: parts).getLast? ≠ some [] := by
  cases parts with
  | nil => simpa using hq
  | cons _ _ => rwa [List.getLast?_cons_cons] at h ⊢

/-- The lines of a block of joined lines: only the first may lose something. -/
theorem blockLines_intercalate {eol : List Char} (heol : IsLineEnding eol) {p : List Char}
    {parts : List (List Char)} (hparts : ∀ q ∈ p :: parts, IsTrimmed q) (hfirst : p ≠ [])
    (hlast : (p :: parts).getLast? ≠ some []) :
    blockLines (eol.intercalate (p :: parts)) = p.dropWhile isLineBreak :: parts := by
  obtain ⟨htrimmed, hrest⟩ := (hparts p List.mem_cons_self).dropWhile_isLineBreak hfirst
  have hdrop : (eol.intercalate (p :: parts)).dropWhile isLineBreak =
      eol.intercalate (p.dropWhile isLineBreak :: parts) := by
    have hkept : ¬(p.dropWhile isLineBreak).isEmpty = true := by simpa using hrest
    cases parts with
    | nil => rw [List.intercalate_singleton, List.intercalate_singleton]
    | cons q parts =>
      rw [List.intercalate_cons_cons, List.intercalate_cons_cons, List.append_assoc,
        List.dropWhile_append, if_neg hkept, List.append_assoc]
  -- The text ends as the last line does, which is not with a line break.
  obtain ⟨last, heq⟩ : ∃ last, (p :: parts).getLast? = some last :=
    ⟨_, List.getLast?_eq_some_getLast (by simp)⟩
  have hne : last ≠ [] := fun h => hlast (by rw [heq, h])
  obtain ⟨c, hc, hblank⟩ := (hparts last (List.mem_of_getLast? heq)).exists_getLast? hne
  have hend := (getLast?_intercalate eol hne heq).trans hc
  have hbreak : isLineBreak c = false := Bool.eq_false_iff.2 fun h => by
    simp [isBlank_of_isLineBreak h] at hblank
  rw [blockLines_eq, trimBreaks_of_getLast? hend hbreak, hdrop]
  refine map_trimEnd_lines_intercalate heol ?_ (getLast?_cons_ne_nil hlast hrest)
  intro q hq
  rcases List.mem_cons.1 hq with rfl | hq
  · exact htrimmed
  · exact hparts q (List.mem_cons_of_mem p hq)

/-! ## Blank lines at the ends -/

/-- Whether the first line of a text is blank. -/
def startsBlank (cs : List Char) : Bool := (cs.takeWhile (· != '\n')).all isBlank

/-- Whether the last line of a text is blank. -/
def endsBlank (cs : List Char) : Bool := (cs.reverse.takeWhile (· != '\n')).all isBlank

/-- A text is empty, or neither its first nor its last line is blank. -/
def HasFirmEnds (cs : List Char) : Prop := cs = [] ∨ startsBlank cs = false ∧ endsBlank cs = false

instance (cs : List Char) : Decidable (HasFirmEnds cs) := inferInstanceAs (Decidable (_ ∨ _))

/-- Of several lines, the first or the last one is empty. -/
def PaddedLines (ls : List (List Char)) : Prop :=
  2 ≤ ls.length ∧ (ls.head? = some [] ∨ ls.getLast? = some [])

section Ends

variable {eol : List Char} (heol : IsLineEnding eol)

include heol

theorem startsBlank_intercalate {p : List Char} (hp : '\n' ∉ p) (parts : List (List Char)) :
    startsBlank (eol.intercalate (p :: parts)) = p.all isBlank := by
  obtain ⟨returns, rfl, hreturns, hblank, -⟩ := heol.exists_returns
  cases parts with
  | nil =>
    have hline := takeWhile_of_not_mem hp (.inl rfl)
    rw [List.append_nil] at hline
    rw [List.intercalate_singleton, startsBlank, hline]
  | cons q parts =>
    have hcut : p ++ (returns ++ ['\n']) ++ (returns ++ ['\n']).intercalate (q :: parts) =
        (p ++ returns) ++ '\n' :: (returns ++ ['\n']).intercalate (q :: parts) := by simp
    rw [List.intercalate_cons_cons, hcut, startsBlank,
      takeWhile_of_not_mem (by simp [hp, hreturns]) (.inr rfl), List.all_append,
      hblank, Bool.and_true]

theorem endsBlank_intercalate {parts : List (List Char)} {last : List Char}
    (hlast : parts.getLast? = some last) (hopen : '\n' ∉ last) :
    endsBlank (eol.intercalate parts) = last.all isBlank := by
  obtain ⟨front, hfront, hbreak⟩ := intercalate_eq_append_last eol hlast
  have hbefore : front.reverse = [] ∨ front.reverse.head? = some '\n' := by
    rcases hbreak with ⟨rfl, -⟩ | ⟨rest, rfl⟩
    · exact .inl rfl
    · obtain ⟨returns, rfl, -⟩ := heol.exists_returns
      exact .inr (by simp)
  have hback : '\n' ∉ last.reverse := fun h => hopen (List.mem_reverse.1 h)
  rw [hfront, endsBlank, List.reverse_append, takeWhile_of_not_mem hback hbefore, List.all_reverse]

/-- A text of several lines has a blank one at an end if one of the lines at its ends is empty
without blanks. -/
theorem blank_end_iff {parts : List (List Char)} (hparts : ∀ p ∈ parts, '\n' ∉ p) :
    '\n' ∈ eol.intercalate parts ∧
        (startsBlank (eol.intercalate parts) = true ∨ endsBlank (eol.intercalate parts) = true) ↔
      PaddedLines (parts.map trimEnd) := by
  rw [mem_intercalate_iff heol hparts, PaddedLines, List.length_map]
  refine and_congr_right fun hlength => ?_
  cases parts with
  | nil => simp at hlength
  | cons p parts =>
    obtain ⟨last, hlast⟩ : ∃ last, (p :: parts).getLast? = some last :=
      ⟨_, List.getLast?_eq_some_getLast (by simp)⟩
    rw [startsBlank_intercalate heol (hparts p List.mem_cons_self),
      endsBlank_intercalate heol hlast (hparts last (List.mem_of_getLast? hlast)),
      List.map_cons, List.head?_cons,
      ← List.map_cons, List.getLast?_map, hlast, Option.map_some, Option.some_inj, Option.some_inj,
      trimEnd_eq_nil_iff, trimEnd_eq_nil_iff]

/-- **Joined lines have firm ends** unless there are empty ones at the ends. -/
theorem hasFirmEnds_intercalate_iff {parts : List (List Char)} (hparts : ∀ p ∈ parts, IsTrimmed p) :
    HasFirmEnds (eol.intercalate parts) ↔ ¬PaddedLines parts := by
  have htrimmed : parts.map trimEnd = parts :=
    (List.map_congr_left fun p hp => (hparts p hp).trimmed).trans (List.map_id' parts)
  have hopen : ∀ p ∈ parts, '\n' ∉ p := fun p hp => (hparts p hp).unbroken
  have hpadded := blank_end_iff heol hopen
  rw [htrimmed] at hpadded
  by_cases hbreak : '\n' ∈ eol.intercalate parts
  · have hne : eol.intercalate parts ≠ [] := List.ne_nil_of_mem hbreak
    simp [← hpadded, HasFirmEnds, hbreak, hne]
  · refine iff_of_true ?_ fun h => hbreak (hpadded.2 h).1
    rw [mem_intercalate_iff heol hopen] at hbreak
    cases parts with
    | nil => exact .inl rfl
    | cons p rest =>
      obtain rfl : rest = [] := by
        cases rest with
        | nil => rfl
        | cons q rest => exact absurd (by simp) hbreak
      by_cases hp : p = []
      · exact .inl (by rw [hp]; rfl)
      · have hfilled : p.all isBlank = false := by
          rw [← Bool.not_eq_true, (hparts p List.mem_cons_self).all_isBlank_iff]
          exact hp
        exact .inr ⟨(startsBlank_intercalate heol (hopen p List.mem_cons_self) []).trans hfilled,
          (endsBlank_intercalate heol rfl (hopen p List.mem_cons_self)).trans hfilled⟩

end Ends

/-! ## Indenting twice -/

/-- A block of several lines starts or ends with a line of blanks, apart from the line breaks around
it. -/
def PaddedBlock (cs : List Char) : Prop :=
  '\n' ∈ trimBreaks cs ∧ (startsBlank (trimBreaks cs) = true ∨ endsBlank (trimBreaks cs) = true)

instance (cs : List Char) : Decidable (PaddedBlock cs) := inferInstanceAs (Decidable (_ ∧ _))

theorem paddedBlock_iff (cs : List Char) : PaddedBlock cs ↔ PaddedLines (blockLines cs) := by
  have hlines := intercalate_lines (getLast?_trimBreaks_ne cs)
  have hpadded := blank_end_iff (.inl rfl) fun line (h : line ∈ lines (trimBreaks cs)) =>
    not_mem_of_mem_lines h
  rwa [hlines] at hpadded

/-- The first line starts with a carriage return once the indentation that all lines have is taken
off. -/
def StartsWithReturn (cs : List Char) : Prop :=
  ∃ line ∈ (blockLines cs).head?, (line.drop (commonIndent (blockLines cs))).head? = some '\r'

section Twice

variable {indent eol : List Char} (hindent : ∀ c ∈ indent, isSpaceOrTab c = true)
  (heol : IsLineEnding eol)

include hindent heol

/-- Indenting does not add line breaks inside a block. -/
theorem count_reindent_le (cs : List Char) :
    (reindent cs indent eol).count '\n' ≤ (trimBreaks cs).count '\n' := by
  have hparts : ∀ p ∈ (blockLines cs).map (shifted indent (commonIndent (blockLines cs))),
      '\n' ∉ p := by
    intro p hp
    obtain ⟨line, hline, rfl⟩ := List.mem_map.1 hp
    exact (isTrimmed_shifted (fun _ => isTrimmed_of_mem_blockLines) hline hindent).unbroken
  have hle := length_lines_le (trimBreaks cs)
  rw [reindent_eq, count_intercalate heol hparts, List.length_map, blockLines_eq, List.length_map]
  omega

/-- Empty lines at the ends are lost. -/
theorem reindent_ne_of_padded {parts : List (List Char)} (h : PaddedLines parts) :
    reindent (eol.intercalate parts) indent eol ≠ eol.intercalate parts := by
  obtain ⟨hlength, hends⟩ := h
  obtain ⟨returns, hreturns, -, -, hbreaks⟩ := heol.exists_returns
  have heol_count : 0 < eol.count '\n' := by simp [hreturns]
  have hle := count_reindent_le hindent heol (eol.intercalate parts)
  suffices hlt : (trimBreaks (eol.intercalate parts)).count '\n' <
      (eol.intercalate parts).count '\n' by
    intro heq
    rw [heq] at hle
    omega
  rcases hends with hfirst | hlast
  · obtain ⟨rest, rfl⟩ := List.head?_eq_some_iff.1 hfirst
    cases rest with
    | nil => simp at hlength
    | cons q rest =>
      have hsub := (trimBreaks_sublist (eol.intercalate (q :: rest))).count_le '\n'
      rw [List.intercalate_cons_cons, List.nil_append,
        trimBreaks_append_left hbreaks, List.count_append]
      omega
  · obtain ⟨front, hfront, hsingle | ⟨rest, rfl⟩⟩ := intercalate_eq_append_last eol hlast
    · rw [hsingle.2] at hlength
      simp at hlength
    · have hsub := (trimBreaks_append_right_sublist hbreaks rest).count_le '\n'
      rw [hfront, List.append_nil, List.count_append]
      omega

omit heol in
/-- A line is not what is left of it without line breaks at the start, behind an indentation, unless
it has none. -/
theorem dropWhile_eq_self_of_indented {p : List Char} {n : Nat}
    (h : indent ++ (p.dropWhile isLineBreak).drop n = p) : p.dropWhile isLineBreak = p := by
  cases p with
  | nil => rfl
  | cons c p =>
    by_cases hc : isLineBreak c = true
    · rw [List.dropWhile_cons_of_pos hc] at h
      exfalso
      cases hcases : indent with
      | nil =>
        have hlength := congrArg List.length h
        have hle := (List.dropWhile_sublist (l := p) isLineBreak).length_le
        simp only [hcases, List.nil_append, List.length_drop, List.length_cons] at hlength
        omega
      | cons d rest =>
        rw [hcases, List.cons_append, List.cons.injEq] at h
        have hblank := hindent d (by rw [hcases]; exact List.mem_cons_self)
        rw [← h.1, isLineBreak_of_isSpaceOrTab hblank] at hc
        cases hc
    · exact List.dropWhile_cons_of_neg hc

/-- Joined lines with firm ends are indented to themselves unless line breaks are taken off the
first one. -/
theorem reindent_intercalate_iff {ls : List (List Char)} (hls : ∀ line ∈ ls, IsTrimmed line)
    {p : List Char} {parts : List (List Char)}
    (hparts : ls.map (shifted indent (commonIndent ls)) = p :: parts) (hfirst : p ≠ [])
    (hlast : (p :: parts).getLast? ≠ some []) :
    reindent (eol.intercalate (p :: parts)) indent eol = eol.intercalate (p :: parts) ↔
      p.dropWhile isLineBreak = p := by
  have htrimmed : ∀ q ∈ p :: parts, IsTrimmed q := by
    intro q hq
    rw [← hparts] at hq
    obtain ⟨line, hline, rfl⟩ := List.mem_map.1 hq
    exact isTrimmed_shifted hls hline hindent
  have hblock := blockLines_intercalate heol htrimmed hfirst hlast
  constructor
  · intro heq
    have hrest := ((htrimmed p List.mem_cons_self).dropWhile_isLineBreak hfirst).2
    have hls' : ∀ q ∈ p.dropWhile isLineBreak :: parts, IsTrimmed q := by
      rw [← hblock]
      exact fun _ => isTrimmed_of_mem_blockLines
    rw [reindent_eq, hblock] at heq
    -- The shifted lines are the lines again, so the first one is what is left of it, behind the
    -- indentation.
    have hsame := intercalate_inj heol ?_ ?_ htrimmed hlast heq
    · rw [List.map_cons, List.cons.injEq, shifted_of_ne hrest] at hsame
      exact dropWhile_eq_self_of_indented hindent hsame.1
    · intro q hq
      obtain ⟨line, hline, rfl⟩ := List.mem_map.1 hq
      exact isTrimmed_shifted hls' hline hindent
    · rw [List.getLast?_map]
      intro hnil
      obtain ⟨line, hline, hnil⟩ := Option.map_eq_some_iff.1 hnil
      rw [shifted_eq_nil_iff hls' (List.mem_of_getLast? hline)] at hnil
      exact getLast?_cons_ne_nil hlast hrest (hnil ▸ hline)
  · intro hkept
    have hfilled : ∃ line ∈ ls, line ≠ [] := by
      cases ls with
      | nil => cases hparts
      | cons line ls =>
        refine ⟨line, List.mem_cons_self, fun hnil => hfirst ?_⟩
        rw [List.map_cons, hnil, shifted_nil, List.cons.injEq] at hparts
        exact hparts.1.symm
    have hcommon : commonIndent (p :: parts) = indent.length := by
      rw [← hparts]
      exact commonIndent_map_shifted hls hfilled hindent
    rw [reindent_eq, hblock, hkept, hcommon, ← hparts, List.map_map]
    congr 1
    exact List.map_congr_left fun line _ => shifted_shifted indent _ line

omit heol in
theorem dropWhile_indented_iff {line : List Char} (h : '\n' ∉ line) :
    (indent ++ line).dropWhile isLineBreak = indent ++ line ↔
      ¬(indent = [] ∧ line.head? = some '\r') := by
  cases hcases : indent with
  | nil =>
    cases line with
    | nil => simp
    | cons c line =>
      rw [List.mem_cons, not_or] at h
      by_cases hc : c = '\r'
      · have hle := (List.dropWhile_sublist (l := line) isLineBreak).length_le
        have hshorter : line.dropWhile isLineBreak ≠ c :: line := by
          intro heq
          rw [heq, List.length_cons] at hle
          omega
        have hbreak : isLineBreak c = true := by rw [hc]; rfl
        simp only [List.nil_append, List.dropWhile_cons_of_pos hbreak, hshorter, false_iff, not_not]
        exact ⟨trivial, by rw [hc]; rfl⟩
      · have hbreak : ¬isLineBreak c = true := by simp [isLineBreak, hc, Ne.symm h.1]
        simp [List.dropWhile_cons_of_neg hbreak, hc]
  | cons d rest =>
    have hbreak : ¬isLineBreak d = true := by
      rw [isLineBreak_of_isSpaceOrTab (hindent d (by rw [hcases]; exact List.mem_cons_self))]
      exact Bool.false_ne_true
    simp [List.dropWhile_cons_of_neg hbreak]

/-- Lines with firm ends stay the same unless the first one starts with a carriage return. -/
theorem reindent_firm_iff {ls : List (List Char)} (hls : ∀ line ∈ ls, IsTrimmed line)
    (hfirm : ¬PaddedLines (ls.map (shifted indent (commonIndent ls)))) :
    reindent (eol.intercalate (ls.map (shifted indent (commonIndent ls)))) indent eol =
        eol.intercalate (ls.map (shifted indent (commonIndent ls))) ↔
      ¬(indent = [] ∧ ∃ line ∈ ls.head?, (line.drop (commonIndent ls)).head? = some '\r') := by
  cases ls with
  | nil => exact iff_of_true rfl (by simp)
  | cons line ls =>
    by_cases hline : line = []
    · -- The line is the only one, and nothing is left of it.
      subst hline
      obtain rfl : ls = [] := by
        cases ls with
        | nil => rfl
        | cons q ls => exact absurd ⟨by simp, .inl rfl⟩ hfirm
      exact iff_of_true rfl (by simp)
    · have hfirst : shifted indent (commonIndent (line :: ls)) line ≠ [] :=
        mt (shifted_eq_nil_iff hls List.mem_cons_self).1 hline
      have hlast : ((line :: ls).map (shifted indent (commonIndent (line :: ls)))).getLast? ≠
          some [] := by
        cases ls with
        | nil => simpa using hfirst
        | cons q ls => exact fun hnil => hfirm ⟨by simp, .inr hnil⟩
      have hopen : '\n' ∉ line.drop (commonIndent (line :: ls)) :=
        fun hmem => (hls line List.mem_cons_self).unbroken (List.mem_of_mem_drop hmem)
      rw [List.map_cons] at hlast ⊢
      rw [reindent_intercalate_iff hindent heol hls rfl hfirst hlast, shifted_of_ne hline,
        dropWhile_indented_iff hindent hopen]
      simp

end Twice

theorem paddedLines_map_shifted {ls : List (List Char)} (hls : ∀ line ∈ ls, IsTrimmed line)
    (indent : List Char) :
    PaddedLines (ls.map (shifted indent (commonIndent ls))) ↔ PaddedLines ls := by
  have hiff : ∀ found : Option (List Char), (∀ line ∈ found, line ∈ ls) →
      (found.map (shifted indent (commonIndent ls)) = some [] ↔ found = some []) := by
    intro found hfound
    cases found with
    | none => simp
    | some line =>
      rw [Option.map_some, Option.some_inj, Option.some_inj,
        shifted_eq_nil_iff hls (hfound line rfl)]
  rw [PaddedLines, PaddedLines, List.length_map, List.head?_map, List.getLast?_map,
    hiff ls.head? fun _ => List.mem_of_mem_head?, hiff ls.getLast? fun _ => List.mem_of_getLast?]

/-- **When indenting a block settles it.** The result is empty or has no blank line at its ends
exactly if the block has none between the line breaks around it. It stays the same if it is indented
again exactly if, moreover, the first line does not come to start with a carriage return because
there is no indentation before it. -/
theorem reindent_settles_iff (cs indent eol : List Char)
    (hindent : ∀ c ∈ indent, isSpaceOrTab c = true) (heol : eol = ['\n'] ∨ eol = ['\r', '\n']) :
    (HasFirmEnds (reindent cs indent eol) ↔ ¬PaddedBlock cs) ∧
      (reindent (reindent cs indent eol) indent eol = reindent cs indent eol ↔
        ¬PaddedBlock cs ∧ ¬(indent = [] ∧ StartsWithReturn cs)) := by
  have hls : ∀ line ∈ blockLines cs, IsTrimmed line := fun _ => isTrimmed_of_mem_blockLines
  have hpadded := (paddedLines_map_shifted hls indent).trans (paddedBlock_iff cs).symm
  have htrimmed : ∀ p ∈ (blockLines cs).map (shifted indent (commonIndent (blockLines cs))),
      IsTrimmed p := by
    intro p hp
    obtain ⟨line, hline, rfl⟩ := List.mem_map.1 hp
    exact isTrimmed_shifted hls hline hindent
  rw [← hpadded]
  refine ⟨hasFirmEnds_intercalate_iff heol htrimmed, ?_⟩
  by_cases hends : PaddedLines ((blockLines cs).map (shifted indent (commonIndent (blockLines cs))))
  · exact iff_of_false (reindent_ne_of_padded hindent heol hends) fun h => h.1 hends
  · rw [and_iff_right hends]
    exact reindent_firm_iff hindent heol hls hends

/-- A block with an empty line in it, line breaks around it and lines that end in different ways. -/
def twoLevels : List Char := "\n  a\n\n    b \x0d\n".toList

theorem reindent_settles_iff_twoLevels :
    reindent twoLevels ['\t'] ['\r', '\n'] = "\ta\x0d\n\x0d\n\t  b".toList ∧
      ¬PaddedBlock twoLevels ∧ HasFirmEnds (reindent twoLevels ['\t'] ['\r', '\n']) ∧
      reindent (reindent twoLevels ['\t'] ['\r', '\n']) ['\t'] ['\r', '\n'] =
        reindent twoLevels ['\t'] ['\r', '\n'] := by
  have hindent : ∀ c ∈ ['\t'], isSpaceOrTab c = true := List.all_eq_true.1 rfl
  have hpadded : ¬PaddedBlock twoLevels := by decide +kernel
  obtain ⟨hfirm, hagain⟩ := reindent_settles_iff twoLevels ['\t'] ['\r', '\n'] hindent (.inr rfl)
  exact ⟨by decide +kernel, hpadded, hfirm.2 hpadded, hagain.2 ⟨hpadded, fun h => by cases h.1⟩⟩

/-- **A line of blanks before a block is not dropped.** It becomes an empty line at the start of the
result, and that is lost if the block is indented again. -/
theorem not_hasFirmEnds_blankFirst :
    reindent [' ', '\n', 'x'] [' '] ['\n'] = ['\n', ' ', 'x'] ∧
      ¬HasFirmEnds (reindent [' ', '\n', 'x'] [' '] ['\n']) ∧
      reindent (reindent [' ', '\n', 'x'] [' '] ['\n']) [' '] ['\n'] = [' ', 'x'] := by
  decide +kernel

end Graft.Text
