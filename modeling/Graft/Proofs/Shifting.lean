import Graft.Proofs.Boundary
import Graft.Proofs.Reindenting

set_option autoImplicit false

/-!
# What indenting a block changes

Only lines with something on them count: without the blanks at their ends, the lines of the indented
block are those of the block, shifted (`firmLines_reindent`). All are shifted by the same number of
blanks, of which the least indented has no more, so nothing but blanks is taken off, and the cut is
at the same place in bytes as in characters.
-/

namespace Graft.Text

/-! ## Lines with something on them -/

/-- Every carriage return is followed by a line feed. -/
def ReturnsPaired (cs : List Char) : Prop :=
  ∀ front back, cs = front ++ '\r' :: back → back.head? = some '\n'

def returnsPaired : List Char → Bool
  | [] => true
  | c :: cs => (c != '\r' || cs.head? == some '\n') && returnsPaired cs

theorem returnsPaired_iff (cs : List Char) : returnsPaired cs = true ↔ ReturnsPaired cs := by
  induction cs with
  | nil => simp [returnsPaired, ReturnsPaired]
  | cons c cs ih =>
    rw [returnsPaired, Bool.and_eq_true, ih]
    constructor
    · rintro ⟨hc, hrest⟩ front back heq
      cases front with
      | nil =>
        obtain ⟨rfl, rfl⟩ := List.cons.inj heq
        simpa using hc
      | cons d front => exact hrest front back (List.cons.inj heq).2
    · intro h
      refine ⟨?_, fun front back heq => h (c :: front) back (by rw [heq, List.cons_append])⟩
      by_cases hc : c = '\r'
      · have hnext := h [] cs (by rw [hc, List.nil_append])
        simp [hnext]
      · simp [hc]

instance (cs : List Char) : Decidable (ReturnsPaired cs) :=
  decidable_of_iff _ (returnsPaired_iff cs)

/-- The lines with something other than blanks. -/
def filledLines (cs : List Char) : List (List Char) :=
  (lines cs).filter fun line => !line.all isBlank

/-- These lines without the blanks at their ends. -/
def firmLines (cs : List Char) : List (List Char) := (filledLines cs).map trimEnd

/-- A text is a line, or a line with its break and a text behind it. -/
@[elab_as_elim] theorem lines_induction {motive : List Char → Prop}
    (last : ∀ line, '\n' ∉ line → motive line)
    (broken : ∀ line rest, '\n' ∉ line → motive rest → motive (line ++ '\n' :: rest))
    (cs : List Char) : motive cs := by
  have hgrown : ∀ line, '\n' ∉ line → motive (line ++ cs) := by
    induction cs with
    | nil =>
      intro line hline
      rw [List.append_nil]
      exact last line hline
    | cons c cs ih =>
      intro line hline
      by_cases hc : c = '\n'
      · rw [hc]
        exact broken line cs hline (ih [] List.not_mem_nil)
      · rw [List.append_cons]
        exact ih (line ++ [c]) (by simp [hline, Ne.symm hc])
  exact hgrown [] List.not_mem_nil

theorem firmLines_of_not_mem {line : List Char} (h : '\n' ∉ line) :
    firmLines line = if line.all isBlank then [] else [trimEnd line] := by
  by_cases hnil : line = []
  · rw [hnil]
    rfl
  · rw [firmLines, filledLines, lines_of_not_mem h hnil]
    by_cases hblank : line.all isBlank = true <;> simp [hblank]

theorem firmLines_line_break {line : List Char} (h : '\n' ∉ line) (rest : List Char) :
    firmLines (line ++ '\n' :: rest) = firmLines line ++ firmLines rest := by
  rw [firmLines_of_not_mem h, firmLines, filledLines, lines_append_break h, List.filter_cons]
  by_cases hblank : line.all isBlank = true <;> simp [hblank, firmLines, filledLines]

/-- A line break separates lines. -/
theorem firmLines_append_break (a b : List Char) :
    firmLines (a ++ '\n' :: b) = firmLines a ++ firmLines b := by
  induction a using lines_induction with
  | last line hline => exact firmLines_line_break hline b
  | broken line rest hline ih =>
    rw [List.append_assoc, List.cons_append, firmLines_line_break hline, ih,
      firmLines_line_break hline, List.append_assoc]

theorem firmLines_of_blank {cs : List Char} (h : cs.all isBlank = true) : firmLines cs = [] := by
  induction cs using lines_induction with
  | last line hline => rw [firmLines_of_not_mem hline, if_pos h]
  | broken line rest hline ih =>
    rw [List.all_append, Bool.and_eq_true, List.all_cons, Bool.and_eq_true] at h
    rw [firmLines_line_break hline, firmLines_of_not_mem hline, if_pos h.1,
      ih h.2.2, List.append_nil]

/-- Blanks at the end do not matter, even if there are line breaks among them. -/
theorem firmLines_append_blank (a : List Char) {b : List Char} (h : b.all isBlank = true) :
    firmLines (a ++ b) = firmLines a := by
  induction a using lines_induction with
  | broken line rest hline ih =>
    rw [List.append_assoc, List.cons_append, firmLines_line_break hline, ih,
      firmLines_line_break hline]
  | last line hline =>
    have hopen : ∀ blank : List Char, '\n' ∉ blank → blank.all isBlank = true →
        firmLines (line ++ blank) = firmLines line := by
      intro blank hblank hall
      rw [firmLines_of_not_mem (by simp [hline, hblank]), firmLines_of_not_mem hline,
        trimEnd_append, if_pos hall, List.all_append, hall, Bool.and_true]
    induction b using lines_induction with
    | last blank hblank => exact hopen blank hblank h
    | broken blank rest hblank _ =>
      rw [List.all_append, Bool.and_eq_true, List.all_cons, Bool.and_eq_true] at h
      rw [← List.append_assoc, firmLines_append_break, hopen blank hblank h.1,
        firmLines_of_blank h.2.2, List.append_nil]

theorem firmLines_intercalate {eol : List Char} (heol : IsLineEnding eol)
    (parts : List (List Char)) : firmLines (eol.intercalate parts) = parts.flatMap firmLines := by
  obtain ⟨returns, rfl, -, hblank, -⟩ := heol.exists_returns
  induction parts with
  | nil => rfl
  | cons p parts ih =>
    cases parts with
    | nil => rw [List.intercalate_singleton, List.flatMap_singleton]
    | cons q parts =>
      have hcut : p ++ (returns ++ ['\n']) ++ (returns ++ ['\n']).intercalate (q :: parts) =
          (p ++ returns) ++ '\n' :: (returns ++ ['\n']).intercalate (q :: parts) := by simp
      rw [List.intercalate_cons_cons, hcut, firmLines_append_break, firmLines_append_blank p hblank,
        ih, ← List.flatMap_cons]

/-! ## Lines of a block -/

/-- A text consists of line breaks, what is left without them, and line breaks. -/
theorem exists_breaks (cs : List Char) : ∃ lead trail, cs = lead ++ (trimBreaks cs ++ trail) ∧
    (∀ c ∈ lead, isLineBreak c = true) ∧ (∀ c ∈ trail, isLineBreak c = true) ∧
    ∀ c ∈ (trimBreaks cs ++ trail).head?, isLineBreak c = false := by
  have htrail :
      trimBreaks cs ++ ((cs.dropWhile isLineBreak).reverse.takeWhile isLineBreak).reverse =
      cs.dropWhile isLineBreak := by
    rw [trimBreaks, ← List.reverse_append, List.takeWhile_append_dropWhile, List.reverse_reverse]
  refine ⟨cs.takeWhile isLineBreak,
    ((cs.dropWhile isLineBreak).reverse.takeWhile isLineBreak).reverse, ?_, ?_, ?_, ?_⟩
  · rw [htrail, List.takeWhile_append_dropWhile]
  · exact fun c hc => List.mem_takeWhile_imp hc
  · exact fun c hc => List.mem_takeWhile_imp (List.mem_reverse.1 hc)
  · intro c hc
    have hhead := List.head?_dropWhile_not isLineBreak cs
    rw [← htrail, Option.mem_def.1 hc] at hhead
    exact hhead

theorem all_isBlank_of_breaks {cs : List Char}
    (h : ∀ c ∈ cs, isLineBreak c = true) : cs.all isBlank = true :=
  List.all_eq_true.2 fun c hc => isBlank_of_isLineBreak (h c hc)

/-- Line breaks around a block take no line with them if carriage returns are followed by line
feeds. -/
theorem firmLines_trimBreaks {cs : List Char} (h : ReturnsPaired cs) :
    firmLines (trimBreaks cs) = firmLines cs := by
  obtain ⟨lead, trail, hcs, hlead, htrail, hhead⟩ := exists_breaks cs
  rw [← firmLines_append_blank (trimBreaks cs) (all_isBlank_of_breaks htrail)]
  generalize trimBreaks cs ++ trail = rest at hcs hhead
  subst hcs
  rcases List.eq_nil_or_concat lead with rfl | ⟨front, c, rfl⟩
  · rfl
  · rw [List.concat_eq_append, List.append_assoc] at h ⊢
    -- What is left does not start with a line break, so the last one before it is a line feed.
    have hc : c = '\n' := by
      rcases Bool.or_eq_true_iff.1 (hlead c (by simp)) with hc | hc
      · rw [beq_iff_eq.1 hc] at h
        have hnext := hhead '\n' (h front rest rfl)
        cases hnext
      · exact beq_iff_eq.1 hc
    have hblank : front.all isBlank = true :=
      all_isBlank_of_breaks fun c hc => hlead c (by simp [hc])
    rw [hc, List.singleton_append, firmLines_append_break,
      firmLines_of_blank hblank, List.nil_append]

theorem isEmpty_trimEnd (line : List Char) : (trimEnd line).isEmpty = line.all isBlank := by
  rw [Bool.eq_iff_iff, List.isEmpty_iff, trimEnd_eq_nil_iff]

theorem filter_map_trimEnd (ls : List (List Char)) :
    (ls.map trimEnd).filter (!·.isEmpty) =
      (ls.filter fun line => !line.all isBlank).map trimEnd := by
  rw [List.filter_map]
  simp only [Function.comp_def, isEmpty_trimEnd]

theorem filter_blockLines {cs : List Char} (h : ReturnsPaired cs) :
    (blockLines cs).filter (!·.isEmpty) = firmLines cs := by
  rw [blockLines_eq, filter_map_trimEnd, ← firmLines_trimBreaks h]
  rfl

/-- Lines that are trimmed are listed as they are, without the empty ones. -/
theorem flatMap_firmLines {parts : List (List Char)} (h : ∀ p ∈ parts, IsTrimmed p) :
    parts.flatMap firmLines = parts.filter (!·.isEmpty) := by
  induction parts with
  | nil => rfl
  | cons p parts ih =>
    have hp := h p List.mem_cons_self
    rw [List.flatMap_cons, ih fun q hq => h q (List.mem_cons_of_mem p hq),
      firmLines_of_not_mem hp.unbroken, List.filter_cons, ← isEmpty_trimEnd, hp.trimmed]
    cases p.isEmpty <;> rfl

/-- **The lines of an indented block are those of the block, shifted.** -/
theorem firmLines_reindent {cs indent eol : List Char} (h : ReturnsPaired cs)
    (hindent : ∀ c ∈ indent, isSpaceOrTab c = true) (heol : IsLineEnding eol) :
    firmLines (reindent cs indent eol) =
      (firmLines cs).map fun line => indent ++ line.drop (commonIndent (blockLines cs)) := by
  have hls : ∀ line ∈ blockLines cs, IsTrimmed line := fun _ => isTrimmed_of_mem_blockLines
  have hparts : ∀ p ∈ (blockLines cs).map (shifted indent (commonIndent (blockLines cs))),
      IsTrimmed p := by
    intro p hp
    obtain ⟨line, hline, rfl⟩ := List.mem_map.1 hp
    exact isTrimmed_shifted hls hline hindent
  have hkept : ∀ line ∈ blockLines cs,
      ((!·.isEmpty) ∘ shifted indent (commonIndent (blockLines cs))) line = !line.isEmpty := by
    intro line hline
    rw [Function.comp_apply, Bool.not_eq_eq_eq_not, Bool.not_not, Bool.eq_iff_iff, List.isEmpty_iff,
      List.isEmpty_iff, shifted_eq_nil_iff hls hline]
  rw [reindent_eq, firmLines_intercalate heol, flatMap_firmLines hparts, List.filter_map,
    ← filter_blockLines h, List.filter_congr hkept]
  refine List.map_congr_left fun line hline => shifted_of_ne ?_
  simpa using (List.mem_filter.1 hline).2

/-! ## Indentation and content -/

/-- A line without its indentation and without blanks at its end. -/
def content (line : List Char) : List Char := trimEnd (line.dropWhile isSpaceOrTab)

/-- How far a line is indented, and what it says. -/
def layout (line : List Char) : Nat × List Char := (indentation line, content line)

theorem isSpaceOrTab_of_mem_takeWhile (line : List Char) :
    ∀ c ∈ line.takeWhile isSpaceOrTab, isSpaceOrTab c = true :=
  fun _ hc => List.mem_takeWhile_imp hc

theorem head?_dropWhile_isSpaceOrTab (line : List Char) :
    ∀ c ∈ (line.dropWhile isSpaceOrTab).head?, isSpaceOrTab c = false := by
  intro c hc
  have hhead := List.head?_dropWhile_not isSpaceOrTab line
  rwa [Option.mem_def.1 hc] at hhead

theorem head?_content (line : List Char) : ∀ c ∈ (content line).head?, isSpaceOrTab c = false := by
  intro c hc
  obtain ⟨blanks, hblanks⟩ := exists_eq_trimEnd_append (line.dropWhile isSpaceOrTab)
  refine head?_dropWhile_isSpaceOrTab line c ?_
  rw [hblanks, List.head?_append]
  exact Option.or_eq_some_iff.2 (.inl hc)

/-- The layout of a line can be read off if it is cut where the spaces and tabs end. -/
theorem layout_append {lead rest : List Char} (hlead : ∀ c ∈ lead, isSpaceOrTab c = true)
    (hrest : ∀ c ∈ rest.head?, isSpaceOrTab c = false) :
    layout (lead ++ rest) = (lead.length, trimEnd rest) := by
  have hnone : rest.takeWhile isSpaceOrTab = [] := by
    cases rest with
    | nil => rfl
    | cons c rest => exact List.takeWhile_cons_of_neg (by simp [hrest c rfl])
  have hkept : rest.dropWhile isSpaceOrTab = rest := by
    have hsplit := List.takeWhile_append_dropWhile (p := isSpaceOrTab) (l := rest)
    rwa [hnone, List.nil_append] at hsplit
  rw [layout, indentation_append hlead, indentation, hnone, content,
    List.dropWhile_append_of_pos hlead, hkept]
  rfl

/-- Blanks at the end of a line with something on it do not matter. -/
theorem layout_trimEnd {line : List Char} (h : line.all isBlank = false) :
    layout (trimEnd line) = layout line := by
  have hlead : (line.takeWhile isSpaceOrTab).all isBlank = true :=
    List.all_eq_true.2 fun c hc => isBlank_of_isSpaceOrTab (isSpaceOrTab_of_mem_takeWhile line c hc)
  have hsplit := List.takeWhile_append_dropWhile (p := isSpaceOrTab) (l := line)
  have hrest : ¬(line.dropWhile isSpaceOrTab).all isBlank = true := by
    intro hrest
    rw [← hsplit, List.all_append, hlead, hrest] at h
    cases h
  have htrim : trimEnd line = line.takeWhile isSpaceOrTab ++ content line := by
    calc trimEnd line = trimEnd (line.takeWhile isSpaceOrTab ++ line.dropWhile isSpaceOrTab) := by
          rw [hsplit]
      _ = line.takeWhile isSpaceOrTab ++ content line := by
        rw [trimEnd_append, if_neg hrest, content]
  rw [htrim, layout_append (isSpaceOrTab_of_mem_takeWhile line) (head?_content line),
    content, trimEnd_trimEnd]
  rfl

/-- A line that is shifted says the same. -/
theorem layout_shift {indent line : List Char} (hindent : ∀ c ∈ indent, isSpaceOrTab c = true)
    {n : Nat} (hn : n ≤ indentation line) :
    layout (indent ++ line.drop n) = (indent.length + (indentation line - n), content line) := by
  have hcut : line.drop n = (line.takeWhile isSpaceOrTab).drop n ++
      line.dropWhile isSpaceOrTab := by
    calc line.drop n = (line.takeWhile isSpaceOrTab ++ line.dropWhile isSpaceOrTab).drop n := by
          rw [List.takeWhile_append_dropWhile]
      _ = _ := List.drop_append_of_le_length hn
  have hlead : ∀ c ∈ indent ++ (line.takeWhile isSpaceOrTab).drop n, isSpaceOrTab c = true := by
    intro c hc
    rcases List.mem_append.1 hc with hc | hc
    · exact hindent c hc
    · exact isSpaceOrTab_of_mem_takeWhile line c (List.mem_of_mem_drop hc)
  rw [hcut, ← List.append_assoc, layout_append hlead (head?_dropWhile_isSpaceOrTab line),
    List.length_append, List.length_drop]
  rfl

theorem map_layout_firmLines (cs : List Char) :
    (firmLines cs).map layout = (filledLines cs).map layout := by
  rw [firmLines, List.map_map]
  refine List.map_congr_left fun line hline => layout_trimEnd ?_
  simpa using (List.mem_filter.1 hline).2

/-- How far the lines with something on them are indented. -/
def widths (cs : List Char) : List Nat := (filledLines cs).map indentation

theorem map_indentation_firmLines (cs : List Char) :
    (firmLines cs).map indentation = widths cs := by
  have hlayout := congrArg (List.map Prod.fst) (map_layout_firmLines cs)
  rwa [List.map_map, List.map_map] at hlayout

section Reindent

variable {cs indent eol : List Char} (h : ReturnsPaired cs)

include h

/-- What is taken off is the least indentation. -/
theorem commonIndent_eq_min? : commonIndent (blockLines cs) = (widths cs).min?.getD 0 := by
  rw [← map_indentation_firmLines, ← filter_blockLines h]
  rfl

theorem commonIndent_le {w : Nat} (hw : w ∈ widths cs) : commonIndent (blockLines cs) ≤ w := by
  rw [commonIndent_eq_min? h]
  cases hmin : (widths cs).min? with
  | none => exact Nat.zero_le w
  | some m => exact (List.min?_eq_some_iff.1 hmin).2 w hw

variable (hindent : ∀ c ∈ indent, isSpaceOrTab c = true) (heol : IsLineEnding eol)

include hindent heol

/-- **Indenting a block shifts all lines by the same number of blanks.** -/
theorem map_layout_reindent : (filledLines (reindent cs indent eol)).map layout =
    ((filledLines cs).map layout).map fun l =>
      (indent.length + (l.1 - commonIndent (blockLines cs)), l.2) := by
  rw [← map_layout_firmLines, ← map_layout_firmLines, firmLines_reindent h hindent heol,
    List.map_map, List.map_map]
  refine List.map_congr_left fun line hline => layout_shift hindent (commonIndent_le h ?_)
  rw [← map_indentation_firmLines]
  exact List.mem_map_of_mem hline

theorem map_content_reindent :
    (filledLines (reindent cs indent eol)).map content = (filledLines cs).map content := by
  have hlayout := congrArg (List.map Prod.snd) (map_layout_reindent h hindent heol)
  rwa [List.map_map, List.map_map, List.map_map] at hlayout

theorem widths_reindent : widths (reindent cs indent eol) =
    (widths cs).map fun w => indent.length + (w - commonIndent (blockLines cs)) := by
  have hlayout := congrArg (List.map Prod.fst) (map_layout_reindent h hindent heol)
  rw [List.map_map, List.map_map, List.map_map] at hlayout
  rw [widths, widths, List.map_map]
  exact hlayout

/-- Lines are indented as far from each other as before. -/
theorem widths_sub_eq {p q : Nat × Nat} (hp : p ∈ (widths cs).zip (widths (reindent cs indent eol)))
    (hq : q ∈ (widths cs).zip (widths (reindent cs indent eol))) :
    (p.1 : Int) - q.1 = p.2 - q.2 := by
  rw [widths_reindent h hindent heol, ← List.map_prod_left_eq_zip] at hp hq
  obtain ⟨v, hv, rfl⟩ := List.mem_map.1 hp
  obtain ⟨w, hw, rfl⟩ := List.mem_map.1 hq
  have hv := commonIndent_le h hv
  have hw := commonIndent_le h hw
  dsimp only
  omega

/-- The least indented line has the new indentation. -/
theorem min?_widths_reindent (hfilled : filledLines cs ≠ []) :
    (widths (reindent cs indent eol)).min? = some indent.length := by
  cases hmin : (widths cs).min? with
  | none => exact absurd (List.map_eq_nil_iff.1 (List.min?_eq_none_iff.1 hmin)) hfilled
  | some m =>
    have hcommon : commonIndent (blockLines cs) = m := by
      rw [commonIndent_eq_min? h, hmin, Option.getD_some]
    have hmem := (List.min?_eq_some_iff.1 hmin).1
    rw [widths_reindent h hindent heol, hcommon, List.min?_eq_some_iff]
    refine ⟨List.mem_map.2 ⟨m, hmem, by omega⟩, ?_⟩
    intro w hw
    obtain ⟨v, -, rfl⟩ := List.mem_map.1 hw
    exact Nat.le_add_right _ _

end Reindent

/-! ## What is not blank -/

theorem filter_dropWhile {p : Char → Bool} (hp : ∀ c, p c = true → isBlank c = true)
    (cs : List Char) : (cs.dropWhile p).filter (!isBlank ·) = cs.filter (!isBlank ·) := by
  have hnone : (cs.takeWhile p).filter (!isBlank ·) = [] := by
    rw [List.filter_eq_nil_iff]
    intro c hc
    simp [hp c (List.mem_takeWhile_imp hc)]
  calc (cs.dropWhile p).filter (!isBlank ·) =
        (cs.takeWhile p ++ cs.dropWhile p).filter (!isBlank ·) := by
        rw [List.filter_append, hnone, List.nil_append]
    _ = cs.filter (!isBlank ·) := by rw [List.takeWhile_append_dropWhile]

theorem filter_content (line : List Char) :
    (content line).filter (!isBlank ·) = line.filter (!isBlank ·) := by
  rw [content, trimEnd, List.filter_reverse, filter_dropWhile (fun _ hc => hc), List.filter_reverse,
    List.reverse_reverse, filter_dropWhile fun _ => isBlank_of_isSpaceOrTab]

theorem flatMap_filter_lines (cs : List Char) :
    (lines cs).flatMap (List.filter (!isBlank ·)) = cs.filter (!isBlank ·) := by
  induction cs using lines_induction with
  | last line hline =>
    by_cases hnil : line = []
    · rw [hnil]
      rfl
    · rw [lines_of_not_mem hline hnil, List.flatMap_singleton]
  | broken line rest hline ih =>
    have hbreak : ('\n' :: rest).filter (!isBlank ·) = rest.filter (!isBlank ·) :=
      List.filter_cons_of_neg (by decide)
    rw [lines_append_break hline, List.flatMap_cons, ih, List.filter_append, hbreak]

/-- What is not blank is in the content of lines. -/
theorem filter_eq_flatMap_content (cs : List Char) :
    cs.filter (!isBlank ·) = ((filledLines cs).map content).flatMap (List.filter (!isBlank ·)) := by
  rw [← flatMap_filter_lines, filledLines, List.flatMap_map]
  induction lines cs with
  | nil => rfl
  | cons line ls ih =>
    rw [List.flatMap_cons, List.filter_cons, ih]
    split
    · rw [List.flatMap_cons, filter_content]
    · rename_i hblank
      have hnone : line.filter (!isBlank ·) = [] := by simpa using hblank
      rw [hnone, List.nil_append]

/-! ## Cutting by bytes -/

theorem byteLength_of_isSpaceOrTab {cs : List Char} (h : ∀ c ∈ cs, isSpaceOrTab c = true) :
    byteLength cs = cs.length := by
  induction cs with
  | nil => rfl
  | cons c cs ih =>
    have hsize : c.utf8Size = 1 := by
      rcases Bool.or_eq_true_iff.1 (h c List.mem_cons_self) with hc | hc <;>
        rw [beq_iff_eq.1 hc] <;> rfl
    rw [byteLength_cons, ih fun d hd => h d (List.mem_cons_of_mem c hd), hsize,
      List.length_cons, Nat.add_comm]

/-- The indentation of a line is the number of bytes that it is longer than without. -/
theorem byteLength_eq_indentation_add (line : List Char) :
    byteLength line = indentation line + byteLength (line.dropWhile isSpaceOrTab) := by
  calc byteLength line =
        byteLength (line.takeWhile isSpaceOrTab ++ line.dropWhile isSpaceOrTab) := by
        rw [List.takeWhile_append_dropWhile]
    _ = _ := by
      rw [byteLength_append, byteLength_of_isSpaceOrTab (isSpaceOrTab_of_mem_takeWhile line),
        indentation]

/-- A line can be cut anywhere in its indentation. -/
theorem splitBytes_indentation {line : List Char} {n : Nat} (h : n ≤ indentation line) :
    splitBytes line n = some (line.take n, line.drop n) := by
  have htake : line.take n = (line.takeWhile isSpaceOrTab).take n := by
    calc line.take n = (line.takeWhile isSpaceOrTab ++ line.dropWhile isSpaceOrTab).take n := by
          rw [List.takeWhile_append_dropWhile]
      _ = _ := List.take_append_of_le_length h
  refine splitBytes_eq_some_iff.2 ⟨(List.take_append_drop n line).symm, ?_⟩
  rw [htake, byteLength_of_isSpaceOrTab fun c hc => isSpaceOrTab_of_mem_takeWhile line c
    (List.mem_of_mem_take hc), List.length_take]
  exact Nat.min_eq_left h

/-- **Indenting a block changes only blanks.** What is not blank stays, line by line, and so do the
blanks inside a line. Lines are indented as far from each other as before, and the least indented
has the new indentation. There are no line breaks but those that join lines. The indentation is
counted in bytes, and every line that is cut can be cut there. -/
theorem reindent_shifts (cs indent eol : List Char) (hreturns : ReturnsPaired cs)
    (hindent : ∀ c ∈ indent, isSpaceOrTab c = true) (heol : IsLineEnding eol) :
    (reindent cs indent eol).filter (!isBlank ·) = cs.filter (!isBlank ·) ∧
      (filledLines (reindent cs indent eol)).map content = (filledLines cs).map content ∧
      (∀ p ∈ (widths cs).zip (widths (reindent cs indent eol)),
        ∀ q ∈ (widths cs).zip (widths (reindent cs indent eol)), (p.1 : Int) - q.1 = p.2 - q.2) ∧
      (filledLines cs ≠ [] → (widths (reindent cs indent eol)).min? = some indent.length) ∧
      (∃ parts, reindent cs indent eol = eol.intercalate parts ∧
        parts.length = (blockLines cs).length ∧ ∀ p ∈ parts, '\n' ∉ p) ∧
      ∀ line ∈ blockLines cs, line ≠ [] →
        byteLength line = indentation line + byteLength (line.dropWhile isSpaceOrTab) ∧
        splitBytes line (commonIndent (blockLines cs)) =
          some (line.take (commonIndent (blockLines cs)),
            line.drop (commonIndent (blockLines cs))) := by
  have hcontent := map_content_reindent hreturns hindent heol
  refine ⟨?_, hcontent, fun p hp q hq => widths_sub_eq hreturns hindent heol hp hq,
    min?_widths_reindent hreturns hindent heol,
    ⟨_, reindent_eq cs indent eol, List.length_map _, ?_⟩, fun line hline hne => ⟨?_, ?_⟩⟩
  · rw [filter_eq_flatMap_content, hcontent, ← filter_eq_flatMap_content]
  · intro p hp
    obtain ⟨line, hline, rfl⟩ := List.mem_map.1 hp
    exact (isTrimmed_shifted (fun _ => isTrimmed_of_mem_blockLines) hline hindent).unbroken
  · exact byteLength_eq_indentation_add line
  · exact splitBytes_indentation (((commonIndent_eq_iff ⟨line, hline, hne⟩).1 rfl).2 line hline hne)

/-- A block with line endings of both kinds, a blank line and blanks that take more than one
byte. -/
def wideBlanks : List Char := "\x0d\n  a\u00a0\x0d\n \u3000\n\t   \u00a0b \u2003c \x0d\n".toList

theorem reindent_shifts_wideBlanks :
    ReturnsPaired wideBlanks ∧ reindent wideBlanks ['\t'] ['\r', '\n'] =
      "\ta\x0d\n\x0d\n\t  \u00a0b \u2003c".toList ∧
      widths wideBlanks = [2, 4] ∧ widths (reindent wideBlanks ['\t'] ['\r', '\n']) = [1, 3] ∧
      (reindent wideBlanks ['\t'] ['\r', '\n']).filter (!isBlank ·) =
        wideBlanks.filter (!isBlank ·) ∧
      (widths (reindent wideBlanks ['\t'] ['\r', '\n'])).min? = some 1 := by
  have hreturns : ReturnsPaired wideBlanks := by decide +kernel
  have hindent : ∀ c ∈ ['\t'], isSpaceOrTab c = true := List.all_eq_true.1 rfl
  have hshifts := reindent_shifts wideBlanks ['\t'] ['\r', '\n'] hreturns hindent (.inr rfl)
  exact ⟨hreturns, by decide +kernel, by decide +kernel, by decide +kernel, hshifts.1,
    hshifts.2.2.2.1 (by decide +kernel)⟩

end Graft.Text
