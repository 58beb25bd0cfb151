import Graft.Proofs.Places
import Graft.Proofs.TreeRanges
import Mathlib.Data.List.TakeWhile

set_option autoImplicit false

/-!
# New imports and the prologue

A file may start with comments, a line for the shell and directives, which only count at the very
top. New imports go behind the imports of the file, and if it has none, behind the last node of this
prologue that has to stay above them (`prologueEnd_eq`). So they never come before a directive or
the line for the shell, and they go between the nodes at the top level
(`Document.importPlacement_takesImports`).
-/

namespace Graft

/-! ## Prologues -/

namespace Node

/-- Whether a node is a statement that consists of a string. -/
def isDirective (n : Node) : Bool :=
  n.kind == "expression_statement" && (n.namedChildren[0]?.map (·.kind)) == some "string"

/-- Whether a node can be part of a prologue. -/
def inPrologue (n : Node) : Bool :=
  n.kind == "comment" || n.kind == "hash_bang_line" || n.isDirective

/-- Whether a node of a prologue has to stay above the imports: comments only do if a blank line
follows, else they belong to the code below them. -/
def headsFile (source : List Char) (n : Node) : Bool :=
  n.kind != "comment" || followedByBlankLine (Text.after source n.stop)

theorem not_inPrologue_of_import {n : Node}
    (h : n.kind = "import_statement") : n.inPrologue = false := by
  simp [inPrologue, isDirective, h]

theorem headsFile_of_kept {n : Node} (source : List Char)
    (h : n.kind = "hash_bang_line" ∨ n.isDirective = true) : n.headsFile source = true := by
  rcases h with h | h
  · simp [headsFile, h]
  · have hkind : n.kind = "expression_statement" := by
      unfold isDirective at h
      simp only [Bool.and_eq_true, beq_iff_eq] at h
      exact h.1
    simp [headsFile, hkind]

end Node

namespace Document

/-- What a file starts with, before its code. -/
def prologue (d : Document) : List Node := d.root.namedChildren.takeWhile Node.inPrologue

/-- The nodes of the prologue that have to stay above the imports. -/
def header (d : Document) : List Node := d.prologue.filter (Node.headsFile d.source.toList)

theorem namedChildren_eq_prologue_append (d : Document) :
    ∃ code, d.root.namedChildren = d.prologue ++ code :=
  ⟨_, List.takeWhile_append_dropWhile.symm⟩

theorem mem_namedChildren_of_mem_prologue {d : Document} {n : Node} (h : n ∈ d.prologue) :
    n ∈ d.root.namedChildren :=
  (List.takeWhile_sublist _).mem h

end Document

/-- One node of a prologue. -/
theorem prologueEnd_cons (source : List Char) (found : Option Nat) (n : Node) (rest : List Node) :
    prologueEnd source found (n :: rest) =
      if n.inPrologue then
        prologueEnd source (if n.headsFile source then some n.stop else found) rest
      else found := by
  simp only [prologueEnd]
  split
  · rename_i hkind
    simp [Node.inPrologue, Node.headsFile, hkind, Text.after]
  · rename_i hkind
    simp [Node.inPrologue, Node.headsFile, hkind]
  · rename_i hkind
    simp [Node.inPrologue, Node.isDirective, Node.headsFile, hkind]
  · rename_i hcomment hhashbang hstatement
    have hcode : n.inPrologue = false := by
      simp only [Node.inPrologue, Node.isDirective, Bool.or_eq_false_iff,
        Bool.and_eq_false_iff, beq_eq_false_iff_ne]
      exact ⟨⟨hcomment, hhashbang⟩, .inl hstatement⟩
    simp [hcode]

/-- **The end of a prologue** is where the last node ends that has to stay above the imports. -/
theorem prologueEnd_eq (source : List Char) (found : Option Nat) (nodes : List Node) :
    prologueEnd source found nodes =
      ((((nodes.takeWhile Node.inPrologue).filter (Node.headsFile source)).getLast?).map
        (·.stop)).or found := by
  induction nodes generalizing found with
  | nil => rfl
  | cons n nodes ih =>
    rw [prologueEnd_cons, List.takeWhile_cons]
    by_cases hprologue : n.inPrologue = true
    · rw [if_pos hprologue, if_pos hprologue, ih]
      by_cases hheads : n.headsFile source = true
      · -- The nodes further on take precedence over this one.
        rw [if_pos hheads, List.filter_cons_of_pos hheads, List.getLast?_cons]
        cases ((nodes.takeWhile Node.inPrologue).filter (Node.headsFile source)).getLast? <;> rfl
      · rw [if_neg hheads, List.filter_cons_of_neg hheads]
    · rw [if_neg hprologue, if_neg hprologue]
      rfl

/-! ## Nodes at the top level -/

/-- The nodes at the top level lie one behind the other. -/
structure Document.TopOrdered (d : Document) : Prop where
  ordered : ∀ n ∈ d.root.children, n.start ≤ n.stop
  apart : d.root.children.Pairwise fun a b => a.stop ≤ b.start

instance (d : Document) : Decidable d.TopOrdered :=
  decidable_of_iff ((∀ n ∈ d.root.children, n.start ≤ n.stop) ∧ d.root.children.Pairwise fun a b =>
    a.stop ≤ b.start) ⟨fun h => ⟨h.1, h.2⟩, fun h => ⟨h.ordered, h.apart⟩⟩

namespace Document.TopOrdered

variable {d : Document} (h : d.TopOrdered)

include h

theorem start_le_stop {n : Node} (hn : n ∈ d.root.namedChildren) : n.start ≤ n.stop :=
  h.ordered n (List.mem_of_mem_filter hn)

/-- Of two nodes, the one further on ends later. -/
theorem namedChildren_stops : d.root.namedChildren.Pairwise fun a b => a.stop ≤ b.stop := by
  have hpairs :=
    h.apart.sublist (List.filter_sublist : d.root.namedChildren.Sublist d.root.children)
  refine hpairs.imp_of_mem ?_
  intro a b _ hb hab
  exact hab.trans (h.start_le_stop hb)

/-- The end of a node is not inside another one. -/
theorem not_inside_at_stop {n m : Node} (hn : n ∈ d.root.namedChildren)
    (hm : m ∈ d.root.namedChildren) : ¬(m.start < n.stop ∧ n.stop < m.stop) := by
  rintro ⟨hstart, hstop⟩
  have hne : n ≠ m := by
    rintro rfl
    exact Nat.lt_irrefl _ hstop
  have hordered := h.start_le_stop hn
  have hapart :=
    Node.apart_of_mem h.apart (List.mem_of_mem_filter hn) (List.mem_of_mem_filter hm) hne
  omega

/-- Import statements come behind the prologue. -/
theorem prologue_before_import {n statement : Node} (hn : n ∈ d.prologue)
    (hs : statement ∈ d.importStatements) : n.stop ≤ statement.stop := by
  obtain ⟨code, hcode⟩ := d.namedChildren_eq_prologue_append
  have hpairs := h.namedChildren_stops
  rw [hcode] at hpairs
  obtain ⟨hmem, hkind⟩ := List.mem_filter.1 hs
  rw [hcode] at hmem
  rcases List.mem_append.1 hmem with hmem | hmem
  · have hprologue : statement.inPrologue = true := List.mem_takeWhile_imp hmem
    rw [Node.not_inPrologue_of_import (beq_iff_eq.1 hkind)] at hprologue
    cases hprologue
  · exact (List.pairwise_append.1 hpairs).2.2 n hn statement hmem

/-- The last node of the header ends last. -/
theorem header_stop_le {n last : Node} (hn : n ∈ d.header) (hlast : d.header.getLast? = some last) :
    n.stop ≤ last.stop := by
  have hsublist : d.header.Sublist d.root.namedChildren :=
    List.filter_sublist.trans (List.takeWhile_sublist _)
  have hpairs := h.namedChildren_stops.sublist hsublist
  obtain ⟨front, hfront⟩ := List.getLast?_eq_some_iff.1 hlast
  rw [hfront] at hn hpairs
  rcases List.mem_append.1 hn with hn | hn
  · exact (List.pairwise_append.1 hpairs).2.2 n hn last List.mem_cons_self
  · rw [List.mem_singleton.1 hn]

end Document.TopOrdered

/-! ## The place of new imports -/

namespace Document

/-- The offset for new imports in a file that has some: the greatest end of one. -/
theorem importPlacement_offset_of_imports {d : Document} (h : d.imports ≠ []) :
    (∃ i ∈ d.imports, i.stop = (d.importPlacement d.imports).offset) ∧
      ∀ i ∈ d.imports, i.stop ≤ (d.importPlacement d.imports).offset := by
  have hmax : (d.imports.map (·.stop)).max? = some (d.importPlacement d.imports).offset := by
    unfold importPlacement
    cases hstops : d.imports.map (·.stop) with
    | nil => exact absurd (List.map_eq_nil_iff.1 hstops) h
    | cons first rest => rfl
  obtain ⟨hmem, hle⟩ := List.max?_eq_some_iff.1 hmax
  exact ⟨List.mem_map.1 hmem, fun i hi => hle i.stop (List.mem_map_of_mem hi)⟩

/-- The offset for new imports in a file that has none: the end of the header. -/
theorem importPlacement_offset_of_no_imports {d : Document} (h : d.imports = []) :
    (d.importPlacement d.imports).offset = (d.header.getLast?.map (·.stop)).getD 0 := by
  have hend : prologueEnd d.source.toList none d.root.namedChildren =
      d.header.getLast?.map (·.stop) := by
    rw [prologueEnd_eq, Option.or_none]
    rfl
  rw [importPlacement, h, List.map_nil]
  simp only [hend]
  cases d.header.getLast? <;> rfl

/-- An offset at which new imports leave the rest of a file as it is. -/
structure TakesImports (d : Document) (offset : Nat) : Prop where
  outside : ∀ n ∈ d.root.namedChildren, ¬(n.start < offset ∧ offset < n.stop)
  behind_prologue : ∀ n ∈ d.prologue, n.kind = "hash_bang_line" ∨
    n.isDirective = true → n.stop ≤ offset
  behind_imports : ∀ i ∈ d.imports, i.stop ≤ offset
  /-- It is no further down than that: right behind an import, else behind the header, else at the
  start. -/
  tight : (∃ i ∈ d.imports, i.stop = offset) ∨ d.imports = [] ∧
    offset = (d.header.getLast?.map (·.stop)).getD 0

/-- **New imports respect the prologue.** They go between nodes at the top level, behind the line
for the shell and all directives that the file starts with, and behind all imports. -/
theorem importPlacement_takesImports (d : Document) (h : d.TopOrdered) :
    d.TakesImports (d.importPlacement d.imports).offset := by
  by_cases himports : d.imports = []
  · have hoffset := importPlacement_offset_of_no_imports himports
    refine ⟨?_, ?_, ?_, .inr ⟨himports, hoffset⟩⟩
    · intro n hn
      rw [hoffset]
      cases hlast : d.header.getLast? with
      | none => exact fun hinside => Nat.not_lt_zero _ hinside.1
      | some last =>
        have hmem := List.mem_of_mem_filter (List.mem_of_getLast? hlast)
        exact h.not_inside_at_stop (mem_namedChildren_of_mem_prologue hmem) hn
    · intro n hn hkept
      have hheader : n ∈ d.header := List.mem_filter.2 ⟨hn, Node.headsFile_of_kept _ hkept⟩
      rw [hoffset]
      cases hlast : d.header.getLast? with
      | none =>
        rw [List.getLast?_eq_none_iff.1 hlast] at hheader
        exact absurd hheader List.not_mem_nil
      | some last => exact h.header_stop_le hheader hlast
    · intro i hi
      rw [himports] at hi
      exact absurd hi List.not_mem_nil
  · obtain ⟨⟨i, hi, hstop⟩, hle⟩ := importPlacement_offset_of_imports himports
    obtain ⟨statement, hstatement, hread⟩ := exists_readFrom hi
    have hoffset : statement.stop = (d.importPlacement d.imports).offset :=
      hread.stop_eq.symm.trans hstop
    refine ⟨?_, ?_, hle, .inl ⟨i, hi, hstop⟩⟩
    · intro n hn
      rw [← hoffset]
      exact h.not_inside_at_stop (List.mem_of_mem_filter hstatement) hn
    · intro n hn _
      rw [← hoffset]
      exact h.prologue_before_import hn hstatement

/-- A file with a line for the shell, a directive, and comments that belong to what follows them. -/
def directiveFile : Document where
  source := "#!/bin/sh\n// a\n'use client';\n// b\nx;\n"
  root := .mk { kind := "program", start := 0, stop := 37 } [
    .mk { kind := "hash_bang_line", start := 0, stop := 9 } [],
    .mk { kind := "comment", start := 10, stop := 14, extra := true } [],
    .mk { kind := "expression_statement", start := 15, stop := 28 } [
      .mk { kind := "string", start := 15, stop := 27 } [
        .mk { kind := "string_fragment", start := 16, stop := 26 } []],
      .mk { kind := ";", named := false, start := 27, stop := 28 } []],
    .mk { kind := "comment", start := 29, stop := 33, extra := true } [],
    .mk { kind := "expression_statement", start := 34, stop := 36 } [
      .mk { kind := "identifier", start := 34, stop := 35 } [],
      .mk { kind := ";", named := false, start := 35, stop := 36 } []]]

theorem importPlacement_takesImports_directiveFile :
    directiveFile.TopOrdered ∧ directiveFile.prologue.map (·.stop) = [9, 14, 28, 33] ∧
      directiveFile.importPlacement directiveFile.imports = .afterPrologue 28 ∧
      directiveFile.TakesImports (directiveFile.importPlacement directiveFile.imports).offset := by
  have hordered : directiveFile.TopOrdered := by decide
  exact ⟨hordered, by decide +kernel, by decide +kernel,
    importPlacement_takesImports directiveFile hordered⟩

end Document

end Graft
