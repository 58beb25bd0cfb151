import Graft.Proofs.Walking
import Graft.Session

set_option autoImplicit false

/-!
# Diagnostics

The flawed nodes of a tree are collected by a traversal that passes over what is not flagged. None
is lost if the nodes above a flaw are flagged (`Node.flaws_eq_filter_of_flagsAbove`), and each place
with a flaw is met once. A strict session asks for the flag of the root alone, and so it fails
exactly if there is a flaw (`Session.parseFailure_isSome_iff`).
-/

namespace Graft

namespace Node

/-- A node is flagged exactly if something is wrong with it or with a node below it. -/
def FlagsFlaws (n : Node) : Prop :=
  ∀ m ∈ n.preorder, m.flawed = true ↔ ∃ k ∈ m.preorder, k.flaw.isSome = true

instance (n : Node) : Decidable n.FlagsFlaws := inferInstanceAs (Decidable (∀ m ∈ n.preorder, _))

/-- The flag of a node tells whether there is a flaw in its tree, and flags lead from there to all
of them. An error with nothing inside need not be flagged itself. -/
structure FlagsLead (n : Node) : Prop where
  above : n.FlagsAbove
  flawed_iff : n.flawed = true ↔ ∃ k ∈ n.preorder, k.flaw.isSome = true

theorem FlagsFlaws.flagsLead {n : Node} (h : n.FlagsFlaws) : n.FlagsLead where
  above := Flagged.flagsAbove fun m hm => (h m hm).2
  flawed_iff := h n n.mem_preorder_self

namespace FlagsLead

variable {n : Node} (h : n.FlagsLead)

include h

theorem flawed_iff_flaws_ne_nil : n.flawed = true ↔ n.flaws ≠ [] := by
  rw [h.flawed_iff, flaws_eq_filter_of_flagsAbove h.above, Ne, List.filter_eq_nil_iff]
  simp only [not_forall, not_not, exists_prop]

/-- The places with a flaw are met in the order of traversal. -/
theorem map_node_filter_cursors :
    ((n.cursors []).filter (·.node.flaw.isSome)).map (·.node) = n.flaws := by
  rw [flaws_eq_filter_of_flagsAbove h.above, ← map_node_cursors [] n, List.filter_map]
  rfl

/-- **Each place with a flaw is met once.** -/
theorem exists_places : ∃ places : List Cursor, places.Nodup ∧
    (∀ c, c ∈ places ↔ n.IsPlace c ∧ c.node.flaw.isSome = true) ∧
      places.map (·.node) = n.flaws := by
  refine ⟨_, (nodup_cursors n).filter _, fun c => ?_, h.map_node_filter_cursors⟩
  rw [List.mem_filter, mem_cursors_nil_iff]

end FlagsLead

end Node

namespace Session

variable {parse : String → Document} {source : String} (h : (parse source).root.FlagsLead)
  {options : SessionOptions} (hstrict : options.strictParse = true)

include h hstrict

/-- **A strict session fails exactly if its source has a flaw.** -/
theorem parseFailure_isSome_iff :
    (start parse source options).parseFailure.isSome = true ↔ (parse source).root.flaws ≠ [] := by
  rw [← h.flawed_iff_flaws_ne_nil]
  cases hflawed : (parse source).root.flawed <;> simp [start, hstrict, hflawed]

/-- The reason counts all flaws, and no code is generated. -/
theorem generate_of_flaws_ne_nil (hflaws : (parse source).root.flaws ≠ [])
    (requests : List Request) :
    ((start parse source options).push requests).generate =
      .failed [.parseFailure s!"source has {(parse source).flawCount} syntax error(s)"] := by
  have hcount : (parse source).root.flaws.length = (parse source).flawCount := by
    rw [Document.flawCount, List.countP_eq_length_filter,
      Node.flaws_eq_filter_of_flagsAbove h.above]
  have hflawed := h.flawed_iff_flaws_ne_nil.2 hflaws
  simp [start, push, generate, hstrict, hflawed, hcount]

end Session

/-- **What is collected are all the flaws, and a strict session fails exactly if there are any.**
Parts of the tree that are passed over have none: what is collected is the traversal without the
nodes that are in order, and each place with a flaw counts once. -/
theorem Session.start_diagnoses (parse : String → Document) (source : String)
    (options : SessionOptions) (hflags : (parse source).root.FlagsFlaws) :
    (parse source).root.flaws = (parse source).root.preorder.filter (·.flaw.isSome) ∧
      (∃ places : List Cursor, places.Nodup ∧
        (∀ c, c ∈ places ↔ (parse source).root.IsPlace c ∧ c.node.flaw.isSome = true) ∧
        places.map (·.node) = (parse source).root.flaws) ∧
      (options.strictParse = true →
        ((start parse source options).parseFailure.isSome = true ↔ (parse source).root.flaws ≠ []) ∧
        ((parse source).root.flaws ≠ [] →
          ∀ requests, ((start parse source options).push requests).generate =
          .failed [.parseFailure s!"source has {(parse source).flawCount} syntax error(s)"])) := by
  have hlead := hflags.flagsLead
  exact ⟨Node.flaws_eq_filter_of_flagsAbove hlead.above, hlead.exists_places, fun hstrict =>
    ⟨parseFailure_isSome_iff hlead hstrict, generate_of_flaws_ne_nil hlead hstrict⟩⟩

/-- The tree of `flawedText`: an error in an error, and a bracket that is missing. -/
def flawedTree : Node :=
  .mk { kind := "program", start := 0, stop := 11, flawed := true } [
    .mk { kind := "expression_statement", start := 0, stop := 2 } [
      .mk { kind := "identifier", start := 0, stop := 1 } [],
      .mk { kind := ";", named := false, start := 1, stop := 2 } []],
    .mk { kind := "ERROR", start := 3, stop := 11, flaw := some .error, flawed := true } [
      .mk { kind := "(", named := false, start := 3, stop := 4 } [],
      .mk { kind := "ERROR", start := 4, stop := 5, flaw := some .error, flawed := true } [
        .mk { kind := "\x7d", named := false, start := 4, stop := 5 } []],
      .mk { kind := "identifier", start := 5, stop := 6 } [],
      .mk { kind := ",", named := false, start := 6, stop := 7 } [],
      .mk { kind := "jsx_opening_element", start := 8, stop := 9, flawed := true } [
        .mk { kind := "<", named := false, start := 8, stop := 9 } [],
        .mk { kind := ">", named := false, start := 9, stop := 9, flaw := some .missing,
              flawed := true } []],
      .mk { kind := "</", named := false, start := 9, stop := 11 } []]]

def flawedText : String := "a; (\x7db, <</"

theorem Session.start_diagnoses_flawedTree :
    flawedTree.FlagsFlaws ∧
      flawedTree.flaws.map (fun n => (n.start, n.stop, n.flaw)) =
        [(3, 11, some .error), (4, 5, some .error), (9, 9, some .missing)] ∧
      flawedTree.flaws = flawedTree.preorder.filter (·.flaw.isSome) ∧
      (start (fun text => ⟨text, flawedTree⟩) flawedText
        { strictParse := true }).parseFailure.isSome = true := by
  have hflags : flawedTree.FlagsFlaws := by decide +kernel
  have hlisted : flawedTree.flaws.map (fun n => (n.start, n.stop, n.flaw)) =
      [(3, 11, some .error), (4, 5, some .error), (9, 9, some .missing)] := by decide +kernel
  have hne : flawedTree.flaws ≠ [] := by
    intro hnil
    rw [hnil] at hlisted
    cases hlisted
  obtain ⟨hall, -, hstrict⟩ :=
    start_diagnoses (fun text => ⟨text, flawedTree⟩) flawedText { strictParse := true } hflags
  exact ⟨hflags, hlisted, hall, (hstrict rfl).1.2 hne⟩

end Graft
