import Mathlib.Logic.Function.Iterate
import Graft.CommandLine
import Graft.Proofs.PlanChecks
import Graft.Proofs.Selection
import Graft.Query.Component

set_option autoImplicit false

/-!
# Files after a run

A run that writes goes through the paths that were selected and rewrites the file that each of them
leads to, as it finds it. So what becomes of a file depends on the file itself and on how many of
the paths lead to it: the plan is carried out on it once for each. Other files and other paths have
no part in it.
-/

namespace Graft

namespace CommandLine

namespace FileTree

/-! ## Places -/

/-- The same files and folders, whatever is in the files. -/
structure SameShape (t u : FileTree) : Prop where
  places : t.files.map Prod.fst = u.files.map Prod.fst
  folders : t.folders = u.folders

namespace SameShape

variable {t u : FileTree}

theorem refl (t : FileTree) : SameShape t t := ⟨rfl, rfl⟩

theorem hasFolder (h : SameShape t u) (place : Place) : t.hasFolder place = u.hasFolder place := by
  have hany : ∀ v : FileTree, (v.files.any fun f => (Place.below? f.1 place).isSome) =
      (v.files.map Prod.fst).any fun p => (Place.below? p place).isSome := by
    intro v
    rw [List.any_map]
    rfl
  rw [FileTree.hasFolder, FileTree.hasFolder, h.folders, hany, hany, h.places]

/-- Paths lead to the same places. -/
theorem locate? (h : SameShape t u) (path : String) : t.locate? path = u.locate? path := by
  have hstep : t.step? = u.step? := by
    funext place step
    unfold FileTree.step?
    simp only [h.hasFolder]
  rw [FileTree.locate?, FileTree.locate?, hstep]

end SameShape

theorem any_of_at? {t : FileTree} {place : Place} {text : String} (h : t.at? place = some text) :
    (t.files.any (·.1 == place)) = true := by
  obtain ⟨f, hf, rfl⟩ := List.mem_map.1 (mem_places h)
  exact List.any_eq_true.2 ⟨f, hf, beq_self_eq_true f.1⟩

theorem sameShape_put {t : FileTree} {place : Place} {text : String} (h : t.at? place = some text)
    (new : String) : SameShape t (t.put place new) := by
  rw [put, if_pos (any_of_at? h)]
  refine ⟨?_, rfl⟩
  rw [List.map_map]
  refine List.map_congr_left fun f _ => ?_
  rw [Function.comp_apply]
  split
  · rename_i hplace
    exact beq_iff_eq.1 hplace
  · rfl

theorem lookup_replaced (files : List (Place × String)) (place other : Place) (new : String) :
    (files.map fun f => if f.1 == place then (place, new) else f).lookup other =
      if place = other then (files.lookup other).map fun _ => new else files.lookup other := by
  induction files with
  | nil => simp
  | cons f files ih =>
    obtain ⟨q, text⟩ := f
    rw [List.map_cons, List.lookup_cons, List.lookup_cons, ih]
    by_cases hother : other = q
    · subst hother
      by_cases hplace : place = other
      · simp [hplace]
      · simp [hplace, Ne.symm hplace]
    · have hne : (other == q) = false := beq_eq_false_iff_ne.2 hother
      by_cases hq : q = place
      · subst hq
        simp [hne, Ne.symm hother]
      · simp [hne, hq]

theorem at?_put {t : FileTree} {place : Place} {text : String} (h : t.at? place = some text)
    (new : String) (other : Place) :
    (t.put place new).at? other = if place = other then some new else t.at? other := by
  rw [at?, at?, put, if_pos (any_of_at? h)]
  show List.lookup other (t.files.map fun f => if f.1 == place then (place, new) else f) = _
  rw [lookup_replaced]
  split
  · rename_i hother
    rw [at?, hother] at h
    rw [h, Option.map_some]
  · rfl

/-! ## One path -/

theorem SameShape.visits {t u : FileTree} (h : SameShape t u) (paths : List String)
    (place : Place) : t.visits paths place = u.visits paths place := by
  rw [FileTree.visits, FileTree.visits]
  simp only [h.locate?]

/-- One file tree becomes another when the file that a path leads to is rewritten. -/
structure Rewrites (f : String → String) (path : String) (t u : FileTree) : Prop where
  shape : SameShape t u
  at?_eq : ∀ place, u.at? place =
    if t.locate? path = some place then (t.at? place).map f else t.at? place

namespace Rewrites

variable {f : String → String} {path : String} {t : FileTree}

/-- There is nothing to rewrite if there is no file. -/
theorem missing (h : t.read? path = none) : Rewrites f path t t where
  shape := .refl t
  at?_eq place := by
    split
    · rename_i hplace
      rw [read?, hplace, Option.bind_some] at h
      rw [at?, h, Option.map_none]
    · rfl

/-- A file that comes out as it was need not be written. -/
theorem unchanged {text : String} (h : t.read? path = some text)
    (hf : f text = text) : Rewrites f path t t where
  shape := .refl t
  at?_eq place := by
    split
    · rename_i hplace
      rw [read?, hplace, Option.bind_some] at h
      rw [at?, h, Option.map_some, hf]
    · rfl

theorem written {text : String} (h : t.read? path = some text) :
    Rewrites f path t (t.write path (f text)) := by
  obtain ⟨place, hplace, hfile⟩ := Option.bind_eq_some_iff.1 h
  rw [write, hplace]
  refine ⟨sameShape_put hfile _, fun other => ?_⟩
  show (t.put place (f text)).at? other = _
  rw [at?_put hfile]
  simp only [hplace, Option.some_inj]
  split
  · rename_i hother
    rw [← hother, at?, hfile, Option.map_some]
  · rfl

end Rewrites

end FileTree

variable (tools : Tools) {plan : Plan}

@[simp] theorem Run.print_files (r : Run) (text : String) : (r.print text).files = r.files := rfl

end CommandLine

end Graft
