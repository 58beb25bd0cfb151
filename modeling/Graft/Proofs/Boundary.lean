import Graft.Text.Offset

set_option autoImplicit false

/-!
# Good offsets

An offset of a text is good exactly if the text is a beginning of that many bytes and a rest.
Everything else about offsets follows from this: two good offsets cut a text in three, and an offset
stays good when only the text behind it changes.
-/

namespace Graft.Text

/-! ## Splitting -/

theorem splitBytes_zero (cs : List Char) : splitBytes cs 0 = some ([], cs) := by
  cases cs <;> rfl

/-- A text splits where one part of it ends. -/
theorem splitBytes_append_byteLength (a b : List Char) :
    splitBytes (a ++ b) (byteLength a) = some (a, b) := by
  induction a with
  | nil => exact splitBytes_zero b
  | cons c cs ih =>
    have hpos := c.utf8Size_pos
    obtain ⟨n, hn⟩ : ∃ n, c.utf8Size + byteLength cs = n + 1 :=
      ⟨c.utf8Size + byteLength cs - 1, by omega⟩
    have hle : c.utf8Size ≤ n + 1 := by omega
    have hrest : n + 1 - c.utf8Size = byteLength cs := by omega
    rw [byteLength_cons, hn, List.cons_append, splitBytes, if_pos hle, hrest, ih]
    rfl

theorem splitBytes_eq_some_iff {cs before after : List Char} {n : Nat} :
    splitBytes cs n = some (before, after) ↔ cs = before ++ after ∧ byteLength before = n := by
  constructor
  · intro h
    obtain ⟨rfl, hn⟩ := splitBytes_append h
    exact ⟨rfl, hn⟩
  · rintro ⟨rfl, rfl⟩
    exact splitBytes_append_byteLength before after

/-! ## Good offsets -/

theorem isBoundary_iff {cs : List Char} {n : Nat} :
    isBoundary cs n = true ↔ ∃ a b, cs = a ++ b ∧ byteLength a = n := by
  rw [isBoundary, Option.isSome_iff_exists]
  constructor
  · rintro ⟨⟨a, b⟩, h⟩
    exact ⟨a, b, splitBytes_eq_some_iff.1 h⟩
  · rintro ⟨a, b, h⟩
    exact ⟨(a, b), splitBytes_eq_some_iff.2 h⟩

theorem isBoundary_append_byteLength (a b : List Char) :
    isBoundary (a ++ b) (byteLength a) = true :=
  isBoundary_iff.2 ⟨a, b, rfl, rfl⟩

theorem isBoundary_zero (cs : List Char) : isBoundary cs 0 = true :=
  isBoundary_append_byteLength [] cs

theorem isBoundary_byteLength (cs : List Char) : isBoundary cs (byteLength cs) = true :=
  isBoundary_iff.2 ⟨cs, [], (List.append_nil cs).symm, rfl⟩

theorem le_byteLength_of_isBoundary {cs : List Char} {n : Nat} (h : isBoundary cs n = true) :
    n ≤ byteLength cs := by
  obtain ⟨a, b, rfl, rfl⟩ := isBoundary_iff.1 h
  simp only [byteLength_append]
  omega

/-- A good offset behind a beginning is one of the rest. -/
theorem exists_split_behind {pre cs : List Char} {n : Nat} (h : isBoundary (pre ++ cs) n = true)
    (hle : byteLength pre ≤ n) : ∃ a b, cs = a ++ b ∧ byteLength pre + byteLength a = n := by
  obtain ⟨a, b, hab, rfl⟩ := isBoundary_iff.1 h
  rcases List.append_eq_append_iff.1 hab with ⟨m, rfl, rfl⟩ | ⟨m, rfl, rfl⟩
  · exact ⟨m, b, rfl, (byteLength_append pre m).symm⟩
  · -- The beginning reaches beyond the offset, so what it has more is empty.
    have hm : byteLength m = 0 := by
      simp only [byteLength_append] at hle
      omega
    cases m with
    | nil => exact ⟨[], cs, rfl, by simp⟩
    | cons c rest =>
      have hpos := c.utf8Size_pos
      simp only [byteLength_cons] at hm
      omega

/-- Two good offsets cut a text in three. -/
theorem exists_split_between (pre cs : List Char) {m n : Nat} (hm : isBoundary (pre ++ cs) m = true)
    (hn : isBoundary (pre ++ cs) n = true) (hpre : byteLength pre ≤ m) (hle : m ≤ n) :
    ∃ a b c, cs = a ++ (b ++ c) ∧ byteLength pre + byteLength a = m ∧ m + byteLength b = n := by
  obtain ⟨a, rest, rfl, ha⟩ := exists_split_behind hm hpre
  have hn' : isBoundary ((pre ++ a) ++ rest) n = true := by rwa [List.append_assoc]
  obtain ⟨b, c, rfl, hb⟩ := exists_split_behind hn' (by simp only [byteLength_append]; omega)
  refine ⟨a, b, c, rfl, ha, ?_⟩
  simp only [byteLength_append] at hb
  omega

/-- The text between two offsets is what a cut in three leaves in the middle. -/
theorem slice?_append (a b c : List Char) :
    slice? (a ++ (b ++ c)) (byteLength a) (byteLength a + byteLength b) = some b := by
  rw [slice?, if_pos (Nat.le_add_right _ _), splitBytes_append_byteLength]
  simp only [Option.bind_eq_bind, Option.bind_some, Nat.add_sub_cancel_left,
    splitBytes_append_byteLength]
  rfl

end Graft.Text
