import Mathlib.Data.List.Nodup
import Mathlib.Logic.Function.Basic
import Graft.CodePattern.Language

set_option autoImplicit false

/-!
# Caching of patterns

A cache is faithful if everything in it is what compiling would give. Every call keeps it faithful,
in whatever order patterns are found, compiled, refused and thrown away, so nobody can tell from an
answer that there is a cache. Languages are told apart by their names, so different languages must
have different names.
-/

namespace Graft.PatternCache

variable {L : Type}

/-! ## Calls -/

/-- What is asked of a cache. -/
inductive Call (L : Type) where
  | fetch (language : L) (text : String)
  | clear

section Calls

variable (name : L → String) (compile : L → String → Except PatternError CodePattern)

/-- What a call answers, and the cache afterwards. There is no answer to a cache being emptied. -/
def call (c : PatternCache) : Call L → Option (Except PatternError CodePattern) × PatternCache
  | .fetch language text => ((c.fetch name compile language text).map some id)
  | .clear => (none, empty)

/-- What calls answer, one after the other. -/
def answers (c : PatternCache) : List (Call L) → List (Option (Except PatternError CodePattern))
  | [] => []
  | x :: calls => (c.call name compile x).1 :: (c.call name compile x).2.answers calls

/-- The cache after calls. -/
def after (c : PatternCache) : List (Call L) → PatternCache
  | [] => c
  | x :: calls => (c.call name compile x).2.after calls

/-- What a call answers without a cache. -/
def Call.fresh : Call L → Option (Except PatternError CodePattern)
  | .fetch language text => some (compile language text)
  | .clear => none

end Calls

/-! ## Entries -/

theorem get?_insert (c : PatternCache) (language text language' text' : String) (p : CodePattern) :
    (c.insert language text p).get? language' text' =
      if (language', text') = (language, text) then some p
      else if capacity ≤ c.size then none else c.get? language' text' := by
  rw [get?, insert, List.lookup_cons]
  by_cases hkey : (language', text') = (language, text)
  · rw [if_pos hkey, beq_iff_eq.2 hkey]
  · rw [if_neg hkey, beq_eq_false_iff_ne.2 hkey]
    show List.lookup (language', text') (if capacity ≤ c.size then [] else c.entries) = _
    split <;> rfl

theorem size_insert_le (c : PatternCache) (language text : String) (p : CodePattern) :
    (c.insert language text p).size ≤ capacity := by
  rw [size, insert, List.length_cons]
  split
  · decide
  · rename_i hroom
    exact Nat.lt_of_not_le hroom

theorem nodup_keys_insert {c : PatternCache} {language text : String}
    (hnew : c.get? language text = none) (hdistinct : (c.entries.map Prod.fst).Nodup)
    (p : CodePattern) : ((c.insert language text p).entries.map Prod.fst).Nodup := by
  rw [insert, List.map_cons, List.nodup_cons]
  split
  · exact ⟨List.not_mem_nil, List.nodup_nil⟩
  · refine ⟨?_, hdistinct⟩
    intro hmem
    obtain ⟨entry, hentry, hkey⟩ := List.mem_map.1 hmem
    have := List.lookup_eq_none_iff.1 hnew entry hentry
    simp [hkey] at this

/-! ## One call -/

/-- What a look-up can come to: the pattern is there, or it is compiled and kept, or it is
refused. -/
theorem fetch_cases (name : L → String) (compile : L → String → Except PatternError CodePattern)
    (c : PatternCache) (language : L) (text : String) :
    (∃ p, c.get? (name language) text = some p ∧ c.fetch name compile language text = (.ok p, c)) ∨
    (∃ p, c.get? (name language) text = none ∧ compile language text = .ok p ∧
      c.fetch name compile language text = (.ok p, c.insert (name language) text p)) ∨
    (∃ e, c.get? (name language) text = none ∧ compile language text = .error e ∧
      c.fetch name compile language text = (.error e, c)) := by
  cases hfound : c.get? (name language) text with
  | some p => exact .inl ⟨p, rfl, by simp only [fetch, hfound]⟩
  | none =>
    cases hcompiled : compile language text with
    | ok p => exact .inr (.inl ⟨p, rfl, rfl, by simp only [fetch, hfound, hcompiled]⟩)
    | error e => exact .inr (.inr ⟨e, rfl, rfl, by simp only [fetch, hfound, hcompiled]⟩)

/-- A cache that holds what compiling would give, nothing twice, and not too much. -/
structure Faithful (name : L → String) (compile : L → String → Except PatternError CodePattern)
    (c : PatternCache) : Prop where
  compiled : ∀ language text p, c.get? (name language) text = some p → compile language text = .ok p
  distinct : (c.entries.map Prod.fst).Nodup
  size_le : c.size ≤ capacity

namespace Faithful

variable {name : L → String} {compile : L → String → Except PatternError CodePattern}
  {c : PatternCache}

theorem empty : Faithful name compile empty where
  compiled := by
    rintro language text p ⟨⟩
  distinct := List.nodup_nil
  size_le := Nat.zero_le _

theorem insert (hname : Function.Injective name) (h : Faithful name compile c) {language : L}
    {text : String} {p : CodePattern} (hnew : c.get? (name language) text = none)
    (hcompiled : compile language text = .ok p) :
    Faithful name compile (c.insert (name language) text p) where
  compiled := by
    intro language' text' p' hfound
    rw [get?_insert] at hfound
    split at hfound
    · -- The name stands for one language only, so this is the pattern that was put in.
      rename_i hkey
      obtain ⟨hlanguage, rfl⟩ := Prod.mk.inj hkey
      cases hname hlanguage
      cases hfound
      exact hcompiled
    · split at hfound
      · cases hfound
      · exact h.compiled language' text' p' hfound
  distinct := nodup_keys_insert hnew h.distinct p
  size_le := c.size_insert_le _ _ _

/-- A look-up answers what compiling would give. -/
theorem fetch_fst (h : Faithful name compile c) (language : L) (text : String) :
    (c.fetch name compile language text).1 = compile language text := by
  obtain ⟨p, hfound, hfetch⟩ | ⟨p, -, hcompiled, hfetch⟩ | ⟨e, -, hrefused, hfetch⟩ :=
    fetch_cases name compile c language text
  · rw [hfetch, h.compiled language text p hfound]
  · rw [hfetch, hcompiled]
  · rw [hfetch, hrefused]

/-- A text that is refused leaves no trace. -/
theorem fetch_refused (h : Faithful name compile c) {language : L} {text : String}
    {e : PatternError} (hrefused : compile language text = .error e) :
    (c.fetch name compile language text).2 = c := by
  obtain ⟨p, hfound, -⟩ | ⟨p, -, hcompiled, -⟩ | ⟨e, -, -, hfetch⟩ :=
    fetch_cases name compile c language text
  · rw [h.compiled language text p hfound] at hrefused
    cases hrefused
  · rw [hcompiled] at hrefused
    cases hrefused
  · rw [hfetch]

/-- A pattern is held once it has been looked up. -/
theorem fetch_held (h : Faithful name compile c) {language : L} {text : String} {p : CodePattern}
    (hcompiled : compile language text = .ok p) :
    (c.fetch name compile language text).2.get? (name language) text = some p := by
  obtain ⟨q, hfound, hfetch⟩ | ⟨q, -, hq, hfetch⟩ | ⟨e, -, hrefused, -⟩ :=
    fetch_cases name compile c language text
  · rw [hfetch, hfound]
    rw [h.compiled language text q hfound] at hcompiled
    cases hcompiled
    rfl
  · rw [hfetch, get?_insert, if_pos rfl]
    rw [hq] at hcompiled
    cases hcompiled
    rfl
  · rw [hrefused] at hcompiled
    cases hcompiled

theorem call (hname : Function.Injective name) (h : Faithful name compile c) (x : Call L) :
    (c.call name compile x).1 = x.fresh compile ∧
      Faithful name compile (c.call name compile x).2 := by
  cases x with
  | clear => exact ⟨rfl, empty⟩
  | fetch language text =>
    refine ⟨congrArg some (h.fetch_fst language text), ?_⟩
    show Faithful name compile (c.fetch name compile language text).2
    obtain ⟨p, -, hfetch⟩ | ⟨p, hnew, hcompiled, hfetch⟩ | ⟨e, -, -, hfetch⟩ :=
      fetch_cases name compile c language text
    · rwa [hfetch]
    · rw [hfetch]
      exact h.insert hname hnew hcompiled
    · rwa [hfetch]

/-! ## All calls -/

theorem answers (hname : Function.Injective name) (h : Faithful name compile c)
    (calls : List (Call L)) : c.answers name compile calls = calls.map (Call.fresh compile) := by
  induction calls generalizing c with
  | nil => rfl
  | cons x calls ih =>
    obtain ⟨hanswer, hafter⟩ := h.call hname x
    rw [PatternCache.answers, hanswer, ih hafter, List.map_cons]

theorem after (hname : Function.Injective name) (h : Faithful name compile c)
    (calls : List (Call L)) : Faithful name compile (c.after name compile calls) := by
  induction calls generalizing c with
  | nil => exact h
  | cons x calls ih => exact ih (h.call hname x).2

end Faithful

/-- **A cache cannot be noticed.** Whatever was looked up and thrown away before, every look-up
answers what compiling would give, and no more than 256 patterns are held, none of them twice. A
text that is refused leaves the cache as it is, and a pattern that has been looked up is held. -/
theorem answers_transparent (name : L → String)
    (compile : L → String → Except PatternError CodePattern) (hname : Function.Injective name)
    (calls : List (Call L)) :
    empty.answers name compile calls = calls.map (Call.fresh compile) ∧
      (empty.after name compile calls).size ≤ 256 ∧
      ((empty.after name compile calls).entries.map Prod.fst).Nodup ∧
      ∀ language text, let c := empty.after name compile calls
        (∀ e, compile language text = .error e → (c.fetch name compile language text).2 = c) ∧
        ∀ p, compile language text = .ok p →
          (c.fetch name compile language text).2.get? (name language) text = some p := by
  have hfaithful : Faithful name compile (empty.after name compile calls) :=
    Faithful.empty.after hname calls
  refine ⟨Faithful.empty.answers hname calls, hfaithful.size_le, hfaithful.distinct, ?_⟩
  intro language text
  exact ⟨fun e hrefused => hfaithful.fetch_refused hrefused,
    fun p hcompiled => hfaithful.fetch_held hcompiled⟩

end Graft.PatternCache

namespace Graft

theorem PatternLanguage.name_injective : Function.Injective PatternLanguage.name := by
  rintro (_ | _) (_ | _) h
  · rfl
  · exact absurd h (by decide)
  · exact absurd h (by decide)
  · rfl

/-- One text in two languages, before and after the cache is emptied. -/
def PatternCache.inBothLanguages : List (Call PatternLanguage) :=
  [.fetch .tsx "useState($INIT)", .fetch .typescript "useState($INIT)",
    .fetch .tsx "let a = 1; let b = 2;", .clear, .fetch .typescript "useState($INIT)"]

theorem PatternCache.answers_transparent_inBothLanguages :
    Function.Injective PatternLanguage.name ∧
      empty.answers PatternLanguage.name PatternLanguage.compile inBothLanguages =
        inBothLanguages.map (Call.fresh PatternLanguage.compile) ∧
      (empty.after PatternLanguage.name PatternLanguage.compile inBothLanguages).size ≤ 256 :=
  have h := answers_transparent PatternLanguage.name PatternLanguage.compile
    PatternLanguage.name_injective inBothLanguages
  ⟨PatternLanguage.name_injective, h.1, h.2.1⟩

end Graft
