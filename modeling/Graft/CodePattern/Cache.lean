import Graft.CodePattern

set_option autoImplicit false

/-!
# A cache of compiled patterns

Compiled patterns are kept by the name of their language and by their text. When the cache is full it is
emptied before the next pattern goes in. Texts that are no patterns are not kept.
-/

namespace Graft

/-- The languages that patterns are written in. -/
inductive PatternLanguage where
  | tsx
  | typescript
  deriving BEq, DecidableEq, Inhabited, Repr

/-- The name that the patterns of a language are kept under. -/
def PatternLanguage.name : PatternLanguage → String
  | tsx => "Tsx"
  | typescript => "TypeScript"

/-- Compiled patterns by the name of a language and their text. -/
structure PatternCache where
  entries : List ((String × String) × CodePattern) := []
  deriving Inhabited

namespace PatternCache

/-- How many patterns are kept at most. -/
def capacity : Nat := 256

def empty : PatternCache := {}

def size (c : PatternCache) : Nat := c.entries.length

def get? (c : PatternCache) (language text : String) : Option CodePattern := c.entries.lookup (language, text)

/-- Keep a pattern that is not there yet. -/
def insert (c : PatternCache) (language text : String) (p : CodePattern) : PatternCache :=
  ⟨((language, text), p) :: if capacity ≤ c.size then [] else c.entries⟩

/-- Look a pattern up under the name of its language, and compile it if it is not there. -/
def fetch {L : Type} (name : L → String) (compile : L → String → Except PatternError CodePattern) (c : PatternCache)
    (language : L) (text : String) : Except PatternError CodePattern × PatternCache :=
  match c.get? (name language) text with
  | some p => (.ok p, c)
  | none => match compile language text with
    | .ok p => (.ok p, c.insert (name language) text p)
    | .error e => (.error e, c)

/-- Look a pattern up, and compile it if it is not there. -/
def getOrCompile (compile : PatternLanguage → String → Except PatternError CodePattern) (c : PatternCache)
    (language : PatternLanguage) (text : String) : Except PatternError CodePattern × PatternCache :=
  c.fetch PatternLanguage.name compile language text

end PatternCache

end Graft
