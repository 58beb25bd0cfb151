import Graft.Query.Step
import Graft.Text.Offset

set_option autoImplicit false

/-!
# Reading queries

The text of a query is a row of patterns in parentheses. Reading one adds its steps to those of the
patterns before it.
-/

namespace Graft.Query

/-- A query that is being read. -/
structure Reading where
  /-- The length of the whole text in bytes. -/
  total : Nat
  rest : List Char
  steps : Array Step := #[]
  /-- Where the steps begin in the text. -/
  offsets : Array (Nat × Nat) := #[]
  captures : Array String := #[]
  /-- The predicates of the pattern at hand. -/
  predicates : Array (List Argument) := #[]

abbrev Reads := StateT Reading (Except Fault)

namespace Reads

/-! ## Characters -/

def offset : Reads Nat := return (← get).total - Text.byteLength (← get).rest

def fail {α : Type} (fault : Nat → Fault) : Reads α := do throw (fault (← offset))

def next : Reads (Option Char) := return (← get).rest.head?

def advance : Reads Unit := modify fun r => { r with rest := r.rest.drop 1 }

def isBlankChar (c : Char) : Bool := c == ' ' || ('\t' ≤ c && c ≤ '\r')

/-- Pass over blanks and over comments, which go from a semicolon to the end of the line. -/
def dropBlanks (inComment : Bool) : List Char → List Char
  | [] => []
  | c :: cs =>
    if inComment && c != '\x00' then dropBlanks (c != '\n') cs
    else if isBlankChar c then dropBlanks false cs
    else if c == ';' then dropBlanks true cs
    else c :: cs

def skipBlanks : Reads Unit := modify fun r => { r with rest := dropBlanks false r.rest }

def isNameStart (c : Char) : Bool := c.isAlphanum || c == '_' || c == '-'

def isNameChar (c : Char) : Bool := isNameStart c || c == '.' || c == '?' || c == '!'

/-- A name, and the offset where it begins. -/
def name : Reads (String × Nat) := do
  let start ← offset
  match (← get).rest with
  | c :: cs =>
    if isNameStart c then
      modify fun r => { r with rest := cs.dropWhile isNameChar }
      return (String.ofList (c :: cs.takeWhile isNameChar), start)
    else fail .malformed
  | [] => fail .malformed

/-- What a letter behind a backslash stands for. -/
def escaped : Char → Char
  | 'n' => '\n'
  | 'r' => '\r'
  | 't' => '\t'
  | '0' => '\x00'
  | c => c

/-- The rest of a text in quotes. -/
def quotedRest : List Char → Option (List Char × List Char)
  | [] => none
  | '"' :: cs => some ([], cs)
  | '\n' :: _ => none
  | ['\\'] => none
  | '\\' :: c :: cs => (quotedRest cs).map fun (s, rest) => (escaped c :: s, rest)
  | c :: cs => (quotedRest cs).map fun (s, rest) => (c :: s, rest)

/-- A text in quotes, and the offset of the opening quote. -/
def quoted : Reads (String × Nat) := do
  let start ← offset
  match quotedRest ((← get).rest.drop 1) with
  | some (s, rest) =>
    modify fun r => { r with rest }
    return (String.ofList s, start)
  | none => throw (.malformed start)

/-! ## Steps -/

def stepCount : Reads Nat := return (← get).steps.size

def pushStep (s : Step) : Reads Unit := modify fun r => { r with steps := r.steps.push s }

def modifyStep (i : Nat) (f : Step → Step) : Reads Unit := modify fun r => { r with steps := r.steps.modify i f }

/-- Remember where the next step begins. -/
def markOffset : Reads Unit := do
  let place ← offset
  modify fun r =>
    if (r.offsets.back?.map (·.1)) == some r.steps.size then r else { r with offsets := r.offsets.push (r.steps.size, place) }

/-- The last of the steps that can be reached by alternatives before step `limit`. -/
def lastAlternative (steps : Array Step) (limit : Nat) : Nat → Nat → Nat
  | 0, i => i
  | fuel + 1, i => match steps[i]?.bind (·.alternative) with
    | some k => if k < limit then lastAlternative steps limit fuel k else i
    | none => i

/-- A step and the alternatives further on. -/
def alternativesOf (steps : Array Step) : Nat → Nat → List Nat
  | 0, i => [i]
  | fuel + 1, i => match steps[i]?.bind (·.alternative) with
    | some k => if i < k && k < steps.size then i :: alternativesOf steps fuel k else [i]
    | none => [i]

/-- Change a step and its alternatives. -/
def modifyAll (i : Nat) (f : Step → Step) : Reads Unit := modify fun r =>
  { r with steps := (alternativesOf r.steps r.steps.size i).foldl (fun steps k => steps.modify k f) r.steps }

/-- The number of a capture; a new one is added. -/
def captureId (name : String) : Reads Nat := do
  match (← get).captures.findIdx? (· == name) with
  | some i => return i
  | none =>
    modify fun r => { r with captures := r.captures.push name }
    return (← get).captures.size - 1

/-! ## Kinds -/

/-- What a name asks for: a kind or a family of kinds. A beginning of the word for errors will do. -/
def lookUp (schema : Schema) (name : String) (named : Bool) : Option (Option Kind × Option String) :=
  if named && "ERROR".startsWith name then some (some ⟨"ERROR", true⟩, none)
  else if schema.kinds.contains ⟨name, named⟩ then some (some ⟨name, named⟩, none)
  else if named && schema.families.any (·.1 == name) then some (none, some name)
  else none

def known (schema : Schema) (name : String) (named : Bool) (place : Nat) : Reads (Option Kind × Option String) :=
  match lookUp schema name named with
  | some found => return found
  | none => throw (.unknownKind place)

/-- The step for a node whose name has been read, from behind the name on. A beginning of the word for
missing nodes will do. -/
def nodeStep (schema : Schema) (depth : Nat) (immediate : Bool) (name : String) (place : Nat) : Reads Step := do
  let step : Step := { depth := some depth, immediate }
  if name == "_" then return { step with named := true }
  else if "MISSING".startsWith name then
    let step := { step with missing := true }
    skipBlanks
    match ← next with
    | some '"' =>
      let (text, place) ← quoted
      let (kind, _) ← known schema text false (place + 1)
      return { step with kind }
    | some ')' => return { step with named := true }
    | some c =>
      if isNameStart c then
        let (inner, place) ← Reads.name
        let (kind, family) ← known schema inner true place
        return { step with kind, family }
      else fail .malformed
    | none => fail .malformed
  else
    let (kind, family) ← known schema name true place
    return { step with kind, family }

/-- The kind that a family is narrowed down to, if the text goes on that way. -/
def narrowed (schema : Schema) (step : Step) (place : Nat) : Reads Step := do
  match ← next with
  | some '/' =>
    if step.family.isNone then throw (.impossible (place - 1))
    else
      advance
      let (inner, place) ← name
      let (kind, family) ← known schema inner true place
      skipBlanks
      return { step with kind := kind.or (family.map (⟨·, true⟩)) }
  | _ => return step

/-! ## Predicates -/

/-- The arguments of a predicate up to its closing parenthesis. -/
def arguments : Nat → Reads (List Argument)
  | 0 => fail .malformed
  | fuel + 1 => do
    match ← next with
    | some ')' =>
      advance
      skipBlanks
      return []
    | some '@' =>
      advance
      let (name, place) ← name
      match (← get).captures.findIdx? (· == name) with
      | some id =>
        skipBlanks
        return .capture id :: (← arguments fuel)
      | none => throw (.unknownCapture place)
    | some '"' =>
      let (text, _) ← quoted
      skipBlanks
      return .text text :: (← arguments fuel)
    | _ =>
      let (text, _) ← name
      skipBlanks
      return .text text :: (← arguments fuel)

/-- A predicate, from behind the mark in front of its name on. -/
def predicate : Reads Unit := do
  let (function, _) ← name
  skipBlanks
  let arguments ← arguments ((← get).rest.length + 1)
  modify fun r => { r with predicates := r.predicates.push (.text function :: arguments) }

/-! ## Patterns -/

/-- Lead every branch to the next one, and the end of every branch but the last behind all of them. -/
def linkBranches : List Nat → Reads Unit
  | start :: following :: rest => do
    let count ← stepCount
    modifyStep start fun s => { s with alternative := some following }
    modifyStep (following - 1) fun s => { s with alternative := some count, deadEnd := true }
    linkBranches (following :: rest)
  | _ => return

/-- What may follow a pattern: marks of repetition and captures. `start` is its first step. -/
def suffixes (depth start : Nat) : Nat → Reads Unit
  | 0 => return
  | fuel + 1 => do
    let repetition : Step := { depth := some depth, alternative := some start, passThrough := true, alternativeImmediate := true }
    let skippable (limit : Nat) : Reads Unit := do
      let steps := (← get).steps
      modifyStep (lastAlternative steps limit steps.size start) fun s => { s with alternative := some steps.size }
    match ← next with
    | some '+' =>
      advance
      skipBlanks
      pushStep repetition
      suffixes depth start fuel
    | some '*' =>
      advance
      skipBlanks
      pushStep repetition
      skippable ((← stepCount) - 1)
      suffixes depth start fuel
    | some '?' =>
      advance
      skipBlanks
      skippable (← stepCount)
      suffixes depth start fuel
    | some '@' =>
      advance
      let (name, _) ← name
      skipBlanks
      let id ← captureId name
      modifyAll start (·.addCapture id)
      suffixes depth start fuel
    | _ => return

/-- How many absent fields a node can ask for. -/
def absentLimit : Nat := 8

mutual

/-- A pattern at a depth. There is none where the parentheses around it end. -/
def pattern (schema : Schema) : Nat → Nat → Bool → Reads Bool
  | 0, _, _ => fail .malformed
  | fuel + 1, depth, immediate => do
    let start ← stepCount
    let finish : Reads Bool := do
      skipBlanks
      suffixes depth start ((← get).rest.length + 1)
      return true
    match ← next with
    | none => fail .malformed
    | some ')' | some ']' => return false
    | some '[' =>
      markOffset
      advance
      skipBlanks
      let starts ← branches schema fuel depth immediate []
      modify fun r => { r with steps := r.steps.pop }
      linkBranches starts
      finish
    | some '(' =>
      markOffset
      advance
      skipBlanks
      match ← next with
      | some '(' | some '"' | some '[' =>
        group schema fuel depth immediate
        finish
      | some '.' | some '#' =>
        advance
        predicate
        return true
      | _ =>
        let (name, place) ← name
        let step ← nodeStep schema depth immediate name place
        skipBlanks
        pushStep (← narrowed schema step place)
        children schema fuel depth start false 0 []
        finish
    | some '_' =>
      markOffset
      advance
      skipBlanks
      pushStep { depth := some depth, immediate }
      finish
    | some '"' =>
      markOffset
      let (text, place) ← quoted
      let (kind, _) ← known schema text false (place + 1)
      pushStep { depth := some depth, immediate, kind }
      finish
    | some _ =>
      markOffset
      let (field, place) ← name
      skipBlanks
      if (← next) != some ':' then throw (.malformed place)
      advance
      skipBlanks
      if !(← pattern schema fuel depth immediate) then fail .malformed
      if !schema.fields.contains field then throw (.unknownField place)
      modifyAll start fun s => { s with field := some field }
      finish

/-- The branches of an alternative, each with a step behind it; `found` are their first steps, last
one first. -/
def branches (schema : Schema) : Nat → Nat → Bool → List Nat → Reads (List Nat)
  | 0, _, _, _ => fail .malformed
  | fuel + 1, depth, immediate, found => do
    let start ← stepCount
    if ← pattern schema fuel depth immediate then
      pushStep { depth := some depth }
      branches schema fuel depth immediate (start :: found)
    else if (← next) == some ']' && !found.isEmpty then
      advance
      return found.reverse
    else fail .malformed

/-- Patterns side by side up to the closing parenthesis. -/
def group (schema : Schema) : Nat → Nat → Bool → Reads Unit
  | 0, _, _ => fail .malformed
  | fuel + 1, depth, immediate => do
    let anchored := (← next) == some '.'
    if anchored then
      advance
      skipBlanks
    if ← pattern schema fuel depth (immediate || anchored) then group schema fuel depth false
    else if (← next) == some ')' then advance
    else fail .malformed

/-- The children of a node up to the closing parenthesis. `parent` is its step, `last` the first step
of the last child, and `absent` are the fields that it must not have. -/
def children (schema : Schema) : Nat → Nat → Nat → Bool → Nat → List String → Reads Unit
  | 0, _, _, _, _, _ => fail .malformed
  | fuel + 1, depth, parent, immediate, last, absent => do
    if (← next) == some '!' then
      advance
      skipBlanks
      let (field, place) ← name
      skipBlanks
      if !schema.fields.contains field then throw (.unknownField place)
      children schema fuel depth parent immediate last
        (if absent.length < absentLimit then absent ++ [field] else absent)
    else
      let anchored := (← next) == some '.'
      if anchored then
        advance
        skipBlanks
      let immediate := immediate || anchored
      let before ← stepCount
      let found ← pattern schema fuel (depth + 1) immediate
      if found then
        children schema fuel depth parent false (if before == (← stepCount) then before - 1 else before) absent
      else if (← next) == some ')' then
        if immediate then
          if last == 0 then fail .malformed
          modifyAll last fun s => { s with last := true }
        modifyStep parent fun s => { s with absent }
        advance
      else fail .malformed

end

end Reads

/-! ## Patterns of a query -/

/-- A pattern with where it begins in the text and among the steps, and its predicates. -/
structure Pattern where
  offset : Nat
  start : Nat
  predicates : List (List Argument)
  deriving Inhabited

/-- Read all patterns. -/
def readPatterns (schema : Schema) : Nat → Reads (List Pattern)
  | 0 => return []
  | fuel + 1 => do
    if (← get).rest.isEmpty then return []
    let offset ← Reads.offset
    let start ← Reads.stepCount
    modify fun r => { r with predicates := #[] }
    if !(← Reads.pattern schema (2 * (← get).rest.length + 2) 0 false) then Reads.fail .malformed
    Reads.pushStep .done
    let predicates := (← get).predicates.toList
    return { offset, start, predicates } :: (← readPatterns schema fuel)

/-- The patterns of a text and what was read with them. -/
def read (schema : Schema) (source : String) : Except Fault (List Pattern × Reading) :=
  let cs := source.toList
  let patterns : Reads (List Pattern) := do
    Reads.skipBlanks
    readPatterns schema (cs.length + 1)
  patterns.run { total := Text.byteLength cs, rest := cs }

end Graft.Query
