import Graft.Lexicon.Position
import Graft.Text.Source
import Std.Data.HashMap

set_option autoImplicit false

/-!
# The scanner

A scanner reads the longest token among those that are looked for. It runs over states that are
sets of positions in token patterns, prepared for all combinations of tokens that can be looked for
together.
-/

namespace Graft.Lexicon

/-- What a scanner reads: an ordinary token or the end of the text. -/
inductive Lexeme where
  | token (index : Nat)
  | eof
  deriving BEq, DecidableEq, Inhabited

/-- A scanner over the characters of given classes. -/
structure Scanner where
  classes : CharClasses
  /-- For every state and class, zero, or twice one plus the next state, plus one for a blank in
  front of the token. -/
  next : Array (Array Nat)
  /-- The token that is complete in a state. -/
  accepts : Array (Option Nat)
  /-- Whether the text may end in a state. -/
  atEnd : Array Bool
  /-- The first state of each combination of tokens. -/
  starts : Array Nat
  deriving Inhabited

/-- How a run of the scanner ends: the token found with its start and end, and the place where the
scanner stopped, which may be behind the end. -/
structure Scan where
  lexeme : Option Lexeme
  start : Nat
  stop : Nat
  place : Nat
  deriving Inhabited

/-! ## Construction -/

/-- States found so far, by the positions they stand for. -/
structure ScannerStates where
  fronts : Array (Front × Bool) := #[]
  index : Std.HashMap (Front × Bool) Nat := {}

def ScannerStates.add (s : ScannerStates) (f : Front) (ending : Bool) : Nat × ScannerStates :=
  match s.index[(f, ending)]? with
  | some n => (n, s)
  | none => (s.fronts.size, ⟨s.fronts.push (f, ending), s.index.insert (f, ending) s.fronts.size⟩)

/-- Whether a character is read only because it is not one of a few others: it is the null character, and
the last character of all would be read in the same way. Such a null character ends a token. -/
def readsByDefault (p : Patterns) (f : Front) (k : Nat) : Bool :=
  k == p.classes.classOf 0 && p.advance f k == p.advance f (p.classes.classOf CharSet.last)

/-- The transitions of one state. -/
def transitionsOf (p : Patterns) (f : Front) (ending : Bool) (states : ScannerStates) :
    Array Nat × ScannerStates :=
  let done := p.completed f
  let atBlank := p.atSeparator f
  let reads := p.readable f
  (List.range p.classes.count).foldl (fun (row, states) k =>
    if !reads.contains k || readsByDefault p f k then (row.push 0, states) else
    match p.advance f k with
    | none => (row.push 0, states)
    | some a =>
      let allowed := match done with
        | some d => p.goesOn a d atBlank
        | none => true
      if allowed then
        let (n, states) := states.add a.goal (ending && a.separates)
        (row.push (2 * (n + 1) + if a.separates then 1 else 0), states)
      else (row.push 0, states)) (Array.emptyWithCapacity p.classes.count, states)

/-- The scanner for several combinations of tokens, each with or without the end of the text. -/
def Scanner.build (p : Patterns) (modes : List (List Nat × Bool)) (limit : Nat) : Scanner := Id.run do
  let mut states : ScannerStates := {}
  let mut starts : Array Nat := #[]
  for (tokens, ending) in modes do
    let (n, s) := states.add (p.front tokens) ending
    states := s
    starts := starts.push n
  let mut next : Array (Array Nat) := #[]
  for i in [0:limit] do
    if i ≥ states.fronts.size then break
    let (f, ending) := states.fronts.getD i default
    let (row, s) := transitionsOf p f ending states
    states := s
    next := next.push row
  return {
    classes := p.classes
    next
    accepts := states.fronts.map fun (f, _) => p.completed f
    atEnd := states.fronts.map (·.2)
    starts }

/-! ## Reading -/

namespace Scanner

/-- Read on from a place. `start` is where the token begins, `found` the last complete token with
its end. -/
def run (s : Scanner) (source : Source) : Nat → Nat → Nat → Nat → Option (Nat × Nat) → Scan
  | 0, _, place, start, _ => ⟨none, start, place, place⟩
  | fuel + 1, state, place, start, found =>
    let found := match s.accepts.getD state none with
      | some token => some (token, place)
      | none => found
    let finish : Scan := match found with
      | some (token, stop) => ⟨some (.token token), start, stop, place⟩
      | none => ⟨none, start, place, place⟩
    match source.get? place with
    | none => if s.atEnd.getD state false then ⟨some .eof, start, place, place⟩ else finish
    | some c =>
      let n := (s.next.getD state #[]).getD (s.classes.classOf c.toNat) 0
      if n == 0 then finish
      else if n % 2 == 1 then s.run source fuel (n / 2 - 1) (place + 1) (place + 1) found
      else s.run source fuel (n / 2 - 1) (place + 1) start found

/-- Read a token of a combination. -/
def scan (s : Scanner) (source : Source) (mode place : Nat) : Scan :=
  s.run source (source.size + 2 - place) (s.starts.getD mode 0) place place none

end Scanner

end Graft.Lexicon
