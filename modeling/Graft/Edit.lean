import Graft.Hash
import Graft.Text.Offset
import Graft.Text.Quoted

set_option autoImplicit false

/-!
# Edits

An edit replaces a range of bytes of a text; an empty range makes it an insertion. It knows what the
range should hold, so that an edit for another text is noticed. Several edits of one text are made
from its end to its start, so that the offsets of those still to come stay right.
-/

namespace Graft

/-- What the range of an edit should hold. Long text is remembered by its hash. -/
inductive Expectation where
  | exact (text : String)
  | hash (value : UInt64)
  deriving BEq, DecidableEq, Inhabited, Repr

namespace Expectation

/-- Text of more bytes than this is remembered by its hash. -/
def longest : Nat := 1024

def ofText (text : String) : Expectation :=
  if Text.byteLength text.toList > longest then hash (Hash.ofText text) else exact text

def holdsOf : Expectation → String → Bool
  | exact expected, text => text == expected
  | hash expected, text => Hash.ofText text == expected

def render : Expectation → String
  | exact text => s!"ExactMatch({Text.quoted text})"
  | hash value => s!"Hash({value.toNat})"

end Expectation

/-- A range of bytes and the text that takes its place. -/
structure Edit where
  start : Nat
  stop : Nat
  text : String
  expected : Expectation := .exact ""
  /-- Of insertions at the same offset, those of lower order come first. -/
  order : Int := 0
  deriving BEq, DecidableEq, Inhabited, Repr

/-- Why an edit cannot be made. -/
inductive EditError where
  | mismatch (start stop : Nat) (expected : Expectation) (found : String)
  | invalidRange (start stop length : Nat)
  | notBoundary (offset : Nat)
  | overlap (firstStart firstStop secondStart secondStop : Nat)
  deriving BEq, DecidableEq, Inhabited, Repr

def EditError.message : EditError → String
  | mismatch start stop _ _ => s!"before-text verification failed at bytes {start}..{stop}"
  | invalidRange start stop length => s!"invalid byte range [{start}, {stop}) in source of length {length}"
  | notBoundary offset => s!"byte offset {offset} is not on a UTF-8 character boundary"
  | overlap a b c d => s!"edits overlap: [{a}, {b}) and [{c}, {d})"

namespace Edit

/-- Replace a range that holds `before`. -/
def replacement (start stop : Nat) (text before : String) : Edit :=
  { start, stop, text, expected := .ofText before }

def insertion (offset : Nat) (text : String) : Edit := { start := offset, stop := offset, text }

def isInsertion (e : Edit) : Bool := e.start == e.stop

/-- Whether two edits get in each other's way. An insertion does so only strictly inside a range. -/
def overlaps (e f : Edit) : Bool :=
  match e.isInsertion, f.isInsertion with
  | true, true => false
  | true, false => f.start < e.start && e.start < f.stop
  | false, true => e.start < f.start && f.start < e.stop
  | false, false => e.start < f.stop && f.start < e.stop

/-- Check an edit against the text that it is for. -/
def check (source : List Char) (e : Edit) : Except EditError Unit :=
  let length := Text.byteLength source
  if e.stop < e.start || length < e.stop then .error (.invalidRange e.start e.stop length)
  else if !Text.isBoundary source e.start then .error (.notBoundary e.start)
  else if !Text.isBoundary source e.stop then .error (.notBoundary e.stop)
  else
    let found := String.ofList ((Text.slice? source e.start e.stop).getD [])
    if e.expected.holdsOf found then .ok () else .error (.mismatch e.start e.stop e.expected found)

/-- The text with the range of the edit replaced. -/
def splice (source : List Char) (e : Edit) : List Char :=
  match Text.splitBytes source e.start with
  | none => source
  | some (before, rest) => match Text.splitBytes rest (e.stop - e.start) with
    | none => source
    | some (_, after) => before ++ e.text.toList ++ after

/-- Make one edit. -/
def apply (source : String) (e : Edit) : Except EditError String := do
  e.check source.toList
  return String.ofList (e.splice source.toList)

/-- The order in which edits are made: from the end of the text; at the same offset a replacement
before insertions, and of insertions those that are to stand last. -/
def spliceOrder (e f : Edit) : Ordering :=
  (compare f.start e.start).then <|
  (compare e.isInsertion f.isInsertion).then <|
  compare f.order e.order

/-- The first pair of neighbours in a list that get in each other's way. -/
def firstOverlap : List Edit → Option EditError
  | later :: earlier :: rest =>
    if earlier.overlaps later then some (.overlap earlier.start earlier.stop later.start later.stop)
    else firstOverlap (earlier :: rest)
  | _ => none

/-- The edits in the order in which they are made. -/
def sorted (edits : List Edit) : List Edit := edits.mergeSort fun e f => (spliceOrder e f).isLE

/-- Make several edits of one text. -/
def applyBatch (source : String) (edits : List Edit) : Except EditError String := do
  edits.forM (check source.toList)
  match firstOverlap (sorted edits) with
  | some error => throw error
  | none => return String.ofList ((sorted edits).foldl splice source.toList)

end Edit

end Graft
