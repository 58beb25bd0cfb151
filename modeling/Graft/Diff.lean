set_option autoImplicit false

/-!
# Line differences

The difference of two texts is a row of chunks: lines that both have, lines that only the first has,
and lines that only the second has. A shortest row is found by searching from both ends at once and
splitting where the searches meet. Afterwards changes next to each other come together; insertions are
also moved along the lines that both texts have to meet one another.
-/

namespace Graft.Diff

/-! ## Lines -/

/-- The lines of a text with their breaks: a line feed, a carriage return, or both. -/
def splitLines (line : List Char) : List Char → List String
  | [] => if line.isEmpty then [] else [String.ofList line.reverse]
  | '\r' :: '\n' :: cs => String.ofList ('\n' :: '\r' :: line).reverse :: splitLines [] cs
  | c :: cs =>
    if c == '\n' || c == '\r' then String.ofList (c :: line).reverse :: splitLines [] cs else splitLines (c :: line) cs

/-- The lines of a text. -/
def linesOf (text : String) : Array String := (splitLines [] text.toList).toArray

/-! ## Chunks -/

inductive Tag where
  | same
  | deleted
  | inserted
  deriving BEq, DecidableEq, Inhabited, Repr

structure Chunk where
  tag : Tag
  lines : List String
  deriving BEq, DecidableEq, Inhabited, Repr

/-- How many items two lists have in common at the front. -/
def commonLength : List String → List String → Nat
  | a :: as, b :: bs => if a == b then commonLength as bs + 1 else 0
  | _, _ => 0

/-- How many items two lists have in common at the end. -/
def commonEnd (as bs : List String) : Nat := commonLength as.reverse bs.reverse

/-! ## Searching -/

/-- Part of an array. -/
structure Range where
  start : Nat
  stop : Nat
  deriving Inhabited

def Range.size (r : Range) : Nat := r.stop - r.start

def Range.items (r : Range) (xs : Array String) : List String := (xs.extract r.start r.stop).toList

/-- How far two arrays agree from two places on. -/
def runForward (old new : Array String) (stopOld stopNew : Nat) : Nat → Nat → Nat → Nat
  | 0, _, _ => 0
  | fuel + 1, i, k =>
    if i < stopOld && k < stopNew && old.getD i "" == new.getD k "" then runForward old new stopOld stopNew fuel (i + 1) (k + 1) + 1
    else 0

/-- How far two arrays agree before two places. -/
def runBackward (old new : Array String) (startOld startNew : Nat) : Nat → Nat → Nat → Nat
  | 0, _, _ => 0
  | fuel + 1, i, k =>
    if startOld < i && startNew < k && old.getD (i - 1) "" == new.getD (k - 1) "" then
      runBackward old new startOld startNew fuel (i - 1) (k - 1) + 1
    else 0

/-- How far the searches have come on each diagonal. -/
structure Fronts where
  forward : Array Nat
  backward : Array Nat
  /-- Where the diagonal through the corner is kept. -/
  middle : Nat

namespace Fronts

def index (f : Fronts) (k : Int) : Nat := (k + f.middle).toNat

def ahead (f : Fronts) (k : Int) : Nat := f.forward.getD (f.index k) 0

def behind (f : Fronts) (k : Int) : Nat := f.backward.getD (f.index k) 0

def setAhead (f : Fronts) (k : Int) (x : Nat) : Fronts := { f with forward := f.forward.setIfInBounds (f.index k) x }

def setBehind (f : Fronts) (k : Int) (x : Nat) : Fronts := { f with backward := f.backward.setIfInBounds (f.index k) x }

end Fronts

/-- The place on a diagonal to go on from: coming from the diagonal above or from the one below. -/
def comeFrom (reached : Int → Nat) (d k : Int) : Nat :=
  if k == -d || (k != d && reached (k - 1) < reached (k + 1)) then reached (k + 1) else reached (k - 1) + 1

/-- Go on forward on the diagonal `k` after `d` changes; the place where the searches meet, if they do. -/
def stepForward (old new : Array String) (r s : Range) (d k : Int) (f : Fronts) : Fronts × Option (Nat × Nat) :=
  let delta : Int := (r.size : Int) - s.size
  let x := comeFrom f.ahead d k
  let y := ((x : Int) - k).toNat
  let reach := x + runForward old new r.stop s.stop (r.size + s.size + 1) (r.start + x) (s.start + y)
  let f := f.setAhead k reach
  if delta % 2 != 0 && (k - delta).natAbs ≤ d - 1 && r.size ≤ reach + f.behind (-(k - delta)) then
    (f, some (x + r.start, y + s.start))
  else (f, none)

/-- Go on backward on the diagonal `k` after `d` changes. -/
def stepBackward (old new : Array String) (r s : Range) (d k : Int) (f : Fronts) : Fronts × Option (Nat × Nat) :=
  let delta : Int := (r.size : Int) - s.size
  let x := comeFrom f.behind d k
  let y := ((x : Int) - k).toNat
  let run := if x < r.size && y < s.size then
      runBackward old new r.start s.start (r.size + s.size + 1) (r.start + r.size - x) (s.start + s.size - y)
    else 0
  let f := f.setBehind k (x + run)
  if delta % 2 == 0 && (k - delta).natAbs ≤ d && r.size ≤ x + run + f.ahead (-(k - delta)) then
    (f, some (r.size - (x + run) + r.start, s.size - (y + run) + s.start))
  else (f, none)

/-- Take steps until one gives a place. -/
def firstMeeting (step : Int → Fronts → Fronts × Option (Nat × Nat)) : List Int → Fronts → Fronts × Option (Nat × Nat)
  | [], f => (f, none)
  | k :: ks, f => match step k f with
    | (f, some place) => (f, some place)
    | (f, none) => firstMeeting step ks f

/-- The diagonals that `d` changes can lead to, from the top. -/
def diagonals (d : Nat) : List Int := (List.range (d + 1)).map fun (i : Nat) => (d : Int) - 2 * (i : Int)

/-- Where the searches from both ends meet, trying `d` changes and more. -/
def meet (old new : Array String) (r s : Range) : Nat → Nat → Fronts → Option (Nat × Nat)
  | 0, _, _ => none
  | fuel + 1, d, f =>
    match firstMeeting (stepForward old new r s d) (diagonals d) f with
    | (_, some place) => some place
    | (f, none) => match firstMeeting (stepBackward old new r s d) (diagonals d) f with
      | (_, some place) => some place
      | (f, none) => meet old new r s fuel (d + 1) f

/-- A place to split two ranges at. -/
def middleOf (old new : Array String) (r s : Range) : Option (Nat × Nat) :=
  let limit := (r.size + s.size + 1) / 2 + 1
  let size := 2 * limit + 3
  meet old new r s limit 0 ⟨Array.replicate size 0, Array.replicate size 0, limit + 1⟩

def chunk (tag : Tag) (lines : List String) : List Chunk := if lines.isEmpty then [] else [⟨tag, lines⟩]

/-- The difference of two ranges. -/
def conquer (old new : Array String) : Nat → Range → Range → List Chunk
  | 0, r, s => chunk .deleted (r.items old) ++ chunk .inserted (s.items new)
  | fuel + 1, r, s =>
    let front := runForward old new r.stop s.stop (r.size + 1) r.start s.start
    let head : Range := ⟨r.start, r.start + front⟩
    let r : Range := ⟨r.start + front, r.stop⟩
    let s : Range := ⟨s.start + front, s.stop⟩
    let back := runBackward old new r.start s.start (r.size + 1) r.stop s.stop
    let tail : Range := ⟨r.stop - back, r.stop⟩
    let r : Range := ⟨r.start, r.stop - back⟩
    let s : Range := ⟨s.start, s.stop - back⟩
    let inner :=
      if r.size == 0 || s.size == 0 then chunk .deleted (r.items old) ++ chunk .inserted (s.items new)
      else match middleOf old new r s with
        | some (x, y) => conquer old new fuel ⟨r.start, x⟩ ⟨s.start, y⟩ ++ conquer old new fuel ⟨x, r.stop⟩ ⟨y, s.stop⟩
        | none => chunk .deleted (r.items old) ++ chunk .inserted (s.items new)
    chunk .same (head.items old) ++ inner ++ chunk .same (tail.items old)

/-! ## Moving changes together -/

/-- A chunk with those before it, the nearest first, and those behind it. -/
structure Focus where
  before : List Chunk
  this : Chunk
  after : List Chunk

/-- How many lines a change can move along lines that both texts have. A deletion stays between them. -/
def shift (common : List String → List String → Nat) (lines : List String) (change : Chunk) : Nat :=
  if change.tag == .inserted then common lines change.lines else 0

/-- Move a change up as far as it goes. -/
def moveUp : Nat → Focus → Focus
  | 0, f => f
  | fuel + 1, f => match f.before with
    | [] => f
    | previous :: rest =>
      if previous.tag == f.this.tag then
        moveUp fuel { f with before := rest, this := { previous with lines := previous.lines ++ f.this.lines } }
      else if previous.tag != .same then moveUp fuel { f with before := rest, after := previous :: f.after }
      else
        let n := shift commonEnd previous.lines f.this
        let kept := previous.lines.take (previous.lines.length - n)
        let before := if kept.isEmpty then rest else { previous with lines := kept } :: rest
        if n == 0 then if previous.lines.isEmpty then moveUp fuel { f with before := rest } else f
        else
          let size := f.this.lines.length - n
          let shared := f.this.lines.drop size
          let after := match f.after with
            | ⟨.same, lines⟩ :: after => ⟨.same, shared ++ lines⟩ :: after
            | after => ⟨.same, shared⟩ :: after
          moveUp fuel { before, this := { f.this with lines := shared ++ f.this.lines.take size }, after }

/-- Move a change down as far as it goes. -/
def moveDown : Nat → Focus → Focus
  | 0, f => f
  | fuel + 1, f => match f.after with
    | [] => f
    | next :: rest =>
      if next.tag == f.this.tag then
        moveDown fuel { f with this := { next with lines := f.this.lines ++ next.lines }, after := rest }
      else if next.tag != .same then moveDown fuel { f with before := next :: f.before, after := rest }
      else
        let n := shift commonLength next.lines f.this
        let kept := next.lines.drop n
        let after := if kept.isEmpty then rest else { next with lines := kept } :: rest
        if n == 0 then if next.lines.isEmpty then moveDown fuel { f with after := rest } else f
        else
          let shared := f.this.lines.take n
          let before := match f.before with
            | ⟨.same, lines⟩ :: before => ⟨.same, lines ++ shared⟩ :: before
            | before => ⟨.same, shared⟩ :: before
          moveDown fuel { before, this := { f.this with lines := f.this.lines.drop n ++ shared }, after }

/-- Move the changes of one kind, one after the other. -/
def moveAll (tag : Tag) (limit : Nat) : Nat → List Chunk → List Chunk → List Chunk
  | 0, before, after => before.reverse ++ after
  | _ + 1, before, [] => before.reverse
  | fuel + 1, before, this :: after =>
    if this.tag == tag then
      let f := moveDown limit (moveUp limit ⟨before, this, after⟩)
      moveAll tag limit fuel (f.this :: f.before) f.after
    else moveAll tag limit fuel (this :: before) after

/-- Move deletions, then insertions. -/
def compact (limit : Nat) (chunks : List Chunk) : List Chunk :=
  moveAll .inserted limit limit [] (moveAll .deleted limit limit [] chunks)

/-- Between lines that both texts have, what is deleted comes before what is inserted. -/
def sorted (deleted inserted : List String) : List Chunk → List (Tag × String)
  | [] => deleted.map (.deleted, ·) ++ inserted.map (.inserted, ·)
  | ⟨.same, lines⟩ :: rest =>
    deleted.map (.deleted, ·) ++ inserted.map (.inserted, ·) ++ lines.map (.same, ·) ++ sorted [] [] rest
  | ⟨.deleted, lines⟩ :: rest => sorted (deleted ++ lines) inserted rest
  | ⟨.inserted, lines⟩ :: rest => sorted deleted (inserted ++ lines) rest

/-- The lines of two texts, each with the texts that have it. -/
def between (old new : String) : List (Tag × String) :=
  let as := linesOf old
  let bs := linesOf new
  let size := as.size + bs.size
  sorted [] [] (compact (8 * size + 16) (conquer as bs (size + 1) ⟨0, as.size⟩ ⟨0, bs.size⟩))

/-- How a line is shown: with a mark in front and a break at the end. -/
def showLine (tag : Tag) (line : String) : String :=
  let mark := match tag with
    | .same => " "
    | .deleted => "-"
    | .inserted => "+"
  let ended := line.endsWith "\n" || line.endsWith "\r"
  mark ++ line ++ if ended then "" else "\n"

/-- How the difference of two texts is shown. -/
def render (old new : String) : String := String.join ((between old new).map fun (tag, line) => showLine tag line)

end Graft.Diff
