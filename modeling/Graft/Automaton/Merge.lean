import Graft.Automaton.Followers
import Graft.Automaton.States
import Graft.Lexicon.Overlap

set_option autoImplicit false

/-!
# Merging states

Many states differ only in the tokens that can follow their items. States with the same items are
joined when no token means different things in them, when no token of one could be mistaken for a
token of the other, and when the states after them are joined too.
-/

namespace Graft.Automaton

open Graft.Grammar Graft.Lexicon

/-! ## What can stand together -/

/-- The actions of a state by token, without the states that follow. States of one core with equal
profiles can always be joined. -/
structure Profile where
  valid : TokenSet
  reduces : Array (Nat × TokenSet)
  reducing : TokenSet
  shifting : TokenSet
  repeating : TokenSet
  deriving BEq, Hashable, Inhabited

def State.profile (extras : TokenSet) (s : State) : Profile :=
  let reducing := s.reduces.foldl (fun acc (_, t) => acc ∪ t) TokenSet.empty
  let shifting := s.shifts.foldl (fun acc (x, _, _) => acc.insert x) TokenSet.empty
  let repeating := s.shifts.foldl (fun acc (x, _, r) => if r then acc.insert x else acc) TokenSet.empty
  { valid := reducing ∪ shifting ∪ extras
    reduces := s.reduces
    reducing
    shifting
    repeating }

/-- What is known about tokens when states are joined. -/
structure TokenFacts where
  coding : Coding
  overlaps : Overlaps
  /-- For every token, the tokens that it has ever been expected together with. -/
  together : Array TokenSet
  keywords : TokenSet
  word : Nat

/-- Which ordinary tokens are expected together, over a collection of sets of them. -/
def coincidence (count : Nat) (sets : List TokenSet) : Array TokenSet :=
  sets.foldl (fun table set =>
    (set.toList count).foldl (fun table t => table.modify t (· ∪ set)) table)
    (Array.replicate count .empty)

/-- Letters and the underscore. -/
def letters : CharSet := (CharSet.between 'a' 'z').union ((CharSet.between 'A' 'Z').union (CharSet.single '_'))

/-- Whether every text of a token starts with a letter. -/
def startsWithLetter (body : NamedRule) : Bool := ((initial (spellingOf body).1).1.inter letters.compl).ranges.isEmpty

/-- The tokens that are read as words first and told apart afterwards: they are spelled like words,
give way to no other such token, and taking a word in their place confuses them with no token of
another kind. -/
def keywordsOf (tokens : Array Token) (overlaps : Overlaps) (word : Nat) (withoutWord : Array TokenSet) :
    TokenSet :=
  let n := tokens.size
  let candidates := (List.range n).filter fun i =>
    startsWithLetter (tokens.getD i default).body &&
      (overlaps.get i word).same && !(overlaps.get i word).different
  let alone := candidates.filter fun i =>
    candidates.all fun j => j == i || !(overlaps.get j i).same
  TokenSet.ofList (alone.filter fun i =>
    (List.range n).all fun j =>
      candidates.contains j || !(withoutWord.getD i .empty).contains j ||
        overlaps.get i j == overlaps.get word j)

/-- The tokens at which the parser can pick up the thread after an error: all but those that could
be mistaken for a token which nothing else resembles. -/
def recoverable (f : TokenFacts) : TokenSet :=
  let n := f.coding.tokens
  let together (i j : Nat) : Bool := (f.together.getD i .empty).contains j
  let clear := (List.range n).filter fun i =>
    (List.range n).all fun j => j == i || together i j || !f.overlaps.longerOrShorter i j
  TokenSet.ofList ((List.range n).filter fun i =>
    clear.contains i || f.keywords.contains i || f.word == i ||
      clear.all fun t => together i t || !f.overlaps.conflicts i t)

/-! ## Joining -/

/-- For every ordinary token, the tokens beside which it cannot newly be expected. -/
def TokenFacts.rivals (f : TokenFacts) : Array TokenSet :=
  (List.range f.coding.tokens).toArray.map fun i =>
    TokenSet.ofList ((List.range f.coding.tokens).filter fun j =>
      !(f.word == j && f.keywords.contains i) && !(f.word == i && f.keywords.contains j) &&
        (f.overlaps.conflicts i j || (f.overlaps.get i j).same))

/-- Whether tokens new to a state could be confused with those it expects. -/
def clashes (coding : Coding) (rivals : Array TokenSet) (fixed new valid : TokenSet) : Bool :=
  if new.isEmpty then false
  else new.meets fixed ||
    (let here := coding.terminals valid
     ((coding.terminals new).toList coding.tokens).any fun t => (rivals.getD t .empty).meets here)

/-- Whether two states of one core must stay apart. `fixed` are the tokens that the hand-written
scanner watches. -/
def Profile.apart (coding : Coding) (rivals : Array TokenSet) (fixed : TokenSet) (a b : Profile) : Bool :=
  let common := a.valid ∩ b.valid
  let differ (x y : TokenSet) : Bool := ((x ∩ common) \ y).isEmpty == false || ((y ∩ common) \ x).isEmpty == false
  differ a.reducing b.reducing || differ a.shifting b.shifting || differ a.repeating b.repeating ||
    (a.reduces.any fun (c, s) => b.reduces.any fun (d, t) => c != d && s.meets t) ||
    clashes coding rivals fixed (a.valid \ b.valid) b.valid ||
    clashes coding rivals fixed (b.valid \ a.valid) a.valid

/-- Groups of states: the group of each state and the states of each group. -/
structure Groups where
  of : Array Nat
  members : Array (Array Nat)

/-- Go once through the groups; `keep` splits the states of a group into those that stay and those
that leave, given the present groups, and the latter form a new group at the end. -/
def Groups.split (keep : Array Nat → Array Nat → Array Nat × Array Nat) (limit : Nat) (g : Groups) :
    Groups × Bool := Id.run do
  let mut of := g.of
  let mut members := g.members
  let mut changed := false
  for group in [0:limit] do
    if group ≥ members.size then break
    let states := members.getD group #[]
    if states.size > 1 then
      let (stay, leave) := keep of states
      if leave.size > 0 then
        changed := true
        let fresh := members.size
        members := (members.setIfInBounds group stay).push leave
        for s in leave do
          of := of.setIfInBounds s fresh
  return ({ of, members }, changed)

/-- Keep the states whose profile goes with those of all states kept before. -/
def keepByProfile (profiles : Array Nat) (apart : Nat → Nat → Bool) (states : Array Nat) :
    Array Nat × Array Nat := Id.run do
  let mut stay : Array Nat := #[]
  let mut leave : Array Nat := #[]
  let mut kept : Array Nat := #[]
  let mut refused : Array Nat := #[]
  for s in states do
    let p := profiles.getD s 0
    if kept.contains p then stay := stay.push s
    else if refused.contains p then leave := leave.push s
    else if kept.any fun q => apart q p then
      leave := leave.push s
      refused := refused.push p
    else
      stay := stay.push s
      kept := kept.push p
  return (stay, leave)

/-- Whether two ordered lists of successors lead to different groups for some symbol of both. -/
def successorsDiffer (of : Array Nat) (a b : Array (Nat × Nat)) : Nat → Nat → Nat → Bool
  | 0, _, _ => false
  | fuel + 1, i, j =>
    match a[i]?, b[j]? with
    | some (x, s), some (y, t) =>
      if x < y then successorsDiffer of a b fuel (i + 1) j
      else if y < x then successorsDiffer of a b fuel i (j + 1)
      else if of.getD s 0 != of.getD t 0 then true
      else successorsDiffer of a b fuel (i + 1) (j + 1)
    | _, _ => false

/-- Keep the states whose successors are in the same groups as those of all states kept before. -/
def keepBySuccessors (successors : Array (Array (Nat × Nat))) (of : Array Nat) (states : Array Nat) :
    Array Nat × Array Nat := Id.run do
  let mut stay : Array Nat := #[]
  let mut leave : Array Nat := #[]
  -- Of kept states with the same symbols one is enough to compare with.
  let mut kept : Array (Array (Nat × Nat)) := #[]
  for s in states do
    let mine := successors.getD s #[]
    if kept.any fun other => successorsDiffer of other mine (other.size + mine.size) 0 0 then
      leave := leave.push s
    else
      stay := stay.push s
      if !(kept.any fun other =>
          other.size == mine.size && (other.zip mine).all fun (p, q) => p.1 == q.1) then
        kept := kept.push mine
  return (stay, leave)

/-- Split by successors until nothing changes. -/
def settleGroups (successors : Array (Array (Nat × Nat))) (limit : Nat) : Nat → Groups → Groups
  | 0, g => g
  | fuel + 1, g =>
    let (g, changed) := g.split (keepBySuccessors successors) limit
    if changed then settleGroups successors limit fuel g else g

end Graft.Automaton
