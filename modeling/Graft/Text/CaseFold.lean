import Graft.Text.Packed

set_option autoImplicit false

/-!
# Case folding

Characters that differ only in case fold to the same character. Folding is simple: it takes one
character to one character.
-/

namespace Graft.Text

/-- Characters at equal distances that fold to characters at the same distances. -/
structure FoldRun where
  first : Nat
  /-- How many more there are. -/
  more : Nat
  step : Nat
  /-- What the first folds to. -/
  goal : Nat

def FoldRun.pairs (r : FoldRun) : List (Nat × Nat) :=
  (List.range (r.more + 1)).map fun i => (r.goal + i * r.step, r.first + i * r.step)

/-- Runs from a row of numbers; each begins at a distance from the one before it. -/
def foldRunsFrom (start : Nat) : List Nat → List FoldRun
  | gap :: more :: step :: goal :: rest => ⟨start + gap, more, step, goal⟩ :: foldRunsFrom (start + gap) rest
  | _ => []

def foldRuns : List FoldRun := foldRunsFrom 0 <| unpack <| String.join [
    "cNZBdTeMABbkULWBiQYGBjObOXCjXbYCClVHHCmCRWCmTbUABjVBCCoOGABeLCABwXBBCoXEABwYBABpCCBBxACABpGDABsJBABxDBAB",
    "xFBABpMCABxKBABxNCABxTBABxSBABpTEABxZBAByCCAByFBCCqBGAByQBABqICAByTDABqNCAByYBABqQCBBzACBCqUEABzIBABqZEA",
    "BrDIABrMBABrMCABrPBABrPCABrSBICrSTICsLTABtFBBCtFEABpPBABrFBTCtLbOABpYCICvBYABqvDBABwACABpUBABqvEDABwGCAB",
    "oUBAByZBABzCBECwLjVABbkRbRBCbhXGABbiDJABbmXHABbkECCBbkFEABblKCBBblLDQBbkJSIBblBbFABblBNABblVBABbkKBABbkQ",
    "EABblEBABbkYCLCblXYABbkSBABbkZDABbkQBABbkNCABbnCCABbmWBABbnFDCBbiHDPBbqMQbFBbpGdCQCbrDbQbACbsTcCABbvJBGC",
    "buWPbVCbvLdTbLBcaZeiPbLBrbCbNABrcPGABrcVbfFFBhoIdgAABbpIBABbpKBABbpUBBBbpXCABbpYBABbqGBABbrFBABckzJBABkv",
    "AHbQBgjObTCBglHmLcWCljLfZABlnDDABiPCbVClpPeAHBltGQFBltWQHBluMQHBlvCQFBlvSRDClwJPHBlwYbGHBlyEQHBlyUQHBlzK",
    "QBBmaACBBlxOCABmaDCABbkRKDBlxQEABmaTHABbjCFBBmbGCBBlxUJABbkIFBBmbWCBBlxYCABmcBMBBlxWCBBlyACABmcPlMABblHE",
    "ABeDBABiVHABmpYbUPBmrGbJABmsAbfNZBnyMctUbVBqtCdSABquZCABxVBABleJBAByNDCCqvGGABwVBAByBBABwUBABwWCABqvRDAB",
    "qvUJBBwDCbXCqwFeDBCraIHABraPbtyKWCckyZcMNCclbLgGGCclhRQbECcliHcTBCcllAEABleFBECcllFNABcllSCABxPDBCcllXGJ",
    "CclmDUABxQBABxGBABxLBABxWBABxUCABzUBAByXBABzTBABcmwXBHCclnHQABclmABABySBABlfABBCcloAEABxOBABcloFEABcloJG",
    "CCcloPGABpVZABclpUbiHdBBhlGbedPABdrbQboMZBdsrHbvZbNBdunOgUbJBduuIhKKBdvbRMOBdvcDQGBdvcTIBBdvdBcqEbYBdxuE",
    "iAVBdyaYehKbFBeciIbglCbFBfitKbumQbHBhdgC"]

/-- Put the characters that fold to the same one together; `pairs` has what they fold to in order. -/
def foldGroups : List (Nat × Nat) → List (Nat × List Nat)
  | [] => []
  | (goal, c) :: rest => match foldGroups rest with
    | (other, cs) :: groups => if goal == other then (other, c :: cs) :: groups else (goal, [c]) :: (other, cs) :: groups
    | [] => [(goal, [c])]

/-- The sets of characters that differ only in case, as far as they have more than one member. -/
def caseGroups : List (List Nat) :=
  let pairs := (foldRuns.flatMap FoldRun.pairs).mergeSort fun a b => a.1 ≤ b.1
  (foldGroups pairs).map fun (goal, cs) => goal :: cs

/-- A set with all characters that differ from a member only in case. -/
def foldCase (s : CharSet) : CharSet :=
  let touched := caseGroups.filter fun group => group.any s.contains
  s.union (.ofMembers touched.flatten)

end Graft.Text
