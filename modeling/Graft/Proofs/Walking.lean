import Graft.Proofs.Traversal

set_option autoImplicit false

/-!
# Walking with a cursor

A cursor goes to the first child, else to the next sibling, else back to the parent until there is a
next sibling. It keeps no record of where it has been; `Cursor.Walks` spells out these moves, up to
the end of the walk. What is pending gets less with every step, so no place is visited twice, and
the walk from a node visits every place below it in the order of traversal (`Node.walks_iff`,
`Node.mem_cursors_nil_iff`). Searches stop at the first node that fits.
-/

namespace Graft

namespace Cursor

/-! ## Moves -/

/-- Where a cursor gets to that looks for a next sibling and goes back to the parent as long as
there is none. -/
inductive Climbs : Cursor → Option Cursor → Prop
  | sibling {c s : Cursor} (next : c.nextSibling? = some s) : Climbs c (some s)
  | parent {c p : Cursor} {r : Option Cursor} (last : c.nextSibling? = none)
    (up : c.parent? = some p) (rest : Climbs p r) : Climbs c r
  | top {c : Cursor} (last : c.nextSibling? = none) (up : c.parent? = none) : Climbs c none

/-- One step of a walk: down where there is a child, else on from here. -/
inductive Moves : Cursor → Option Cursor → Prop
  | child {c d : Cursor} (first : c.firstChild? = some d) : Moves c (some d)
  | climb {c : Cursor} {r : Option Cursor} (leaf : c.firstChild? = none)
    (rest : Climbs c r) : Moves c r

/-- A walk that comes to an end, with the places where the cursor stands. -/
inductive Walks : Option Cursor → List Cursor → Prop
  | done : Walks none []
  | step {c : Cursor} {r : Option Cursor} {visits : List Cursor} (move : Moves c r)
    (rest : Walks r visits) : Walks (some c) (c :: visits)

theorem climbs_nextUp? (node : Node) (above : List Crumb) :
    Climbs ⟨node, above⟩ (nextUp? above) := by
  induction above generalizing node with
  | nil => exact .top rfl rfl
  | cons crumb above ih =>
    obtain ⟨parent, right⟩ := crumb
    cases right with
    | nil => exact .parent rfl rfl (ih parent)
    | cons next rest => exact .sibling rfl

theorem nextUp?_of_climbs {c : Cursor} {r : Option Cursor}
    (h : Climbs c r) : nextUp? c.above = r := by
  induction h with
  | @sibling c s next =>
    obtain ⟨node, above⟩ := c
    unfold nextSibling? at next
    split at next
    · rename_i habove
      rw [habove, ← next, nextUp?]
    · cases next
  | @parent c p r last up rest ih =>
    obtain ⟨node, _ | ⟨⟨parent, _ | ⟨next, right⟩⟩, above⟩⟩ := c
    · cases up
    · cases up
      exact ih
    · cases last
  | @top c last up =>
    obtain ⟨node, _ | ⟨crumb, above⟩⟩ := c
    · rfl
    · cases up

theorem climbs_iff {c : Cursor} {r : Option Cursor} : Climbs c r ↔ nextUp? c.above = r :=
  ⟨nextUp?_of_climbs, fun h => h ▸ climbs_nextUp? c.node c.above⟩

theorem moves_iff {c : Cursor} {r : Option Cursor} : Moves c r ↔ c.next? = r := by
  constructor
  · rintro (first | ⟨leaf, rest⟩)
    · rw [next?, first, Option.some_or]
    · rw [next?, leaf, Option.none_or, climbs_iff.1 rest]
  · rintro rfl
    cases hchild : c.firstChild? with
    | none =>
      rw [next?, hchild, Option.none_or]
      exact .climb hchild (climbs_iff.2 rfl)
    | some d =>
      rw [next?, hchild, Option.some_or]
      exact .child hchild

/-- The children of a node are to the right of the way to it. -/
theorem next?_eq_nextUp? (c : Cursor) :
    c.next? = nextUp? (⟨c.node, c.node.children⟩ :: c.above) := by
  rw [next?, firstChild?]
  cases c.node.children with
  | nil => rfl
  | cons first rest => rfl

/-- There is only one way to walk. -/
theorem Walks.unique {r : Option Cursor} {visits visits' : List Cursor} (h : Walks r visits)
    (h' : Walks r visits') : visits = visits' := by
  induction h generalizing visits' with
  | done =>
    cases h'
    rfl
  | step move _ ih =>
    cases h' with
    | step move' rest' =>
      obtain rfl := (moves_iff.1 move).symm.trans (moves_iff.1 move')
      rw [ih rest']

/-- What is pending gets less with every step. -/
theorem Walks.pending_lt {r : Option Cursor} {visits : List Cursor} (h : Walks r visits) :
    (∀ c ∈ visits, c.pending.length ≤ (r.elim [] pending).length) ∧
      visits.Pairwise fun c c' => c'.pending.length < c.pending.length := by
  induction h with
  | done => exact ⟨fun c hc => absurd hc List.not_mem_nil, .nil⟩
  | @step c r visits move _ ih =>
    obtain ⟨hle, hpairs⟩ := ih
    have hlength : c.pending.length = (r.elim [] pending).length + 1 := by
      rw [pending_eq_cons, moves_iff.1 move, List.length_cons]
    constructor
    · intro c' hc'
      rcases List.mem_cons.1 hc' with rfl | hc'
      · exact Nat.le_refl _
      · exact (hle c' hc').trans (by rw [Option.elim_some, hlength]; exact Nat.le_succ _)
    · refine List.pairwise_cons.2 ⟨fun c' hc' => ?_, hpairs⟩
      rw [hlength]
      exact Nat.lt_succ_of_le (hle c' hc')

theorem Walks.nodup {r : Option Cursor} {visits : List Cursor}
    (h : Walks r visits) : visits.Nodup := by
  refine h.pending_lt.2.imp fun hlt heq => ?_
  rw [heq] at hlt
  exact Nat.lt_irrefl _ hlt

end Cursor

/-! ## Places of a tree -/

namespace Node

/-- A place in the tree of a node: the node itself, or a child of the node at a place. -/
inductive IsPlace (root : Node) : Cursor → Prop
  | root : IsPlace root ⟨root, []⟩
  | child {c : Cursor} {left right : List Node} {n : Node} (place : IsPlace root c)
    (among : c.node.children = left ++ n :: right) : IsPlace root ⟨n, ⟨c.node, right⟩ :: c.above⟩

mutual

/-- The places of a tree in the order of traversal; `above` is the way to it. -/
def cursors (above : List Crumb) : Node → List Cursor
  | mk l cs => ⟨mk l cs, above⟩ :: cursorsAll (mk l cs) above cs

/-- The places below some of the children of a node, up to the last one. -/
def cursorsAll (parent : Node) (above : List Crumb) : List Node → List Cursor
  | [] => []
  | n :: ns => n.cursors (⟨parent, ns⟩ :: above) ++ cursorsAll parent above ns

end

theorem cursors_eq_cons (above : List Crumb) (n : Node) :
    n.cursors above = ⟨n, above⟩ :: cursorsAll n above n.children := by
  cases n with
  | mk l cs => rw [cursors, children_mk]

mutual

theorem map_node_cursors (above : List Crumb) :
    (n : Node) → (n.cursors above).map (·.node) = n.preorder
  | mk l cs => by rw [cursors, List.map_cons, map_node_cursorsAll _ above cs, preorder]

theorem map_node_cursorsAll (parent : Node) (above : List Crumb) :
    (ns : List Node) → (cursorsAll parent above ns).map (·.node) = preorderAll ns
  | [] => rfl
  | n :: ns => by
    rw [cursorsAll, List.map_append, map_node_cursors _ n,
      map_node_cursorsAll parent above ns, preorderAll]

end

mutual

/-- A walk visits the places below a node, and then goes on from there. -/
theorem walks_cursors {above : List Crumb} {rest : List Cursor}
    (h : Cursor.Walks (Cursor.nextUp? above) rest) :
    (n : Node) → Cursor.Walks (some ⟨n, above⟩) (n.cursors above ++ rest)
  | mk l cs => by
    rw [cursors, List.cons_append]
    exact .step (Cursor.moves_iff.2 (Cursor.next?_eq_nextUp? _)) (walks_cursorsAll (mk l cs) h cs)

theorem walks_cursorsAll (parent : Node) {above : List Crumb} {rest : List Cursor}
    (h : Cursor.Walks (Cursor.nextUp? above) rest) :
    (ns : List Node) →
      Cursor.Walks (Cursor.nextUp? (⟨parent, ns⟩ :: above)) (cursorsAll parent above ns ++ rest)
  | [] => h
  | n :: ns => by
    rw [cursorsAll, List.append_assoc]
    exact walks_cursors (walks_cursorsAll parent h ns) n

end

theorem mem_cursorsAll_iff {parent : Node} {above : List Crumb} {ns : List Node} {c : Cursor} :
    c ∈ cursorsAll parent above ns ↔
      ∃ left n right, ns = left ++ n :: right ∧ c ∈ n.cursors (⟨parent, right⟩ :: above) := by
  induction ns with
  | nil => simp [cursorsAll]
  | cons m ns ih =>
    rw [cursorsAll, List.mem_append, ih]
    constructor
    · rintro (h | ⟨left, n, right, rfl, h⟩)
      · exact ⟨[], m, ns, rfl, h⟩
      · exact ⟨m :: left, n, right, rfl, h⟩
    · rintro ⟨_ | ⟨k, left⟩, n, right, heq, h⟩
      · obtain ⟨rfl, rfl⟩ := List.cons.inj heq
        exact .inl h
      · obtain ⟨rfl, rfl⟩ := List.cons.inj heq
        exact .inr ⟨left, n, right, rfl, h⟩

theorem mem_cursors_iff {n : Node} {above : List Crumb} {c : Cursor} : c ∈ n.cursors above ↔
    c = ⟨n, above⟩ ∨ ∃ left m right, n.children = left ++ m :: right ∧
      c ∈ m.cursors (⟨n, right⟩ :: above) := by
  rw [cursors_eq_cons, List.mem_cons, mem_cursorsAll_iff]

theorem isPlace_of_mem_cursors {root n : Node} {above : List Crumb} (h : root.IsPlace ⟨n, above⟩)
    {c : Cursor} (hc : c ∈ n.cursors above) : root.IsPlace c := by
  induction n using children_induction generalizing above with
  | step n ih =>
    rcases mem_cursors_iff.1 hc with rfl | ⟨left, m, right, hsplit, hc⟩
    · exact h
    · exact ih m (by simp [hsplit]) (.child h hsplit) hc

/-- With a place, the places of the children are listed. -/
theorem child_mem_cursors {n : Node} {above : List Crumb} {c : Cursor} (hc : c ∈ n.cursors above)
    {left right : List Node} {m : Node} (hsplit : c.node.children = left ++ m :: right) :
    ⟨m, ⟨c.node, right⟩ :: c.above⟩ ∈ n.cursors above := by
  induction n using children_induction generalizing above with
  | step n ih =>
    rcases mem_cursors_iff.1 hc with rfl | ⟨left', k, right', hsplit', hc⟩
    · refine mem_cursors_iff.2 (.inr ⟨left, m, right, hsplit, ?_⟩)
      rw [cursors_eq_cons]
      exact List.mem_cons_self
    · exact mem_cursors_iff.2 (.inr ⟨left', k, right', hsplit', ih k (by simp [hsplit']) hc⟩)

/-- **The places of a tree are all listed.** -/
theorem mem_cursors_nil_iff {root : Node} {c : Cursor} : c ∈ root.cursors [] ↔ root.IsPlace c := by
  refine ⟨isPlace_of_mem_cursors .root, fun h => ?_⟩
  induction h with
  | root =>
    rw [cursors_eq_cons]
    exact List.mem_cons_self
  | child _ hsplit ih => exact child_mem_cursors ih hsplit

/-- **A walk visits the places of a tree in the order of traversal, and then ends.** -/
theorem walks_iff {root : Node} {visits : List Cursor} :
    Cursor.Walks (some ⟨root, []⟩) visits ↔ visits = root.cursors [] := by
  have hwalk : Cursor.Walks (some ⟨root, []⟩) (root.cursors []) := by
    have hend : Cursor.Walks (Cursor.nextUp? []) [] := .done
    simpa using walks_cursors hend root
  exact ⟨fun h => h.unique hwalk, fun h => h ▸ hwalk⟩

theorem nodup_cursors (root : Node) : (root.cursors []).Nodup := (walks_iff.2 rfl).nodup

end Node

/-! ## The first node that fits -/

/-- What is found is the first of a row for which something holds; nothing is found if it holds of
none. -/
def IsFirst (p : Node → Prop) (ns : List Node) : Option Node → Prop
  | some n => ∃ before behind, ns = before ++ n :: behind ∧ p n ∧ ∀ m ∈ before, ¬p m
  | none => ∀ n ∈ ns, ¬p n

theorem isFirst_find? {p : Node → Prop} {test : Node → Bool} (h : ∀ n, test n = true ↔ p n)
    (ns : List Node) : IsFirst p ns (ns.find? test) := by
  cases hfound : ns.find? test with
  | none =>
    intro n hn hp
    exact List.find?_eq_none.1 hfound n hn ((h n).2 hp)
  | some n =>
    obtain ⟨htest, before, behind, hsplit, hbefore⟩ := List.find?_eq_some_iff_append.1 hfound
    refine ⟨before, behind, hsplit, (h n).1 htest, fun m hm hp => ?_⟩
    have hnot := hbefore m hm
    rw [(h m).2 hp] at hnot
    cases hnot

/-- **A walk comes to an end and is a traversal, and searches find the first node that fits.** There
is one walk from the root of a tree. It starts there, visits each place of the tree once, and the
nodes at these places are those of the traversal. -/
theorem Document.walk_visits_places (d : Document) :
    (∃ visits, Cursor.Walks (some ⟨d.root, []⟩) visits ∧
        (∀ visits', Cursor.Walks (some ⟨d.root, []⟩) visits' → visits' = visits) ∧
        visits.head? = some ⟨d.root, []⟩ ∧ visits.Nodup ∧ (∀ c, c ∈ visits ↔ d.root.IsPlace c) ∧
        visits.map (·.node) = d.root.walk) ∧
      d.root.walk = d.root.preorder ∧
      (∀ kind, d.findNodes kind = d.root.preorder.filter fun n => n.kind == kind) ∧
      (∀ tag, IsFirst (fun n => d.elementTag n = some tag) d.root.preorder (d.findComponent tag)) ∧
      ∀ locator,
        IsFirst (fun n => d.fits n locator = true) d.root.preorder (d.findElement locator) := by
  have hwalk := Node.walk_eq_preorder d.root
  refine ⟨⟨d.root.cursors [], Node.walks_iff.2 rfl, fun _ => Node.walks_iff.1, ?_,
    Node.nodup_cursors d.root, fun _ => Node.mem_cursors_nil_iff, ?_⟩, hwalk, fun kind => ?_,
      fun tag => ?_, fun locator => ?_⟩
  · rw [Node.cursors_eq_cons, List.head?_cons]
  · rw [Node.map_node_cursors, hwalk]
  · rw [findNodes, hwalk]
  · rw [findComponent, hwalk]
    exact isFirst_find? (fun n => beq_iff_eq) _
  · rw [findElement, hwalk]
    exact isFirst_find? (fun n => Iff.rfl) _

end Graft
