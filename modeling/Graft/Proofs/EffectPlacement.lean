import Graft.Proofs.TreeRanges

set_option autoImplicit false

/-!
# Where an effect goes

The call of an effect belongs behind the hooks that a component calls first, and it must not stand
behind a return that ends the body. A place for it is chosen from the statements of the body alone:
behind the last one that is recognised as calling a hook, else before a return at the very end, else
at the end. This is the right place but for two cases: a hook that is not recognised behind one that
is, and a return that is not the last statement where no hook is recognised.
-/

namespace Graft

namespace Node

/-- The statements of a block. -/
def statements (n : Node) : List Node := n.namedChildren.filter fun c => c.kind != "comment"

/-- The expression that a statement is, or the values that it declares something with. -/
def values (n : Node) : List Node :=
  match n.kind with
  | "expression_statement" => n.namedChildren[0]?.toList
  | "lexical_declaration" | "variable_declaration" =>
    (n.namedChildren.filter fun c => c.kind == "variable_declarator").filterMap (·.child? "value")
  | _ => []

theorem mem_preorder_of_mem_values {n v : Node} (h : v ∈ n.values) : v ∈ n.preorder := by
  unfold values at h
  split at h
  · exact mem_preorder_of_mem_namedChildren (List.mem_of_getElem? (Option.mem_toList.1 h))
  all_goals first
    | exact absurd h List.not_mem_nil
    | obtain ⟨declarator, hmem, hvalue⟩ := List.mem_filterMap.1 h
      exact mem_preorder_trans (mem_preorder_of_mem_namedChildren (List.mem_of_mem_filter hmem))
        (mem_preorder_of_child? hvalue)

end Node

namespace Workspace

/-! ## The right place -/

/-- Whether a statement calls a hook: it is a call of one, or declares something with such a call as
its value. -/
def callsHook (w : Workspace) (statement : Node) : Bool := statement.values.any w.isHookCall

/-- The statements that call a hook before the first return. -/
def firstHooks (w : Workspace) (body : Node) : List Node :=
  (body.statements.takeWhile fun s => s.kind != "return_statement").filter w.callsHook

/-- The returns without a statement behind them that calls a hook, last to first. -/
def finalReturns (w : Workspace) (body : Node) : List Node :=
  (body.statements.reverse.takeWhile fun s => !w.callsHook s).filter fun s =>
    s.kind == "return_statement"

/-- An offset is right for an effect: behind the first hooks and before the final returns. -/
structure EffectPlaced (w : Workspace) (body : Node) (offset : Nat) : Prop where
  behind_hooks : ∀ s ∈ w.firstHooks body, s.stop ≤ offset
  before_returns : ∀ r ∈ w.finalReturns body, offset ≤ r.start

instance (w : Workspace) (body : Node) (offset : Nat) : Decidable (w.EffectPlaced body offset) :=
  decidable_of_iff
    ((∀ s ∈ w.firstHooks body, s.stop ≤ offset) ∧ ∀ r ∈ w.finalReturns body, offset ≤ r.start)
    ⟨fun h => ⟨h.1, h.2⟩, fun h => ⟨h.behind_hooks, h.before_returns⟩⟩

/-- A hook is missed: some are recognised, and one of the first hooks stands behind all of these. -/
def MissedHook (w : Workspace) (body : Node) : Prop :=
  (∃ s ∈ body.statements, w.isHookStatement s = true) ∧
    ∃ s ∈ w.firstHooks body, ∀ h ∈ body.statements, w.isHookStatement h = true → h.stop ≤ s.start

/-- A return is stray: no hook is recognised, and another statement stands behind one of the final
returns. -/
def StrayReturn (w : Workspace) (body : Node) : Prop :=
  (∀ s ∈ body.statements, w.isHookStatement s = false) ∧
    ∃ r ∈ w.finalReturns body, ∃ s ∈ body.statements, r.stop ≤ s.start

/-! ## Statements that call hooks -/

/-- Only the first value of a statement counts when hooks are looked for. -/
theorem isHookStatement_eq (w : Workspace) (s : Node) :
    w.isHookStatement s = s.values.head?.any w.isHookCall := by
  by_cases hexpression : s.kind = "expression_statement"
  · simp only [isHookStatement, Node.values, hexpression]
    cases s.namedChildren[0]? <;> rfl
  by_cases hlexical : s.kind = "lexical_declaration"
  · simp only [isHookStatement, Node.values, hlexical, List.head?_filterMap]
    cases (s.namedChildren.filter fun c => c.kind == "variable_declarator").findSome?
      (·.child? "value") <;> rfl
  by_cases hvariable : s.kind = "variable_declaration"
  · simp only [isHookStatement, Node.values, hvariable, List.head?_filterMap]
    cases (s.namedChildren.filter fun c => c.kind == "variable_declarator").findSome?
      (·.child? "value") <;> rfl
  · simp [isHookStatement, Node.values]

theorem callsHook_of_isHookStatement {w : Workspace} {s : Node} (h : w.isHookStatement s = true) :
    w.callsHook s = true := by
  rw [isHookStatement_eq] at h
  obtain ⟨value, hvalue, hcall⟩ := (Option.any_eq_true _ _).1 h
  exact List.any_eq_true.2 ⟨value, List.mem_of_mem_head? hvalue, hcall⟩

/-- A call of a hook has the name of the hook in it. -/
theorem exists_name_of_isHookCall {w : Workspace} {e : Node} (h : w.isHookCall e = true) :
    ∃ n ∈ e.preorder, isHookName (w.document.text n) = true := by
  unfold isHookCall at h
  split at h
  · cases h
  · split at h
    · cases h
    · rename_i callee hcallee
      have hmem := Node.mem_preorder_of_child? hcallee
      dsimp only at h
      split at h
      · rename_i n hname
        split at hname
        · cases hname
          exact ⟨callee, hmem, h⟩
        · exact ⟨n, Node.mem_preorder_trans hmem (Node.mem_preorder_of_child? hname), h⟩
        · cases hname
      · cases h

theorem mem_preorder_of_mem_statements {d : Document} {body s : Node}
    (hbody : body ∈ d.root.preorder) (h : s ∈ body.statements) : s ∈ d.root.preorder :=
  Node.mem_preorder_trans hbody (Node.mem_preorder_of_mem_namedChildren (List.mem_of_mem_filter h))

/-- The name of a hook takes up text. -/
theorem start_lt_stop_of_isHookName {w : Workspace} {n : Node}
    (h : isHookName (w.document.text n) = true) : n.start < n.stop := by
  by_contra hnot
  have hempty : w.document.text n = "" := by
    rw [Document.text, Text.slice, Text.slice?]
    split
    · rw [Nat.sub_eq_zero_of_le (Nat.le_of_not_lt hnot)]
      cases Text.splitBytes w.document.source.toList n.start with
      | none => rfl
      | some parts => simp [Text.splitBytes_zero]
    · rfl
  rw [hempty] at h
  exact absurd h (by decide)

theorem mem_statements_of_mem_firstHooks {w : Workspace} {body s : Node}
    (h : s ∈ w.firstHooks body) :
    s ∈ body.statements ∧ w.callsHook s = true ∧ s.kind ≠ "return_statement" := by
  obtain ⟨hmem, hcalls⟩ := List.mem_filter.1 h
  exact ⟨(List.takeWhile_sublist _).subset hmem, hcalls,
    by simpa using List.all_eq_true.1 List.all_takeWhile s hmem⟩

theorem mem_statements_of_mem_finalReturns {w : Workspace} {body r : Node}
    (h : r ∈ w.finalReturns body) : r ∈ body.statements ∧ r.kind = "return_statement" := by
  obtain ⟨hmem, hkind⟩ := List.mem_filter.1 h
  exact ⟨List.mem_reverse.1 ((List.takeWhile_sublist _).subset hmem), by simpa using hkind⟩

/-- A final return stands behind every statement that calls a hook. -/
theorem mem_of_mem_finalReturns {w : Workspace} {body hook r : Node} {front back : List Node}
    (hstatements : body.statements = front ++ hook :: back) (hhook : w.callsHook hook = true)
    (h : r ∈ w.finalReturns body) : r ∈ back := by
  have hmem := List.mem_of_mem_filter h
  rw [hstatements, List.reverse_append, List.reverse_cons, List.append_assoc, List.singleton_append,
    List.takeWhile_append] at hmem
  split at hmem
  · simpa [hhook] using hmem
  · exact List.mem_reverse.1 ((List.takeWhile_sublist _).subset hmem)

/-! ## The place that is chosen -/

/-- An effect goes behind the last statement that is recognised, or else before or behind the last
of all. -/
theorem placeEffect_cases (w : Workspace) (effect : Effect) (body : Node) :
    (∃ front hook back, body.statements = front ++ hook :: back ∧ w.isHookStatement hook = true ∧
      (∀ s ∈ back, w.isHookStatement s = false) ∧ (w.placeEffect effect body).offset = hook.stop) ∨
    ((∀ s ∈ body.statements, w.isHookStatement s = false) ∧ (body.statements = [] ∨
      ∃ front last, body.statements = front ++ [last] ∧ (w.placeEffect effect body).offset =
        if last.kind = "return_statement" then last.start else last.stop)) := by
  unfold placeEffect
  dsimp only
  split
  · rename_i hook hfind
    obtain ⟨hhook, later, earlier, hsplit, hlater⟩ := List.find?_eq_some_iff_append.1 hfind
    refine .inl ⟨earlier.reverse, hook, later.reverse, ?_, hhook, ?_, rfl⟩
    · rw [← List.reverse_inj, Node.statements, hsplit]
      simp
    · intro s hs
      simpa using hlater s (List.mem_reverse.1 hs)
  · rename_i hnone
    refine .inr ⟨fun s hs => ?_, ?_⟩
    · simpa using List.find?_eq_none.1 hnone s (List.mem_reverse.2 hs)
    split
    · rename_i last hlast
      obtain ⟨front, hfront⟩ := List.getLast?_eq_some_iff.1 hlast
      refine .inr ⟨front, last, hfront, ?_⟩
      split <;> rename_i hkind <;> simp at hkind <;> simp [hkind]
    · rename_i hempty
      exact .inl (List.getLast?_eq_none_iff.1 hempty)

section Body

variable {w : Workspace} (hnested : w.document.Nested) {body : Node}
  (hbody : body ∈ w.document.root.preorder)

include hnested

theorem start_lt_stop_of_callsHook {s : Node} (hs : s ∈ w.document.root.preorder)
    (h : w.callsHook s = true) : s.start < s.stop := by
  obtain ⟨value, hvalue, hcall⟩ := List.any_eq_true.1 h
  obtain ⟨n, hn, hname⟩ := exists_name_of_isHookCall hcall
  have hinside :=
    hnested.toOrdered.range_of_mem hs
      (Node.mem_preorder_trans (Node.mem_preorder_of_mem_values hvalue) hn)
  have hfilled := start_lt_stop_of_isHookName hname
  omega

include hbody

theorem statements_apart : body.statements.Pairwise fun a b => a.stop ≤ b.start :=
  (hnested.toOrdered.namedChildren_apart hbody).sublist List.filter_sublist

/-- Behind the last hook that is recognised, an effect is right unless another one is missed. -/
theorem effectPlaced_behind_iff {front back : List Node} {hook : Node}
    (hstatements : body.statements = front ++ hook :: back) (hhook : w.isHookStatement hook = true)
    (hback : ∀ s ∈ back, w.isHookStatement s = false) :
    w.EffectPlaced body hook.stop ↔ ¬w.MissedHook body := by
  have hmem : hook ∈ body.statements := by simp [hstatements]
  have hcalls := callsHook_of_isHookStatement hhook
  have hordered := hnested.ordered hook (mem_preorder_of_mem_statements hbody hmem)
  have hapart := statements_apart hnested hbody
  rw [hstatements, List.pairwise_append, List.pairwise_cons] at hapart
  obtain ⟨-, ⟨hbehind, -⟩, hbefore⟩ := hapart
  have hearlier : ∀ s ∈ front, s.stop ≤ hook.start :=
    fun s hs => hbefore s hs hook List.mem_cons_self
  constructor
  · rintro hplaced ⟨-, s, hs, hlast⟩
    have hle := hplaced.behind_hooks s hs
    obtain ⟨hs, hcalls, -⟩ := mem_statements_of_mem_firstHooks hs
    have hfilled :=
      start_lt_stop_of_callsHook hnested (mem_preorder_of_mem_statements hbody hs) hcalls
    have := hlast hook hmem hhook
    omega
  · refine fun hmissed =>
      ⟨fun s hs => ?_, fun r hr => hbehind r (mem_of_mem_finalReturns hstatements hcalls hr)⟩
    have hin := (mem_statements_of_mem_firstHooks hs).1
    rw [hstatements, List.mem_append, List.mem_cons] at hin
    rcases hin with hin | rfl | hin
    · have := hearlier s hin
      omega
    · exact Nat.le_refl _
    · -- It stands behind the last hook that is recognised, so it is missed.
      refine absurd ⟨⟨hook, hmem, hhook⟩, s, hs, fun h hh hrecognised => ?_⟩ hmissed
      have hle := hbehind s hin
      rw [hstatements, List.mem_append, List.mem_cons] at hh
      rcases hh with hh | rfl | hh
      · have := hearlier h hh
        omega
      · exact hle
      · rw [hback h hh] at hrecognised
        cases hrecognised

/-- At the end, an effect is right unless a return stands before it. -/
theorem effectPlaced_end_iff {front : List Node} {last : Node}
    (hstatements : body.statements = front ++ [last])
    (hnone : ∀ s ∈ body.statements, w.isHookStatement s = false) :
    w.EffectPlaced body (if last.kind = "return_statement" then last.start else last.stop) ↔
      ¬w.StrayReturn body := by
  have hmem : last ∈ body.statements := by simp [hstatements]
  have hordered := hnested.ordered last (mem_preorder_of_mem_statements hbody hmem)
  have hapart := statements_apart hnested hbody
  rw [hstatements, List.pairwise_append] at hapart
  have hearlier : ∀ s ∈ front, s.stop ≤ last.start :=
    fun s hs => hapart.2.2 s hs last (List.mem_singleton.2 rfl)
  have hstart : ∀ s ∈ body.statements, s.start ≤ last.start := by
    intro s hs
    have hs' := hnested.ordered s (mem_preorder_of_mem_statements hbody hs)
    rw [hstatements, List.mem_append, List.mem_singleton] at hs
    rcases hs with hs | rfl
    · have := hearlier s hs
      omega
    · exact Nat.le_refl _
  constructor
  · rintro hplaced ⟨-, r, hr, s, hs, hle⟩
    have hbefore := hplaced.before_returns r hr
    obtain ⟨hr, hkind⟩ := mem_statements_of_mem_finalReturns hr
    have hfilled := hnested.filled r (mem_preorder_of_mem_statements hbody hr) hkind
    have := hstart s hs
    split at hbefore <;> omega
  · refine fun hstray => ⟨fun s hs => ?_, fun r hr => ?_⟩
    · obtain ⟨hin, -, hkind⟩ := mem_statements_of_mem_firstHooks hs
      rw [hstatements, List.mem_append, List.mem_singleton] at hin
      rcases hin with hin | rfl
      · have := hearlier s hin
        split <;> omega
      · rw [if_neg hkind]
    · obtain ⟨hin, hkind⟩ := mem_statements_of_mem_finalReturns hr
      rw [hstatements, List.mem_append, List.mem_singleton] at hin
      rcases hin with hin | rfl
      · exact absurd ⟨hnone, r, hr, last, hmem, hearlier r hin⟩ hstray
      · rw [if_pos hkind]

end Body

/-- **Where an effect goes.** Its call is put behind the first hooks of the component and before the
returns that end it, if and only if no hook is missed and no return is stray. -/
theorem sketchEffect_placed_iff (w : Workspace) (hnested : w.document.Nested) (effect : Effect)
    (f : FunctionMatch) (hfound : w.component? effect.component = some f)
    (hblock : f.hasBlock = true) :
    (∀ label, ∃ sketch, w.sketchEffect effect label = .ok sketch ∧
      sketch.inserts = [w.placeEffect effect f.body]) ∧
    (w.EffectPlaced f.body (w.placeEffect effect f.body).offset ↔
      ¬w.MissedHook f.body ∧ ¬w.StrayReturn f.body) := by
  refine ⟨fun label => ?_, ?_⟩
  · obtain ⟨component, hresolve⟩ := exists_resolveComponent hfound hblock label
    rw [sketchEffect, hresolve]
    exact ⟨_, rfl, rfl⟩
  have hbody := body_mem_of_component? hfound
  rcases w.placeEffect_cases effect f.body with ⟨front, hook, back, hstatements, hhook, hback,
    hoffset⟩ | ⟨hnone, hrest⟩
  · have hstray : ¬w.StrayReturn f.body := by
      rintro ⟨hnone, -⟩
      rw [hnone hook (by simp [hstatements])] at hhook
      cases hhook
    rw [hoffset, effectPlaced_behind_iff hnested hbody hstatements hhook hback, and_iff_left hstray]
  · have hmissed : ¬w.MissedHook f.body := by
      rintro ⟨⟨s, hs, hhook⟩, -⟩
      rw [hnone s hs] at hhook
      cases hhook
    rw [and_iff_right hmissed]
    rcases hrest with hempty | ⟨front, last, hstatements, hoffset⟩
    · refine iff_of_true ⟨fun s hs => ?_, fun r hr => ?_⟩ ?_
      · have := (mem_statements_of_mem_firstHooks hs).1
        simp [hempty] at this
      · have := (mem_statements_of_mem_finalReturns hr).1
        simp [hempty] at this
      · rintro ⟨-, r, -, s, hs, -⟩
        simp [hempty] at hs
    · rw [hoffset, effectPlaced_end_iff hnested hbody hstatements hnone]

/-- A function with a body that holds the given nodes. -/
def functionOf (stop : Nat) (statements : List Node) : FunctionMatch :=
  let body : Node := .mk { kind := "statement_block", field := some "body", start := 12, stop }
    (.mk { kind := "\x7b", named := false, start := 12, stop := 13 } [] :: statements)
  let declaration : Node := .mk { kind := "function_declaration", start := 0, stop }
    [.mk { kind := "identifier", field := some "name", start := 9, stop := 10 } [], body]
  { declaration, function := declaration, body }

/-- A file with that function alone. -/
def fileOf (source : String) (f : FunctionMatch) : Workspace where
  document :=
    { source, root := .mk { kind := "program", start := 0, stop := f.body.stop } [f.declaration] }
  options := {}
  parse := .rootOnly

/-- A call of a function with a name of four letters, without arguments. -/
def shortCall (start : Nat) : Node :=
  .mk { kind := "call_expression", field := some "value", start, stop := start + 6 }
    [.mk { kind := "identifier", field := some "function", start, stop := start + 4 } []]

def someEffect : Effect := { body := "x()", component := some "A" }

/-- A hook and a return. -/
def hookedFunction : FunctionMatch :=
  functionOf 27
    [.mk { kind := "expression_statement", start := 13, stop := 20 } [shortCall 13],
      .mk { kind := "return_statement", start := 20, stop := 26 } []]

def hookedFile : Workspace := fileOf "function A()\x7buseA();return\x7d" hookedFunction

theorem sketchEffect_placed_iff_hookedFile :
    hookedFile.document.Nested ∧ hookedFile.component? someEffect.component = some hookedFunction ∧
      hookedFunction.hasBlock = true ∧
      (hookedFile.placeEffect someEffect hookedFunction.body).offset = 20 ∧
      hookedFile.EffectPlaced hookedFunction.body 20 := by
  have hnested : hookedFile.document.Nested := by decide +kernel
  have hfound : hookedFile.component? someEffect.component = some hookedFunction := rfl
  have hoffset : (hookedFile.placeEffect someEffect hookedFunction.body).offset = 20 := by
    decide +kernel
  have hplaced :=
    (sketchEffect_placed_iff hookedFile hnested someEffect hookedFunction hfound rfl).2.2
      ⟨by unfold MissedHook; decide +kernel, by unfold StrayReturn; decide +kernel⟩
  rw [hoffset] at hplaced
  exact ⟨hnested, hfound, rfl, hoffset, hplaced⟩

/-- Two hooks, the second as the value of the second name in a declaration. -/
def missedFunction : FunctionMatch :=
  functionOf 37
    [.mk { kind := "expression_statement", start := 13, stop := 20 } [shortCall 13],
      .mk { kind := "lexical_declaration", start := 20, stop := 36 }
        [.mk { kind := "variable_declarator", start := 24, stop := 27 }
          [.mk { kind := "number", field := some "value", start := 26, stop := 27 } []],
          .mk { kind := "variable_declarator", start := 28, stop := 36 } [shortCall 30]]]

def missedFile : Workspace := fileOf "function A()\x7buseA();let b=1,c=useC()\x7d" missedFunction

/-- No hook, and a function that is declared behind the return. -/
def strayFunction : FunctionMatch :=
  functionOf 35
    [.mk { kind := "return_statement", start := 13, stop := 20 } [],
      .mk { kind := "function_declaration", start := 20, stop := 34 } []]

def strayFile : Workspace := fileOf "function A()\x7breturn;function f()\x7b\x7d\x7d" strayFunction

/-- An effect is put before a hook that is missed, and behind a return that is stray. -/
theorem not_effectPlaced_of_missed_of_stray :
    (missedFile.document.Nested ∧ missedFile.component? someEffect.component = some missedFunction ∧
      missedFunction.hasBlock = true ∧
      (missedFile.firstHooks missedFunction.body).map Node.range = [⟨13, 20⟩, ⟨20, 36⟩] ∧
      (missedFile.placeEffect someEffect missedFunction.body).offset = 20 ∧
      ¬missedFile.EffectPlaced missedFunction.body 20) ∧
    strayFile.document.Nested ∧ strayFile.component? someEffect.component = some strayFunction ∧
      strayFunction.hasBlock = true ∧
      (strayFile.finalReturns strayFunction.body).map Node.range = [⟨13, 20⟩] ∧
      (strayFile.placeEffect someEffect strayFunction.body).offset = 34 ∧
      ¬strayFile.EffectPlaced strayFunction.body 34 :=
  ⟨⟨by decide +kernel, rfl, rfl, by decide +kernel, by decide +kernel, by decide +kernel⟩,
    by decide +kernel, rfl, rfl, by decide +kernel, by decide +kernel, by decide +kernel⟩

end Workspace

end Graft
