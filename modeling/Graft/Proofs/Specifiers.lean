import Graft.Import.Resolve
import Mathlib.Data.List.Basic
import Mathlib.Tactic.Tauto

set_option autoImplicit false

/-!
# What becomes of requested specifiers

A specifier that is asked for is there already, or it is added, or a conflict is reported. What an
insertion adds is read off its text and its place, and not off the request. Exactly one of the three
holds for all specifiers but two kinds. A default or a namespace that is not the first of its kind
is there, and is reported all the same. A name that the file has bound to something else is passed
over without a word.
-/

namespace Graft

/-! ## Words -/

namespace Text

/-- Whether a character stands between names. -/
def separates (c : Char) : Bool := isBlank c || c == ',' || c == '\x7b' || c == '\x7d'

/-- The names in a text. -/
def words (cs : List Char) : List (List Char) :=
  (cs.splitOnP separates).filter fun word => !word.isEmpty

/-- The last character that is not blank. -/
def lastVisible (cs : List Char) : Option Char := cs.reverse.find? fun c => !isBlank c

/-- A name that is not empty and can be told from what stands around it. -/
def Plain (name : List Char) : Prop := name ≠ [] ∧ ∀ c ∈ name, separates c = false

-- Through the list: there is also an instance that tries all characters.
instance : DecidablePred Plain := fun name =>
  decidable_of_iff (name ≠ [] ∧ (name.all fun c => !separates c) = true) (by simp [Plain])

theorem words_nil : words [] = [] := rfl

theorem words_cons_of_separates {c : Char} (h : separates c = true) (cs : List Char) :
    words (c :: cs) = words cs := by
  rw [words, words, List.splitOnP_cons_eq_if_modifyHead, if_pos h,
    List.filter_cons_of_neg (by simp)]

theorem words_append_cons {name : List Char} (hname : Plain name) {c : Char}
    (h : separates c = true) (cs : List Char) : words (name ++ c :: cs) = name :: words cs := by
  rw [words, words, List.splitOnP_append_cons_of_forall_mem hname.2 c h,
    List.filter_cons_of_pos (by simpa using hname.1)]

theorem words_of_plain {name : List Char} (hname : Plain name) : words name = [name] := by
  rw [words, List.splitOnP_eq_singleton hname.2, List.filter_cons_of_pos (by simpa using hname.1),
    List.filter_nil]

/-- The names of a list, with something behind them that is no part of a name. -/
theorem words_intercalate {names : List (List Char)} (hnames : ∀ name ∈ names, Plain name)
    {behind : List Char} (hbehind : ∀ c ∈ behind, separates c = true) :
    words ([',', ' '].intercalate names ++ behind) = names := by
  have hnone : words behind = [] := by
    induction behind with
    | nil => rfl
    | cons c behind ih =>
      rw [words_cons_of_separates (hbehind c List.mem_cons_self),
        ih fun d hd => hbehind d (List.mem_cons_of_mem c hd)]
  induction names with
  | nil => exact hnone
  | cons name names ih =>
    have hname := hnames name List.mem_cons_self
    have ih := ih fun other hother => hnames other (List.mem_cons_of_mem name hother)
    cases names with
    | nil =>
      rw [List.intercalate_singleton]
      cases behind with
      | nil => rw [List.append_nil, words_of_plain hname]
      | cons c behind =>
        have hc := hbehind c List.mem_cons_self
        rw [words_append_cons hname hc, ← words_cons_of_separates hc, hnone]
    | cons next names =>
      rw [List.intercalate_cons_cons, List.append_assoc, List.append_assoc, List.cons_append,
        words_append_cons hname (by decide), List.cons_append, List.nil_append,
        words_cons_of_separates (by decide), ih]

theorem lastVisible_append_cons {c : Char} (hc : isBlank c = false) {blanks : List Char}
    (hblanks : ∀ b ∈ blanks, isBlank b = true) (cs : List Char) :
    lastVisible (cs ++ c :: blanks) = some c := by
  have hnone : blanks.reverse.find? (fun c => !isBlank c) = none := by
    refine List.find?_eq_none.2 fun b hb => ?_
    simp [hblanks b (List.mem_reverse.1 hb)]
  rw [lastVisible, List.reverse_append, List.reverse_cons, List.append_assoc, List.find?_append,
    hnone, Option.none_or, List.singleton_append, List.find?_cons_of_pos (by simp [hc])]

/-- A list of names begins and ends in a name. -/
theorem exists_intercalate_eq {names : List (List Char)} (hne : names ≠ [])
    (hnames : ∀ name ∈ names, Plain name) :
    (∃ c rest, [',', ' '].intercalate names = c :: rest ∧ separates c = false) ∧
      ∃ front c, [',', ' '].intercalate names = front ++ [c] ∧ separates c = false := by
  induction names with
  | nil => exact absurd rfl hne
  | cons name names ih =>
    have hname := hnames name List.mem_cons_self
    obtain ⟨first, later, rfl⟩ := List.exists_cons_of_ne_nil hname.1
    have hfirst := hname.2 first List.mem_cons_self
    cases names with
    | nil =>
      rw [List.intercalate_singleton]
      refine ⟨⟨first, later, rfl, hfirst⟩, (first :: later).dropLast,
        (first :: later).getLast hname.1, ?_, hname.2 _ (List.getLast_mem hname.1)⟩
      rw [List.dropLast_append_getLast]
    | cons next names =>
      obtain ⟨-, front, c, heq, hc⟩ := ih (List.cons_ne_nil _ _)
        fun other hother => hnames other (List.mem_cons_of_mem _ hother)
      rw [List.intercalate_cons_cons, heq, ← List.append_assoc]
      exact ⟨⟨first, _, rfl, hfirst⟩, _, c, rfl, hc⟩

end Text

/-! ## Specifiers -/

/-- A name that is asked for, and what it is to be bound to: the default of a module, all of it, or
the export of that name. -/
inductive Specifier where
  | byDefault (name : String)
  | asNamespace (name : String)
  | byName (name : String)
  deriving DecidableEq, Repr

namespace Specifier

def name : Specifier → String
  | byDefault name | asNamespace name | byName name => name

/-- The name is a plain identifier. -/
def Plain (s : Specifier) : Prop := Text.Plain s.name.toList

instance : DecidablePred Plain := fun s => inferInstanceAs (Decidable (Text.Plain s.name.toList))

end Specifier

/-- What a request asks for. -/
def ImportSpec.specifiers (spec : ImportSpec) : List Specifier :=
  spec.defaultName.toList.map .byDefault ++ spec.namespaceName.toList.map .asNamespace ++
    spec.named.map .byName

/-- What the statement for a request imports: a namespace only if there is nothing else. -/
def ImportSpec.written (spec : ImportSpec) : List Specifier :=
  let parts := spec.defaultName.toList.map .byDefault ++ spec.named.map .byName
  if parts.isEmpty then spec.namespaceName.toList.map .asNamespace else parts

namespace ExistingImport

/-- Whether a statement provides a specifier; an export only under its own name. -/
def provides (i : ExistingImport) : Specifier → Bool
  | .byDefault name => i.defaultName == some name
  | .asNamespace name => i.namespaceName == some name
  | .byName name => i.named.any fun s => s.name == name && s.localName == name

end ExistingImport

/-- The specifiers in a text that is put into a statement: a name with a comma behind it is a
default, and others are exports. -/
def Edit.specifiers (e : Edit) : List Specifier :=
  let names := (Text.words e.text.toList).map String.ofList
  if Text.lastVisible e.text.toList == some ',' then names.map .byDefault else names.map .byName

namespace ExistingImport

/-- Whether a text in a statement stands where it adds a specifier. A default comes first. Exports
come in braces of their own behind a default that stands alone, or behind a comma and the last
export, or into empty braces. -/
def takes (i : ExistingImport) (e : Edit) : Specifier → Bool
  | .byDefault _ => i.defaultName.isNone && i.clauseStart == some e.start
  | .asNamespace _ => false
  | .byName _ =>
    let continues := e.text.toList.head? == some ','
    if Text.lastVisible e.text.toList == some '\x7d' then
      continues && i.defaultName.isSome && i.namespaceName.isNone && i.braces.isNone &&
        i.defaultEnd == some e.start
    else if continues then i.braces.isSome && i.lastNamedEnd == some e.start
    else i.lastNamedEnd.isNone && i.braces.any fun b => b.2 - 1 == e.start

/-- The edit that makes a name the default of a statement without one. -/
def defaultEdit? (i : ExistingImport) (name : String) : Option Edit :=
  if i.defaultName.isNone then
    i.clauseStart.map fun offset => .insertion offset (name ++ ", ")
  else none

/-- The edit that puts exports into a statement: where its braces have room, or in braces of their
own behind a default that stands alone. -/
def namesEdit? (i : ExistingImport) (names : List String) : Option Edit :=
  match i.braces with
  | some (start, stop) => some (insertIntoBraces i.lastNamedEnd start stop (", ".intercalate names))
  | none =>
    if i.defaultName.isSome && i.namespaceName.isNone then
      i.defaultEnd.map fun offset => .insertion offset (", " ++ ImportSpec.bracedNames names)
    else none

/-- What a statement gains by an edit, which must not take anything away. -/
def gains (i : ExistingImport) (e : Edit) : List Specifier :=
  if e.start == e.stop then e.specifiers.filter (i.takes e) else []

end ExistingImport

/-- What a conflict is about: a requested namespace, or else a requested default. -/
def ImportConflict.specifier (c : ImportConflict) : Specifier :=
  match c.kind with
  | .asNamespace => .asNamespace c.requested
  | .byDefault | .byName => .byDefault c.requested

namespace Resolution

/-- What an outcome adds, to statements of the file and in new ones. -/
def added (targets : List ExistingImport) (r : Resolution) : List Specifier :=
  (r.edits.flatMap fun e => targets.flatMap (·.gains e)) ++
    r.newStatements.flatMap ImportSpec.written

/-- What an outcome reports. -/
def rejected (r : Resolution) : List Specifier := r.conflicts.map ImportConflict.specifier

end Resolution

/-! ## Reading insertions -/

theorem Text.words_append_of_separates {front : List Char} (h : ∀ c ∈ front, separates c = true)
    (cs : List Char) : words (front ++ cs) = words cs := by
  induction front with
  | nil => rfl
  | cons c front ih =>
    rw [List.cons_append, words_cons_of_separates (h c List.mem_cons_self),
      ih fun d hd => h d (List.mem_cons_of_mem c hd)]

section Names

variable {names : List String} (hne : names ≠ []) (hnames : ∀ name ∈ names, Text.Plain name.toList)

include hne hnames

/-- Names with blanks behind them end in a name. -/
theorem Text.lastVisible_names (front : List Char) {blanks : List Char}
    (hblanks : ∀ b ∈ blanks, Text.isBlank b = true) :
    ∃ c, Text.lastVisible (front ++ ((", ".intercalate names).toList ++ blanks)) = some c ∧
      Text.separates c = false := by
  obtain ⟨-, start, c, heq, hc⟩ :=
    Text.exists_intercalate_eq (mt List.map_eq_nil_iff.1 hne) (List.forall_mem_map.2 hnames)
  have hvisible : Text.isBlank c = false := by
    cases hblank : Text.isBlank c with
    | false => rfl
    | true => simp [Text.separates, hblank] at hc
  refine ⟨c, ?_, hc⟩
  have hjoined : (", ".intercalate names).toList = start ++ [c] :=
    String.toList_intercalate.trans heq
  rw [hjoined, List.append_assoc, ← List.append_assoc, List.singleton_append,
    Text.lastVisible_append_cons hvisible hblanks]

omit hne in
theorem Edit.specifiers_names {front behind : List Char}
    (hfront : ∀ c ∈ front, Text.separates c = true)
    (hbehind : ∀ c ∈ behind, Text.separates c = true) {text : String}
    (htext : text.toList = front ++ ((", ".intercalate names).toList ++ behind))
    (hlast : Text.lastVisible text.toList ≠ some ',') (offset : Nat) :
    (Edit.insertion offset text).specifiers = names.map .byName := by
  have hjoined : (", ".intercalate names).toList =
      [',', ' '].intercalate (names.map String.toList) :=
    String.toList_intercalate
  have hwords : Text.words text.toList = names.map String.toList := by
    rw [htext, Text.words_append_of_separates hfront, hjoined,
      Text.words_intercalate (List.forall_mem_map.2 hnames) hbehind]
  have hcomma : ¬(Text.lastVisible text.toList == some ',') = true := mt eq_of_beq hlast
  rw [Edit.specifiers, Edit.insertion, if_neg hcomma, hwords]
  simp [Function.comp_def]

end Names

namespace ExistingImport

variable {i : ExistingImport}

/-- All that the text of an edit has in it, and no more than that, is gained. -/
def Receives (i : ExistingImport) (e : Edit) (l : List Specifier) : Prop :=
  e.specifiers = l ∧ i.gains e = l

theorem receives_of_takes {offset : Nat} {text : String} {l : List Specifier}
    (hl : (Edit.insertion offset text).specifiers = l)
    (htakes : ∀ s ∈ l, i.takes (.insertion offset text) s = true) :
    i.Receives (.insertion offset text) l := by
  have hempty : ((Edit.insertion offset text).start == (Edit.insertion offset text).stop) = true :=
    beq_self_eq_true offset
  exact ⟨hl, by rw [gains, if_pos hempty, hl, List.filter_eq_self.2 htakes]⟩

theorem receives_default {name : String} (hname : Text.Plain name.toList) {offset : Nat}
    (hnone : i.defaultName = none) (hstart : i.clauseStart = some offset) :
    i.Receives (.insertion offset (name ++ ", ")) [.byDefault name] := by
  have htext : (name ++ ", ").toList = name.toList ++ [',', ' '] := String.toList_append
  have hlast : Text.lastVisible (name.toList ++ [',', ' ']) = some ',' :=
    Text.lastVisible_append_cons (by decide) (List.all_eq_true.1 rfl) _
  refine receives_of_takes ?_ fun s hs => ?_
  · rw [Edit.specifiers, Edit.insertion, htext, hlast, Text.words_append_cons hname (by decide),
      Text.words_cons_of_separates (by decide), Text.words_nil]
    simp
  · rw [List.mem_singleton.1 hs]
    simp [takes, Edit.insertion, hnone, hstart]

section Names

variable {names : List String} (hne : names ≠ []) (hnames : ∀ name ∈ names, Text.Plain name.toList)

include hne hnames

/-- A text of names with nothing but blanks behind them, where exports are listed. -/
theorem receives_listed {front behind : List Char} (hfront : ∀ c ∈ front, Text.separates c = true)
    (hbehind : ∀ c ∈ behind, Text.isBlank c = true) {text : String}
    (htext : text.toList = front ++ ((", ".intercalate names).toList ++ behind)) {offset : Nat}
    (hplace : (text.toList.head? = some ',' ∧ i.braces.isSome = true ∧
      i.lastNamedEnd = some offset) ∨
      (text.toList.head? ≠ some ',' ∧ i.lastNamedEnd = none ∧
        (i.braces.any fun b => b.2 - 1 == offset) = true)) :
    i.Receives (.insertion offset text) (names.map .byName) := by
  obtain ⟨c, hlast, hc⟩ := Text.lastVisible_names hne hnames front hbehind
  rw [← htext] at hlast
  have hends : Text.lastVisible text.toList ≠ some ',' ∧
      Text.lastVisible text.toList ≠ some '\x7d' := by
    rw [hlast]
    constructor <;> (rintro ⟨⟩; exact absurd hc (by decide))
  have hblank : ∀ c ∈ behind, Text.separates c = true := fun c hc => by
    simp [Text.separates, hbehind c hc]
  refine receives_of_takes (Edit.specifiers_names hnames hfront hblank htext hends.1 offset)
    fun s hs => ?_
  obtain ⟨name, -, rfl⟩ := List.mem_map.1 hs
  have hbraced : ¬(Text.lastVisible text.toList == some '\x7d') = true := mt eq_of_beq hends.2
  rw [takes, Edit.insertion, if_neg hbraced]
  rcases hplace with ⟨hhead, hbraces, hend⟩ | ⟨hhead, hend, hbraces⟩
  · rw [if_pos (beq_iff_eq.2 hhead), hbraces, hend]
    exact beq_self_eq_true _
  · rw [if_neg (mt eq_of_beq hhead), hend, hbraces]
    rfl

theorem receives_insertIntoBraces {start stop : Nat} (hbraces : i.braces = some (start, stop)) :
    i.Receives (insertIntoBraces i.lastNamedEnd start stop (", ".intercalate names))
      (names.map .byName) := by
  unfold insertIntoBraces
  split
  case h_1 offset hend =>
    have htext : (", " ++ ", ".intercalate names).toList =
        [',', ' '] ++ ((", ".intercalate names).toList ++ []) := by
      rw [String.toList_append, List.append_nil]
      rfl
    have hsome : i.braces.isSome = true := by rw [hbraces, Option.isSome_some]
    refine receives_listed hne hnames (List.all_eq_true.1 rfl) (List.all_eq_true.1 rfl) htext
      (.inl ⟨?_, hsome, hend⟩)
    rw [htext]
    rfl
  case h_2 hend =>
    have hplace : (i.braces.any fun b => b.2 - 1 == stop - 1) = true := by simp [hbraces]
    split
    · have htext : (" " ++ ", ".intercalate names ++ " ").toList =
          [' '] ++ ((", ".intercalate names).toList ++ [' ']) := by
        rw [String.toList_append, String.toList_append, List.append_assoc]
        rfl
      refine receives_listed hne hnames (List.all_eq_true.1 rfl) (List.all_eq_true.1 rfl) htext
        (.inr ⟨?_, hend, hplace⟩)
      rw [htext]
      exact fun h => absurd (Option.some.inj h) (by decide)
    · have htext : (", ".intercalate names ++ " ").toList =
          [] ++ ((", ".intercalate names).toList ++ [' ']) :=
        String.toList_append
      obtain ⟨⟨c, rest, heq, hc⟩, -⟩ :=
        Text.exists_intercalate_eq (mt List.map_eq_nil_iff.1 hne) (List.forall_mem_map.2 hnames)
      have hjoined : (", ".intercalate names).toList = c :: rest :=
        String.toList_intercalate.trans heq
      refine receives_listed hne hnames (List.all_eq_true.1 rfl) (List.all_eq_true.1 rfl) htext
        (.inr ⟨?_, hend, hplace⟩)
      rw [htext, hjoined]
      rintro ⟨⟩
      exact absurd hc (by decide)

omit hne in
theorem receives_bracedNames {offset : Nat} (hdefault : i.defaultName.isSome = true)
    (hnamespace : i.namespaceName = none) (hbraces : i.braces = none)
    (hend : i.defaultEnd = some offset) :
    i.Receives (.insertion offset (", " ++ ImportSpec.bracedNames names)) (names.map .byName) := by
  have htext : (", " ++ ImportSpec.bracedNames names).toList =
      [',', ' ', '\x7b', ' '] ++ ((", ".intercalate names).toList ++ [' ', '\x7d']) := by
    rw [ImportSpec.bracedNames, String.toList_append, String.toList_append,
      String.toList_append, List.append_assoc]
    rfl
  have hlast : Text.lastVisible (", " ++ ImportSpec.bracedNames names).toList = some '\x7d' := by
    have hsplit : (", ".intercalate names).toList ++ [' ', '\x7d'] =
        ((", ".intercalate names).toList ++ [' ']) ++ ['\x7d'] := by rw [List.append_assoc]; rfl
    rw [htext, hsplit, ← List.append_assoc,
      Text.lastVisible_append_cons (by decide) (List.all_eq_true.1 rfl)]
  have hspecifiers := Edit.specifiers_names hnames (List.all_eq_true.1 rfl) (List.all_eq_true.1 rfl)
    htext (by rw [hlast]; decide) offset
  refine receives_of_takes hspecifiers fun s hs => ?_
  obtain ⟨name, -, rfl⟩ := List.mem_map.1 hs
  have hhead : (", " ++ ImportSpec.bracedNames names).toList.head? = some ',' := by rw [htext]; rfl
  simp only [takes, Edit.insertion, hlast, hhead, hdefault, hnamespace, hbraces, hend]
  simp

theorem receives_namesEdit? {e : Edit} (h : i.namesEdit? names = some e) :
    i.Receives e (names.map .byName) := by
  unfold namesEdit? at h
  split at h
  · rename_i start stop hbraces
    rw [← Option.some_inj.1 h]
    exact receives_insertIntoBraces hne hnames hbraces
  · rename_i hbraces
    rw [Option.ite_none_right_eq_some, Bool.and_eq_true, Option.isNone_iff_eq_none] at h
    obtain ⟨⟨hdefault, hnamespace⟩, h⟩ := h
    obtain ⟨offset, hend, rfl⟩ := Option.map_eq_some_iff.1 h
    exact receives_bracedNames hnames hdefault hnamespace hbraces hend

end Names

end ExistingImport

/-! ## One kind at a time -/

section Kinds

variable {path : String} {targets : List ExistingImport} {s : Specifier}

theorem Resolution.mem_added_of_edit {e : Edit} {l : List Specifier} {i : ExistingImport}
    (hi : i ∈ targets) (hreceives : i.Receives e l) :
    s ∈ Resolution.added targets { edits := [e] } ↔ s ∈ l := by
  have hmem : s ∈ Resolution.added targets { edits := [e] } ↔ ∃ j ∈ targets, s ∈ j.gains e := by
    simp [Resolution.added]
  rw [hmem]
  refine ⟨fun ⟨j, hj, hs⟩ => ?_, fun hs => ⟨i, hi, hreceives.2 ▸ hs⟩⟩
  rw [← hreceives.1]
  unfold ExistingImport.gains at hs
  split at hs
  · exact List.mem_of_mem_filter hs
  · exact absurd hs List.not_mem_nil

/-- A requested default is there, collides, is added to a statement without one, or needs a new
statement. -/
theorem resolveDefault_cases (path : String) (targets : List ExistingImport) (name : String) :
    (targets.findSome? (·.defaultName) = some name ∧
      resolveDefault path targets (some name) = { later := none }) ∨
    (∃ kind present, kind ≠ .asNamespace ∧
      (targets.findSome? (·.defaultName) = some present ∧ present ≠ name ∨
        targets.findSome? (·.defaultName) = none ∧ ∃ i ∈ targets, i.binds name = true) ∧
      resolveDefault path targets (some name) =
        { now := { conflicts := [⟨path, kind, present, name⟩] }, later := none }) ∨
    (targets.findSome? (·.defaultName) = none ∧ (∀ i ∈ targets, i.binds name = false) ∧
      ((∃ offset, (∃ i ∈ targets, i.defaultName = none ∧ i.clauseStart = some offset) ∧
        resolveDefault path targets (some name) =
          { now := { edits := [.insertion offset (name ++ ", ")] }, later := none }) ∨
        resolveDefault path targets (some name) = { later := some name })) := by
  cases hpresent : targets.findSome? (·.defaultName) with
  | some present =>
    by_cases heq : present = name
    · exact .inl ⟨by rw [heq], by simp [resolveDefault, hpresent, heq]⟩
    · exact .inr
        (.inl ⟨.byDefault, present, by decide, .inl ⟨rfl, heq⟩,
          by simp [resolveDefault, hpresent, heq]⟩)
  | none =>
    cases hbinds : targets.any (·.binds name) with
    | true =>
      refine .inr (.inl ⟨.byName, name, by decide, .inr ⟨rfl, List.any_eq_true.1 hbinds⟩, ?_⟩)
      simp only [resolveDefault, hpresent, hbinds]
      rfl
    | false =>
      refine .inr
        (.inr ⟨rfl, fun i hi => Bool.eq_false_iff.2 (List.any_eq_false.1 hbinds i hi), ?_⟩)
      cases hoffset : targets.findSome? fun i =>
        if i.defaultName.isNone then i.clauseStart else none with
      | some offset =>
        obtain ⟨i, hi, hstart⟩ := List.exists_of_findSome?_eq_some hoffset
        rw [Option.ite_none_right_eq_some, Option.isNone_iff_eq_none] at hstart
        refine .inl ⟨offset, ⟨i, hi, hstart⟩, ?_⟩
        simp only [resolveDefault, hpresent, hbinds, hoffset]
        rfl
      | none =>
        refine .inr ?_
        simp only [resolveDefault, hpresent, hbinds, hoffset]
        rfl

/-- A requested default is added exactly if there is no default and the name is free. -/
theorem mem_added_resolveDefault {requested : Option String}
    (hplain : ∀ name ∈ requested, Text.Plain name.toList) :
    (s ∈ (resolveDefault path targets requested).now.added targets ∨
      s ∈ (resolveDefault path targets requested).later.toList.map .byDefault) ↔
    ∃ name, requested = some name ∧ s = .byDefault name ∧ targets.findSome? (·.defaultName) = none ∧
      ∀ i ∈ targets, i.binds name = false := by
  cases requested with
  | none => simp [resolveDefault, Resolution.added]
  | some name =>
    simp only [Option.some_inj, exists_eq_left']
    rcases resolveDefault_cases path targets name with ⟨hsome, h⟩ |
      ⟨kind, present, -, hkind, h⟩ | ⟨hnone, hfree, h⟩
    · simp [h, Resolution.added, hsome]
    · refine iff_of_false (by simp [h, Resolution.added]) ?_
      rintro ⟨-, hnone, hfree⟩
      rcases hkind with ⟨hsome, -⟩ | ⟨-, i, hi, hbinds⟩
      · simp [hsome] at hnone
      · simp [hfree i hi] at hbinds
    · rw [and_iff_left ⟨hnone, hfree⟩]
      rcases h with ⟨offset, ⟨i, hi, hnone, hstart⟩, h⟩ | h
      · have hreceives := ExistingImport.receives_default (hplain name rfl) hnone hstart
        rw [h, Resolution.mem_added_of_edit hi hreceives]
        simp
      · simp [h, Resolution.added]

/-- It is reported exactly if there is another one first, or there is none and the name is bound. -/
theorem mem_rejected_resolveDefault {requested : Option String} :
    s ∈ (resolveDefault path targets requested).now.rejected ↔
      ∃ name, requested = some name ∧ s = .byDefault name ∧
      ((∃ present, targets.findSome? (·.defaultName) = some present ∧ present ≠ name) ∨
        targets.findSome? (·.defaultName) = none ∧ ∃ i ∈ targets, i.binds name = true) := by
  cases requested with
  | none => simp [resolveDefault, Resolution.rejected]
  | some name =>
    simp only [Option.some_inj, exists_eq_left']
    rcases resolveDefault_cases path targets name with ⟨hsome, h⟩ |
      ⟨kind, present, hne, hkind, h⟩ | ⟨hnone, hfree, h⟩
    · simp [h, Resolution.rejected, hsome]
    · have hspecifier : ImportConflict.specifier ⟨path, kind, present, name⟩ = .byDefault name := by
        cases kind with
        | asNamespace => exact absurd rfl hne
        | byDefault | byName => rfl
      rw [h, Resolution.rejected, List.map_singleton, hspecifier, List.mem_singleton]
      exact (and_iff_left (hkind.imp (fun h => ⟨present, h⟩) id)).symm
    · have hnow : (resolveDefault path targets (some name)).now.conflicts = [] := by
        rcases h with ⟨offset, -, h⟩ | h <;> rw [h]
      refine iff_of_false (by simp [Resolution.rejected, hnow]) ?_
      rintro ⟨-, ⟨present, hsome, -⟩ | ⟨-, i, hi, hbinds⟩⟩
      · simp [hnone] at hsome
      · simp [hfree i hi] at hbinds

/-- A requested namespace is added exactly if there is none. -/
theorem mem_added_resolveNamespace {requested : Option String} :
    (s ∈ (resolveNamespace path targets requested).now.added targets ∨
      s ∈ (resolveNamespace path targets requested).later.toList.flatMap ImportSpec.written) ↔
    ∃ name, requested = some name ∧ s = .asNamespace name ∧
      targets.findSome? (·.namespaceName) = none := by
  cases requested with
  | none => simp [resolveNamespace, Resolution.added]
  | some name =>
    cases hpresent : targets.findSome? (·.namespaceName) with
    | none => simp [resolveNamespace, hpresent, Resolution.added, ImportSpec.written]
    | some present =>
      by_cases heq : present = name <;> simp [resolveNamespace, hpresent, heq, Resolution.added]

/-- It is reported exactly if there is another one first. -/
theorem mem_rejected_resolveNamespace {requested : Option String} :
    s ∈ (resolveNamespace path targets requested).now.rejected ↔
      ∃ name, requested = some name ∧ s = .asNamespace name ∧
        ∃ present, targets.findSome? (·.namespaceName) = some present ∧ present ≠ name := by
  cases requested with
  | none => simp [resolveNamespace, Resolution.rejected]
  | some name =>
    cases hpresent : targets.findSome? (·.namespaceName) with
    | none => simp [resolveNamespace, hpresent, Resolution.rejected]
    | some present =>
      have hspecifier : ImportConflict.specifier ⟨path, .asNamespace, present, name⟩ =
          .asNamespace name := rfl
      by_cases heq : present = name <;>
        simp [resolveNamespace, hpresent, heq, Resolution.rejected, hspecifier]

theorem mem_missingNames {requested : List String} {name : String} :
    name ∈ missingNames targets requested ↔ name ∈ requested ∧
      ∀ i ∈ targets, i.binds name = false := by
  -- What has been collected from the beginning of the list.
  have hrun : ∀ missing : List String, name ∈ requested.foldl (fun missing name =>
      if missing.contains name || targets.any fun i => i.binds name then missing
        else missing ++ [name]) missing ↔
      name ∈ missing ∨ name ∈ requested ∧ ∀ i ∈ targets, i.binds name = false := by
    induction requested with
    | nil => simp
    | cons next requested ih =>
      intro missing
      rw [List.foldl_cons, ih]
      have hstep :
          name ∈ (if missing.contains next || targets.any fun i => i.binds next then missing
          else missing ++ [next]) ↔ name ∈ missing ∨ name = next ∧
            ∀ i ∈ targets, i.binds name = false := by
        by_cases heq : name = next
        · subst heq
          have hfree : (∀ i ∈ targets, i.binds name = false) ↔
              targets.any (·.binds name) = false := by simp
          rw [hfree]
          generalize targets.any (·.binds name) = bound
          cases bound <;> by_cases hmem : name ∈ missing <;> simp [hmem]
        · split <;> simp [heq]
      rw [hstep, List.mem_cons, or_and_right, or_assoc]
  rw [missingNames, hrun]
  simp

/-- Requested names that are missing go into a statement that can take them, or all into a new
one. -/
theorem resolveNamed_cases (targets : List ExistingImport) (requested : List String) :
    resolveNamed targets requested = { later := missingNames targets requested } ∨
    missingNames targets requested ≠ [] ∧
      ∃ e, resolveNamed targets requested = { now := { edits := [e] }, later := [] } ∧
      ∃ i ∈ targets, i.namesEdit? (missingNames targets requested) = some e := by
  unfold resolveNamed
  generalize missingNames targets requested = missing
  cases missing with
  | nil => exact .inl rfl
  | cons name names =>
    dsimp only
    split
    · rename_i lastNamedEnd start stop hfound
      obtain ⟨i, hi, hbraces⟩ := List.exists_of_findSome?_eq_some hfound
      obtain ⟨⟨start', stop'⟩, hbraces, heq⟩ := Option.map_eq_some_iff.1 hbraces
      cases heq
      exact .inr ⟨List.cons_ne_nil _ _, _, rfl, i, hi, by rw [ExistingImport.namesEdit?, hbraces]⟩
    · split
      · rename_i offset hfound
        obtain ⟨i, hfind, hend⟩ := Option.bind_eq_some_iff.1 hfound
        have halone := List.find?_some hfind
        simp only [Bool.and_eq_true, Option.isNone_iff_eq_none] at halone
        refine .inr ⟨List.cons_ne_nil _ _, _, rfl, i, List.mem_of_find?_eq_some hfind, ?_⟩
        simp [ExistingImport.namesEdit?, halone, hend]
      · exact .inl rfl

/-- Requested names are added exactly if no statement binds them. -/
theorem mem_added_resolveNamed {requested : List String}
    (hplain : ∀ name ∈ requested, Text.Plain name.toList) :
    (s ∈ (resolveNamed targets requested).now.added targets ∨
      s ∈ (resolveNamed targets requested).later.map .byName) ↔
    ∃ name ∈ requested, s = .byName name ∧ ∀ i ∈ targets, i.binds name = false := by
  have hmissing : s ∈ (missingNames targets requested).map .byName ↔
      ∃ name ∈ requested, s = .byName name ∧ ∀ i ∈ targets, i.binds name = false := by
    simp only [List.mem_map, mem_missingNames]
    constructor
    · rintro ⟨name, ⟨hname, hfree⟩, rfl⟩
      exact ⟨name, hname, rfl, hfree⟩
    · rintro ⟨name, hname, rfl, hfree⟩
      exact ⟨name, ⟨hname, hfree⟩, rfl⟩
  rw [← hmissing]
  rcases resolveNamed_cases targets requested with h | ⟨hne, e, h, i, hi, hedit⟩
  · simp [h, Resolution.added]
  · have hplain : ∀ name ∈ missingNames targets requested, Text.Plain name.toList :=
      fun name hname => hplain name (mem_missingNames.1 hname).1
    rw [h, Resolution.mem_added_of_edit hi (ExistingImport.receives_namesEdit? hne hplain hedit)]
    simp

theorem rejected_resolveNamed (targets : List ExistingImport) (requested : List String) :
    (resolveNamed targets requested).now.rejected = [] := by
  unfold resolveNamed
  split
  · rfl
  · dsimp only
    split
    · rfl
    · split <;> rfl

end Kinds

/-! ## All together -/

/-- The statements that a request is merged into. -/
def ImportSpec.targets (spec : ImportSpec) (existing : List ExistingImport) : List ExistingImport :=
  (existing.filter fun i => i.path == spec.path).filter (·.isMergeTarget)

section Module

variable {spec : ImportSpec} {existing : List ExistingImport} {s : Specifier}

theorem Resolution.mem_added_append {targets : List ExistingImport} {r r' : Resolution} :
    s ∈ (r ++ r').added targets ↔ s ∈ r.added targets ∨ s ∈ r'.added targets := by
  have happend : r ++ r' =
      ⟨r.edits ++ r'.edits, r.newStatements ++ r'.newStatements, r.conflicts ++ r'.conflicts⟩ := rfl
  simp only [happend, Resolution.added, List.flatMap_append, List.mem_append]
  tauto

theorem Resolution.rejected_append (r r' : Resolution) :
    (r ++ r').rejected = r.rejected ++ r'.rejected :=
  List.map_append

/-- The statement for what no statement of the file can take, if it is needed. -/
theorem mem_written_fresh {path : String} {defaultName : Option String} {named : List String}
    (bare : Bool) :
    s ∈ (if !ImportSpec.isEmpty { path, defaultName, named } || bare
      then [{ path, defaultName, named : ImportSpec }]
      else []).flatMap ImportSpec.written ↔ s ∈ defaultName.toList.map .byDefault ∨
        s ∈ named.map .byName := by
  cases defaultName <;> cases named <;> cases bare <;> simp [ImportSpec.isEmpty, ImportSpec.written]

/-- What a request adds, one kind at a time. -/
theorem mem_added_resolveModule : s ∈ (resolveModule spec existing).added (spec.targets existing) ↔
    (s ∈ (resolveDefault spec.path (spec.targets existing) spec.defaultName).now.added
      (spec.targets existing) ∨
      s ∈ (resolveDefault spec.path (spec.targets existing) spec.defaultName).later.toList.map
        .byDefault) ∨
    (s ∈ (resolveNamespace spec.path (spec.targets existing) spec.namespaceName).now.added
      (spec.targets existing) ∨
      s ∈ (resolveNamespace spec.path (spec.targets existing)
        spec.namespaceName).later.toList.flatMap ImportSpec.written) ∨
    (s ∈ (resolveNamed (spec.targets existing) spec.named).now.added (spec.targets existing) ∨
      s ∈ (resolveNamed (spec.targets existing) spec.named).later.map .byName) := by
  have hnew : ∀ statements : List ImportSpec,
      s ∈ Resolution.added (spec.targets existing) { newStatements := statements } ↔
        s ∈ statements.flatMap ImportSpec.written :=
    fun statements => Iff.rfl
  unfold resolveModule
  simp only [Resolution.mem_added_append, hnew, List.flatMap_append,
    List.mem_append, mem_written_fresh]
  unfold ImportSpec.targets
  tauto

/-- What it reports; names are never reported. -/
theorem mem_rejected_resolveModule : s ∈ (resolveModule spec existing).rejected ↔
    s ∈ (resolveDefault spec.path (spec.targets existing) spec.defaultName).now.rejected ∨
      s ∈ (resolveNamespace spec.path (spec.targets existing) spec.namespaceName).now.rejected := by
  have hnew : ∀ statements : List ImportSpec,
      Resolution.rejected { newStatements := statements } = [] := fun _ => rfl
  unfold resolveModule
  simp only [Resolution.rejected_append, rejected_resolveNamed, hnew,
    List.append_nil, List.mem_append]
  exact Iff.rfl

end Module

/-! ## Every requested specifier -/

def ExactlyOne (p q r : Prop) : Prop := (p ∧ ¬q ∧ ¬r) ∨ (¬p ∧ q ∧ ¬r) ∨ (¬p ∧ ¬q ∧ r)

namespace Specifier

/-- A name that statements bind, but none of them to the export of that name. -/
def isShadowed (targets : List ExistingImport) : Specifier → Bool
  | byName name => targets.any (·.binds name) && !targets.any (·.provides (byName name))
  | byDefault _ | asNamespace _ => false

/-- A default or a namespace that is there, but is not the first one. -/
def isSecond (targets : List ExistingImport) : Specifier → Bool
  | byDefault name =>
    targets.any (·.provides (byDefault name)) && targets.findSome? (·.defaultName) != some name
  | asNamespace name =>
    targets.any (·.provides (asNamespace name)) && targets.findSome? (·.namespaceName) != some name
  | byName _ => false

end Specifier

theorem ExistingImport.binds_of_provides (i : ExistingImport) {s : Specifier}
    (h : i.provides s = true) : i.binds s.name = true := by
  cases s with
  | byDefault name | asNamespace name =>
    have h := eq_of_beq h
    simp [binds, Specifier.name, h]
  | byName name =>
    obtain ⟨n, hn, h⟩ := List.any_eq_true.1 h
    have hnamed : i.named.any (fun n => n.localName == name) = true :=
      List.any_eq_true.2 ⟨n, hn, (Bool.and_eq_true_iff.1 h).2⟩
    simp only [binds, Specifier.name, hnamed, Bool.or_true]

/-- One of three things holds of a specifier, unless it is lost or holds twice. -/
structure Accounted (lost twice : Bool) (present added rejected : Prop) : Prop where
  exactlyOne : ExactlyOne present added rejected ↔ lost = false ∧ twice = false
  lost_iff : lost = true ↔ ¬present ∧ ¬added ∧ ¬rejected
  twice_iff : twice = true ↔ present ∧ rejected

/-- Defaults and namespaces: the first one decides. -/
theorem accounted_of_first (f : ExistingImport → Option String) (name : String) (bound : Prop)
    {targets : List ExistingImport} {added rejected : Prop}
    (hadded : added ↔ targets.findSome? f = none ∧ ¬bound)
    (hrejected : rejected ↔ (∃ other, targets.findSome? f = some other ∧ other ≠ name) ∨
      targets.findSome? f = none ∧ bound) :
    Accounted false (targets.any (f · == some name) && targets.findSome? f != some name)
      (∃ i ∈ targets, (f i == some name) = true) added rejected := by
  cases hfirst : targets.findSome? f with
  | none =>
    have habsent : ¬∃ i ∈ targets, (f i == some name) = true := by
      rintro ⟨i, hi, hname⟩
      simp [List.findSome?_eq_none_iff.1 hfirst i hi] at hname
    have hany : targets.any (f · == some name) = false := by
      rwa [← Bool.not_eq_true, List.any_eq_true]
    have hadded : added ↔ ¬bound := by simpa [hfirst] using hadded
    have hrejected : rejected ↔ bound := by simpa [hfirst] using hrejected
    rw [hany, Bool.false_and]
    generalize (∃ i ∈ targets, (f i == some name) = true) = present at habsent ⊢
    by_cases hbound : bound <;> exact ⟨by simp [ExactlyOne, habsent, hadded, hrejected, hbound],
      by simp [hadded, hrejected, hbound], by simp [habsent]⟩
  | some other =>
    have hadded : ¬added := by simp [hadded, hfirst]
    by_cases heq : other = name
    · subst heq
      obtain ⟨i, hi, hname⟩ := List.exists_of_findSome?_eq_some hfirst
      have hpresent : ∃ i ∈ targets, (f i == some other) = true := ⟨i, hi, beq_iff_eq.2 hname⟩
      have hrejected : ¬rejected := by simp [hrejected, hfirst]
      rw [bne_self_eq_false, Bool.and_false]
      generalize (∃ i ∈ targets, (f i == some other) = true) = present at hpresent ⊢
      exact ⟨by simp [ExactlyOne, hpresent, hadded, hrejected],
        by simp [hpresent], by simp [hrejected]⟩
    · have hrejected : rejected := by simp [hrejected, hfirst, heq]
      have htwice : (targets.any (f · == some name) && some other != some name) = true ↔
          ∃ i ∈ targets, (f i == some name) = true := by simp [heq]
      refine ⟨?_, by simp [hrejected], by rw [htwice, and_iff_left hrejected]⟩
      rw [← Bool.not_eq_true (targets.any _ && _), htwice]
      simp [ExactlyOne, hadded, hrejected]

/-- Names: it is enough that something is bound to them. -/
theorem accounted_of_bound (bound : Prop) {present added rejected : Prop} {lost : Bool}
    (hbound : present → bound) (hlost : lost = true ↔ bound ∧ ¬present) (hadded : added ↔ ¬bound)
    (hrejected : ¬rejected) : Accounted lost false present added rejected := by
  refine ⟨?_, ?_, by simp [hrejected]⟩
  · rw [← Bool.not_eq_true, hlost]
    by_cases hpresent : present
    · simp [ExactlyOne, hpresent, hadded, hrejected, hbound hpresent]
    · simp [ExactlyOne, hpresent, hadded, hrejected]
  · rw [hlost, hadded, Classical.not_not, and_iff_left hrejected, and_comm]

section Accounts

variable {spec : ImportSpec} {existing : List ExistingImport} {s : Specifier}

theorem accounted_of_mem (hplain : ∀ s ∈ spec.specifiers, s.Plain) (hs : s ∈ spec.specifiers) :
    Accounted (s.isShadowed (spec.targets existing)) (s.isSecond (spec.targets existing))
      (∃ i ∈ spec.targets existing, i.provides s = true)
      (s ∈ (resolveModule spec existing).added (spec.targets existing))
        (s ∈ (resolveModule spec existing).rejected) := by
  have hdefault : ∀ name ∈ spec.defaultName, Text.Plain name.toList := fun name hname =>
    hplain (.byDefault name) (by simp [ImportSpec.specifiers, Option.mem_def.1 hname])
  have hnamed : ∀ name ∈ spec.named, Text.Plain name.toList := fun name hname =>
    hplain (.byName name) (by simp [ImportSpec.specifiers, hname])
  rw [mem_added_resolveModule, mem_rejected_resolveModule, mem_added_resolveDefault hdefault,
    mem_added_resolveNamespace, mem_added_resolveNamed hnamed, mem_rejected_resolveDefault,
    mem_rejected_resolveNamespace]
  generalize spec.targets existing = targets
  cases s with
  | byDefault name =>
    have hrequested : spec.defaultName = some name := by simpa [ImportSpec.specifiers] using hs
    exact accounted_of_first (·.defaultName) name (∃ i ∈ targets, i.binds name = true)
      (by simp [hrequested]) (by simp [hrequested])
  | asNamespace name =>
    have hrequested : spec.namespaceName = some name := by simpa [ImportSpec.specifiers] using hs
    exact accounted_of_first (·.namespaceName) name False (by simp [hrequested])
      (by simp [hrequested])
  | byName name =>
    have hrequested : name ∈ spec.named := by simpa [ImportSpec.specifiers] using hs
    refine accounted_of_bound (∃ i ∈ targets, i.binds name = true) ?_ ?_
      (by simp [hrequested]) (by simp)
    · rintro ⟨i, hi, hprovides⟩
      exact ⟨i, hi, i.binds_of_provides hprovides⟩
    · simp [Specifier.isShadowed]

/-- **What becomes of a requested specifier.** It is there already, or is added, or is reported, and
only one of these. There are two exceptions. A default or a namespace behind another one is there
and is reported. A name that is bound to something else gets lost: it is not there, not added and
not reported. If nothing is to be changed and nothing is reported, all that is not lost in this way
is there. -/
theorem resolveModule_accounts (spec : ImportSpec) (existing : List ExistingImport)
    (hplain : ∀ s ∈ spec.specifiers, s.Plain) (s : Specifier) (hs : s ∈ spec.specifiers) :
    let targets := spec.targets existing
    let r := resolveModule spec existing
    let present := ∃ i ∈ targets, i.provides s = true
    (ExactlyOne present (s ∈ r.added targets) (s ∈ r.rejected) ↔
      s.isShadowed targets = false ∧ s.isSecond targets = false) ∧
    (s.isShadowed targets = true ↔ ¬present ∧ s ∉ r.added targets ∧ s ∉ r.rejected) ∧
    (s.isSecond targets = true ↔ present ∧ s ∈ r.rejected) ∧
    (r.isNoop = true → r.conflicts = [] → (present ↔ s.isShadowed targets = false)) := by
  intro targets r present
  have haccounted : Accounted (s.isShadowed targets) (s.isSecond targets) present
      (s ∈ r.added targets) (s ∈ r.rejected) := accounted_of_mem hplain hs
  refine ⟨haccounted.exactlyOne, haccounted.lost_iff, haccounted.twice_iff,
    fun hnoop hconflicts => ?_⟩
  have hadded : s ∉ r.added targets := by
    have hnothing := Bool.and_eq_true_iff.1 hnoop
    rw [Resolution.added, List.isEmpty_iff.1 hnothing.1, List.isEmpty_iff.1 hnothing.2]
    exact List.not_mem_nil
  have hrejected : s ∉ r.rejected := by
    rw [Resolution.rejected, hconflicts]
    exact List.not_mem_nil
  rw [← Bool.not_eq_true, haccounted.lost_iff, and_iff_left ⟨hadded, hrejected⟩, Classical.not_not]

end Accounts

/-- A name that is there under another one only is added under its own. -/
theorem resolveModule_accounts_renamed :
    let spec : ImportSpec := { path := "m", defaultName := some "a", named := ["b"] }
    let existing : List ExistingImport :=
      [{ path := "m", start := 0, stop := 30, defaultName := some "a", named := [⟨"b", some "c"⟩],
         clauseStart := some 7, defaultEnd := some 8, braces := some (10, 20),
         lastNamedEnd := some 18 }]
    (∀ s ∈ spec.specifiers, s.Plain) ∧ .byName "b" ∈ spec.specifiers ∧
      ExactlyOne (∃ i ∈ spec.targets existing, i.provides (.byName "b") = true)
        (.byName "b" ∈ (resolveModule spec existing).added (spec.targets existing))
        (.byName "b" ∈ (resolveModule spec existing).rejected) :=
  ⟨by decide, by decide, (resolveModule_accounts _ _ (by decide) _ (by decide)).1.2
    ⟨by decide, by decide⟩⟩

/-- A name that the default is bound to is lost, and a default behind another one is reported. -/
theorem not_exactlyOne_of_taken :
    (let spec : ImportSpec := { path := "m", named := ["foo"] }
     let existing : List ExistingImport :=
       [{ path := "m", start := 0, stop := 20, defaultName := some "foo", clauseStart := some 7
          defaultEnd := some 10 }]
     .byName "foo" ∈ spec.specifiers ∧ (resolveModule spec existing).isNoop = true ∧
       (resolveModule spec existing).conflicts = [] ∧
       ¬∃ i ∈ spec.targets existing, i.provides (.byName "foo") = true) ∧
    (let spec : ImportSpec := { path := "m", defaultName := some "b" }
     let existing : List ExistingImport :=
       [{ path := "m", start := 0, stop := 18, defaultName := some "a", clauseStart := some 7,
          defaultEnd := some 8 },
        { path := "m", start := 19, stop := 37, defaultName := some "b", clauseStart := some 26
          defaultEnd := some 27 }]
     (∃ i ∈ spec.targets existing, i.provides (.byDefault "b") = true) ∧
       .byDefault "b" ∈ (resolveModule spec existing).rejected) := by
  decide

end Graft
