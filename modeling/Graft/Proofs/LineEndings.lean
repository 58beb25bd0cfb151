import Graft.Proofs.Consistency
import Graft.Proofs.Crlf
import Graft.Proofs.Merging

set_option autoImplicit false

/-!
# Line endings

Code that is generated from a text with carriage returns has them too (`Session.generate_crlf`):
what is written on lines of its own is broken as the source is, and nothing is put in or taken out
inside a line break. There are two provisos. Markup that does not get lines of its own is copied as
it is, so it must not bring bare line feeds. And where a request goes by the edge of a node, that
must not be inside a line break, as the end of a line for the shell is.
-/

namespace Graft

/-! ## Requests -/

/-- The texts of a requested import. -/
def ImportSpec.texts (s : ImportSpec) : List String :=
  s.path :: (s.defaultName.toList ++ s.named ++ s.namespaceName.toList)

/-- The texts of a request that go into one line. Markup and the body of an effect may have lines of
their own. -/
def Request.texts : Request → List String
  | .addImport spec => spec.texts
  | .addState state => [state.name, state.setter, state.initialValue]
  | .addEffect effect => effect.dependencies.getD []
  | .wrap _ wrapper => wrapper.component :: wrapper.props.toList
  | .insert _ _ _ | .delete _ => []
  | .replace search replacement => [search, replacement]

namespace Workspace

/-- Whether markup at an element gets lines of its own. -/
def givesLines (w : Workspace) (node : Node) : InsertPosition → Bool
  | .before => Text.startsLine w.chars node.start
  | .after => Text.startsLine w.chars node.start && Text.endsLine w.chars node.stop
  | .startOfChildren => (tagsOf node).all fun (opening, _) => Text.endsLine w.chars opening.stop
  | .endOfChildren => (tagsOf node).all fun (opening, closing) =>
    let contentEnd :=
      max (Text.byteLength (Text.trimEnd (Text.before w.chars closing.start))) opening.stop
    ((Text.slice? w.chars contentEnd closing.start).getD []).contains '\n'

variable {w : Workspace} (heol : w.eol = ['\r', '\n'])

theorem not_mem_bodyIndent (w : Workspace) (body : Node) : '\n' ∉ w.bodyIndent body := by
  unfold bodyIndent
  split
  · split
    · exact Text.not_mem_lineIndent _ _
    · exact Text.not_mem_nestedIndent (Text.not_mem_lineIndent _ _)
  · exact Text.not_mem_nestedIndent (Text.not_mem_lineIndent _ _)

theorem not_mem_childIndent (w : Workspace) (element : Node) {indent : List Char}
    (h : '\n' ∉ indent) : '\n' ∉ w.childIndent element indent := by
  unfold childIndent
  dsimp only
  split
  · exact Text.not_mem_lineIndent _ _
  · exact Text.not_mem_nestedIndent h

include heol

theorem crlf_placeState (hhook : '\n' ∉ w.options.hooks.state.toList) {state : StateVariable}
    (htexts : ∀ text ∈ (Request.addState state).texts, '\n' ∉ text.toList) (body : Node) :
    Text.Crlf (w.placeState state body).text.toList := by
  obtain ⟨name, setter, initialValue, component⟩ := state
  have hstatement : '\n' ∉
      s!"const [{name}, {setter}] = {w.options.hooks.state}({initialValue});".toList := by
    simp only [Request.texts, List.forall_mem_cons] at htexts
    simp [toString, htexts, hhook]
  show Text.Crlf (String.ofList (w.eol ++ w.bodyIndent body) ++ _).toList
  rw [String.toList_append, String.toList_ofList, heol]
  exact (Text.Crlf.append (by decide) (Text.crlf_of_not_mem (w.not_mem_bodyIndent body))).append
    (Text.crlf_of_not_mem hstatement)

theorem crlf_renderEffect (hhook : '\n' ∉ w.options.hooks.effect.toList) {effect : Effect}
    (htexts : ∀ text ∈ (Request.addEffect effect).texts, '\n' ∉ text.toList) {indent : List Char}
    (hindent : '\n' ∉ indent) : Text.Crlf (w.renderEffect effect indent) := by
  have heol' : Text.Crlf w.eol := by
    rw [heol]
    decide
  have hhead : Text.Crlf (w.options.hooks.effect ++ "(() => \x7b").toList :=
    Text.crlf_of_not_mem (by simpa using hhook)
  have hbody : Text.Crlf (Text.reindent effect.body.toList (Text.nestedIndent indent) w.eol) := by
    rw [heol]
    exact Text.crlf_reindent _ (Text.not_mem_nestedIndent hindent)
  -- Whatever the call ends with, if it is on one line.
  have hcall : ∀ tail : String, '\n' ∉ tail.toList →
      Text.Crlf (if (Text.reindent effect.body.toList (Text.nestedIndent indent) w.eol).isEmpty then
        (w.options.hooks.effect ++ "(() => \x7b").toList ++ tail.toList
      else (w.options.hooks.effect ++ "(() => \x7b").toList ++ w.eol ++
        Text.reindent effect.body.toList (Text.nestedIndent indent) w.eol ++ w.eol ++
          indent ++ tail.toList) := by
    intro tail htail
    have htail := Text.crlf_of_not_mem htail
    split
    · exact hhead.append htail
    · exact ((((hhead.append heol').append hbody).append heol').append
        (Text.crlf_of_not_mem hindent)).append htail
  unfold renderEffect
  cases hdependencies : effect.dependencies with
  | none => exact hcall _ (by decide)
  | some dependencies =>
    refine hcall _ ?_
    have hlist : '\n' ∉ (", ".intercalate dependencies).toList :=
      Text.not_mem_intercalate (by decide) fun text hmem =>
        htexts text (by simpa [Request.texts, hdependencies] using hmem)
    simpa using hlist

theorem crlf_placeEffect (hhook : '\n' ∉ w.options.hooks.effect.toList) {effect : Effect}
    (htexts : ∀ text ∈ (Request.addEffect effect).texts, '\n' ∉ text.toList) (body : Node) :
    Text.Crlf (w.placeEffect effect body).text.toList := by
  have heol' : Text.Crlf w.eol := by
    rw [heol]
    decide
  have hindent : Text.Crlf (w.bodyIndent body) := Text.crlf_of_not_mem (w.not_mem_bodyIndent body)
  have hcall := crlf_renderEffect heol hhook htexts (w.not_mem_bodyIndent body)
  have hapart := ((heol'.append heol').append hindent).append hcall
  unfold placeEffect
  dsimp only
  split
  · simpa using hapart
  · split
    · split
      · rw [String.toList_ofList]
        split
        · exact ((hcall.append heol').append heol').append hindent
        · exact hcall.append (by decide)
      · simpa using hapart
    · simpa using (heol'.append hindent).append hcall

omit heol in
theorem not_mem_trimmed {text : String} (h : '\n' ∉ text.toList) :
    '\n' ∉ (trimmed text).toList := by
  rw [trimmed, String.toList_ofList]
  intro hmem
  exact h ((List.dropWhile_sublist _).mem (Text.mem_of_mem_trimEnd hmem))

omit heol in
theorem not_mem_tags {target : Target} {wrapper : Wrapper}
    (htexts : ∀ text ∈ (Request.wrap target wrapper).texts, '\n' ∉ text.toList) :
    '\n' ∉ (openingTag wrapper).toList ∧ '\n' ∉ (closingTag wrapper).toList := by
  obtain ⟨hcomponent, hprops⟩ := List.forall_mem_cons.1 htexts
  have hcomponent := not_mem_trimmed hcomponent
  constructor
  · unfold openingTag
    cases hsome : wrapper.props with
    | none => simpa using hcomponent
    | some props =>
      have hprops := not_mem_trimmed (hprops props (by simp [hsome]))
      by_cases hempty : (trimmed props).isEmpty = true
      · simpa [hempty] using hcomponent
      · simpa [hempty] using ⟨hcomponent, hprops⟩
  · simpa [closingTag] using hcomponent

/-- Markup on lines of its own is broken as the source is, and other markup as it came. -/
theorem crlf_placeMarkup {node : Node} {position : InsertPosition} {markup : String}
    {insert : Insert} (h : w.placeMarkup node position markup = .ok insert)
    (hinline : w.givesLines node position = true ∨ Text.Crlf (Text.trim markup.toList)) :
    Text.Crlf insert.text.toList := by
  have heol' : Text.Crlf w.eol := by
    rw [heol]
    decide
  have hindent := Text.not_mem_lineIndent w.chars node.start
  have hblock : ∀ indent : List Char, '\n' ∉ indent →
      Text.Crlf (Text.reindent markup.toList indent w.eol) := by
    intro indent hindent
    rw [heol]
    exact Text.crlf_reindent _ hindent
  have hchildren := hblock _ (w.not_mem_childIndent node hindent)
  cases position with
  | before =>
    simp only [placeMarkup] at h
    split at h <;> cases h <;> rw [String.toList_ofList]
    · have hreturn : '\r' ∉ Text.lineIndent w.chars node.start := by
        intro hmem
        have hblank := List.mem_takeWhile_imp hmem
        simp [Text.isSpaceOrTab] at hblank
      exact ((Text.crlf_dropStart (hblock _ hindent) hreturn).append heol').append
        (Text.crlf_of_not_mem hindent)
    · rename_i hlines
      exact hinline.resolve_left hlines
  | after =>
    simp only [placeMarkup] at h
    split at h <;> cases h <;> rw [String.toList_ofList]
    · exact heol'.append (hblock _ hindent)
    · rename_i hlines
      exact hinline.resolve_left hlines
  | startOfChildren =>
    simp only [placeMarkup] at h
    split at h
    · cases h
    · rename_i opening closing htags
      rw [if_pos (by decide)] at h
      split at h <;> cases h <;> rw [String.toList_ofList]
      · exact heol'.append hchildren
      · rename_i hlines
        exact hinline.resolve_left (by simpa [givesLines, htags] using hlines)
  | endOfChildren =>
    simp only [placeMarkup] at h
    split at h
    · cases h
    · rename_i opening closing htags
      rw [if_neg (by decide)] at h
      split at h <;> cases h <;> rw [String.toList_ofList]
      · exact heol'.append hchildren
      · rename_i hlines
        exact hinline.resolve_left (by simpa [givesLines, htags] using hlines)

omit heol in
/-- Markup of a request that does not get lines of its own, as it is put in. -/
def inlineMarkup? (w : Workspace) : Request → Option (List Char)
  | .insert target position markup =>
    ((w.target? target).filter fun node => !w.givesLines node position).map fun _ =>
      Text.trim markup.toList
  | _ => none

/-- **What a request puts in keeps the line endings.** -/
theorem Sketched.crlf_insert {declared : List (Nat × String)} {request : Request} {s : Sketch}
    (h : Sketched w declared request s) (hstate : '\n' ∉ w.options.hooks.state.toList)
    (heffect : '\n' ∉ w.options.hooks.effect.toList)
    (htexts : ∀ text ∈ request.texts, '\n' ∉ text.toList)
    (hinline : ∀ text ∈ w.inlineMarkup? request, Text.Crlf text) {i : Insert} (hi : i ∈ s.inserts) :
    Text.Crlf i.text.toList := by
  cases h with
  | @state state f found block free =>
    rw [List.mem_singleton.1 hi]
    exact crlf_placeState heol hstate htexts f.body
  | @effect effect f found block =>
    rw [List.mem_singleton.1 hi]
    exact crlf_placeEffect heol heffect htexts f.body
  | @wrap target wrapper node found named =>
    obtain ⟨hopening, hclosing⟩ := not_mem_tags htexts
    rcases List.mem_cons.1 hi with rfl | hi
    · exact Text.crlf_of_not_mem hopening
    · rw [List.mem_singleton.1 hi]
      exact Text.crlf_of_not_mem hclosing
  | @insert target position markup node insert found placed =>
    rw [List.mem_singleton.1 hi]
    refine crlf_placeMarkup heol placed ?_
    by_cases hlines : w.givesLines node position = true
    · exact .inl hlines
    · exact .inr (hinline _ (by simp [inlineMarkup?, found, hlines]))
  | delete => exact absurd hi List.not_mem_nil

end Workspace

/-! ## Imports -/

/-- No text of a requested import has a line break. -/
structure ImportSpec.OneLine (s : ImportSpec) : Prop where
  path : '\n' ∉ s.path.toList
  defaultName : ∀ name ∈ s.defaultName, '\n' ∉ name.toList
  named : ∀ name ∈ s.named, '\n' ∉ name.toList
  namespaceName : ∀ name ∈ s.namespaceName, '\n' ∉ name.toList

namespace ImportSpec

theorem oneLine_of_texts {s : ImportSpec}
    (h : ∀ text ∈ s.texts, '\n' ∉ text.toList) : s.OneLine := by
  simp only [texts, List.forall_mem_cons, List.forall_mem_append, Option.mem_toList] at h
  exact ⟨h.1, h.2.1.1, h.2.1.2, h.2.2⟩

theorem OneLine.bracedNames {names : List String} (h : ∀ name ∈ names, '\n' ∉ name.toList) :
    '\n' ∉ (bracedNames names).toList := by
  have hlist : '\n' ∉ (", ".intercalate names).toList := Text.not_mem_intercalate (by decide) h
  simpa [ImportSpec.bracedNames] using hlist

theorem OneLine.clause {s : ImportSpec} (h : s.OneLine) :
    ∀ part ∈ s.clause, '\n' ∉ part.toList := by
  have hparts : ∀ part ∈ s.defaultName.toList ++
      (if s.named.isEmpty then [] else [ImportSpec.bracedNames s.named]), '\n' ∉ part.toList := by
    refine List.forall_mem_append.2
      ⟨fun part hpart => h.defaultName part (Option.mem_toList.1 hpart), ?_⟩
    split
    · exact fun part hpart => absurd hpart List.not_mem_nil
    · exact List.forall_mem_singleton.2 (OneLine.bracedNames h.named)
  unfold ImportSpec.clause
  generalize s.defaultName.toList ++
    (if s.named.isEmpty then [] else [ImportSpec.bracedNames s.named]) = parts at *
  dsimp only
  split
  · intro part hpart
    obtain ⟨name, hname, rfl⟩ := Option.map_eq_some_iff.1 (Option.mem_toList.1 hpart)
    simpa using h.namespaceName name hname
  · exact hparts

/-- A statement is on one line. -/
theorem OneLine.render {s : ImportSpec} (h : s.OneLine) (style : ImportStyle) :
    '\n' ∉ (s.render style).toList := by
  have hquote : '\n' ≠ style.quote.char := by cases style.quote <;> decide
  have hend : '\n' ∉ (if style.semicolon then ";" else "").toList := by
    cases style.semicolon <;> decide
  have hclause : '\n' ∉ (", ".intercalate s.clause).toList :=
    Text.not_mem_intercalate (by decide) h.clause
  have hpath := h.path
  unfold ImportSpec.render
  dsimp only
  split
  · simp [hquote, hpath, hend]
  · rename_i hparts
    simp only [String.toList_append, List.mem_append, String.toList_singleton, List.mem_singleton,
      hquote, hpath, hend, hclause]
    decide

/-- Requests that are joined bring no line breaks. -/
theorem OneLine.joinSpec {entry spec : ImportSpec} (hentry : entry.OneLine) (hspec : spec.OneLine) :
    (joinSpec entry spec).1.OneLine := by
  have hplace : ∀ {kind : SpecifierKind} {place requested : Option String},
      (∀ name ∈ place, '\n' ∉ name.toList) → (∀ name ∈ requested, '\n' ∉ name.toList) →
      ∀ name ∈ (claimPlace spec.path kind place requested).1, '\n' ∉ name.toList := by
    intro kind place requested hplace hrequested
    unfold claimPlace
    split
    · exact hplace
    · exact hrequested
    · exact hplace
  have hnames : ∀ name ∈ spec.named.foldl addName entry.named, '\n' ∉ name.toList := by
    refine List.foldlRecOn (motive := fun names : List String => ∀ name ∈ names, '\n' ∉ name.toList)
      _ _ hentry.named ?_
    intro names hall name hname
    unfold addName
    split
    · exact hall
    · exact List.forall_mem_append.2 ⟨hall, List.forall_mem_singleton.2 (hspec.named name hname)⟩
  exact ⟨hentry.path, hplace hentry.defaultName hspec.defaultName, hnames,
    hplace hentry.namespaceName hspec.namespaceName⟩

end ImportSpec

theorem oneLine_addSpec {spec : ImportSpec} (hspec : spec.OneLine) {grouped : List ImportSpec}
    (h : ∀ entry ∈ grouped, entry.OneLine) : ∀ entry ∈ (addSpec spec grouped).1, entry.OneLine := by
  induction grouped with
  | nil =>
    -- A request alone is joined with an empty one for its module.
    have hempty : ({ path := spec.path } : ImportSpec).OneLine :=
      ⟨hspec.path, fun _ h => (by cases h), fun _ h => (by cases h), fun _ h => (by cases h)⟩
    refine List.forall_mem_singleton.2 { hspec with named := (hempty.joinSpec hspec).named }
  | cons entry rest ih =>
    obtain ⟨hentry, hrest⟩ := List.forall_mem_cons.1 h
    rw [addSpec]
    split
    · exact List.forall_mem_cons.2 ⟨hentry.joinSpec hspec, hrest⟩
    · exact List.forall_mem_cons.2 ⟨hentry, ih hrest⟩

theorem oneLine_groupByModule {specs : List ImportSpec} (h : ∀ spec ∈ specs, spec.OneLine) :
    ∀ spec ∈ (groupByModule specs).1, spec.OneLine := by
  refine List.foldlRecOn (motive := fun state : List ImportSpec × List ImportConflict =>
    ∀ spec ∈ state.1, spec.OneLine) _ _ (fun _ hmem => absurd hmem List.not_mem_nil) ?_
  intro state hstate spec hspec
  exact oneLine_addSpec (h spec hspec) hstate

theorem ExistingImport.not_mem_text_defaultEdit? {i : ExistingImport} {name : String}
    (hname : '\n' ∉ name.toList) {e : Edit}
    (h : i.defaultEdit? name = some e) : '\n' ∉ e.text.toList := by
  rw [defaultEdit?, Option.ite_none_right_eq_some, Option.map_eq_some_iff] at h
  obtain ⟨-, offset, -, rfl⟩ := h
  simpa [Edit.insertion] using hname

theorem ExistingImport.not_mem_text_namesEdit? {i : ExistingImport} {names : List String}
    (hnames : ∀ name ∈ names, '\n' ∉ name.toList) {e : Edit} (h : i.namesEdit? names = some e) :
    '\n' ∉ e.text.toList := by
  have hlist : '\n' ∉ (", ".intercalate names).toList := Text.not_mem_intercalate (by decide) hnames
  unfold namesEdit? at h
  split at h
  · rename_i start stop hbraces
    rw [← Option.some_inj.1 h]
    unfold insertIntoBraces
    split
    · simpa [Edit.insertion] using hlist
    · split <;> simpa [Edit.insertion] using hlist
  · rw [Option.ite_none_right_eq_some, Option.map_eq_some_iff] at h
    obtain ⟨-, offset, -, rfl⟩ := h
    simpa [Edit.insertion] using ImportSpec.OneLine.bracedNames hnames

/-- What is merged into a statement is on one line. -/
theorem not_mem_text_resolveModule {spec : ImportSpec} (h : spec.OneLine)
    {existing : List ExistingImport} {e : Edit}
    (he : e ∈ (resolveModule spec existing).edits) : '\n' ∉ e.text.toList := by
  rw [resolveModule_edits, List.mem_append] at he
  rcases he with he | he
  · rcases resolveDefault_adds spec (spec.targets existing) with ⟨-, hnone, -⟩ |
      ⟨name, hname, -, ⟨e', hedits, -, i, -, hedit⟩ | ⟨hnone, -⟩⟩
    · simp [hnone] at he
    · rw [hedits, List.mem_singleton] at he
      exact he ▸ ExistingImport.not_mem_text_defaultEdit? (h.defaultName name hname) hedit
    · simp [hnone] at he
  · rcases resolveNamed_adds spec (spec.targets existing) with ⟨e', hedits, -, i, -, hedit⟩ |
      ⟨hnone, -⟩
    · rw [hedits, List.mem_singleton] at he
      rw [he]
      exact ExistingImport.not_mem_text_namesEdit?
        (fun name hname => h.named name (ImportSpec.mem_newNames.1 hname).1) hedit
    · simp [hnone] at he

theorem oneLine_fresh {spec : ImportSpec} (h : spec.OneLine) (existing : List ExistingImport) :
    (spec.fresh existing).OneLine where
  path := h.path
  defaultName name hname := by
    rcases resolveDefault_adds spec (spec.targets existing) with ⟨-, -, hlater⟩ |
      ⟨name', hname', -, ⟨-, -, hlater, -⟩ | ⟨-, hlater⟩⟩
    · simp [ImportSpec.fresh, hlater] at hname
    · simp [ImportSpec.fresh, hlater] at hname
    · refine h.defaultName name ?_
      rwa [hname', ← hlater]
  named name hname := by
    rcases resolveNamed_adds spec (spec.targets existing) with ⟨-, -, hlater, -⟩ | ⟨-, hlater⟩
    · simp [ImportSpec.fresh, hlater] at hname
    · have hnew : name ∈ spec.newNames (.of (spec.targets existing)) := hlater ▸ hname
      exact h.named name (ImportSpec.mem_newNames.1 hnew).1
  namespaceName name hname := by cases hname

/-- New statements bring no line breaks. -/
theorem oneLine_newStatements {spec : ImportSpec} (h : spec.OneLine)
    {existing : List ExistingImport} {statement : ImportSpec}
    (hmem : statement ∈ (resolveModule spec existing).newStatements) : statement.OneLine := by
  rw [resolveModule_newStatements, List.mem_append] at hmem
  rcases hmem with hmem | hmem
  · split at hmem
    · rw [List.mem_singleton.1 hmem]
      exact oneLine_fresh h existing
    · cases hmem
  · obtain ⟨name, hname, rfl⟩ := List.mem_map.1 hmem
    have hname :=
      h.namespaceName name (ImportSpec.newNamespace_eq_some_iff.1 (Option.mem_toList.1 hname)).1
    exact ⟨h.path, fun _ hnone => (by cases hnone), fun _ hnone => (by cases hnone),
      fun _ hsome => (by cases hsome; exact hname)⟩

namespace Workspace

variable {w : Workspace} {specs : List ImportSpec} (h : ∀ spec ∈ specs, spec.OneLine)

include h

theorem not_mem_text_mergeEdits {e : Edit}
    (he : e ∈ w.mergeEdits specs) : '\n' ∉ e.text.toList := by
  obtain ⟨spec, hspec, he⟩ := List.mem_flatMap.1 he
  exact not_mem_text_resolveModule (oneLine_groupByModule h spec hspec) he

theorem crlf_importBlock (heol : w.eol = ['\r', '\n']) {e : Edit}
    (he : w.importBlock? specs = some e) : Text.Crlf e.text.toList := by
  have hstatements : ∀ statement ∈ w.newStatements specs, statement.OneLine := by
    intro statement hmem
    obtain ⟨spec, hspec, hmem⟩ := List.mem_flatMap.1 hmem
    exact oneLine_newStatements (oneLine_groupByModule h spec hspec) hmem
  have heol' : Text.Crlf (String.ofList w.eol).toList := by
    rw [heol]
    decide
  have hblock : ∀ style, Text.Crlf
      ((String.ofList w.eol).intercalate
        ((w.newStatements specs).map (·.render style))).toList := by
    intro style
    rw [String.toList_intercalate, List.map_map]
    refine Text.crlf_intercalate heol' (List.forall_mem_map.2 fun statement hmem => ?_)
    exact Text.crlf_of_not_mem ((hstatements statement hmem).render style)
  unfold importBlock? at he
  split at he
  · cases he
  · rw [← Option.some_inj.1 he]
    show Text.Crlf (renderStatements _ _ _ _).toList
    unfold renderStatements
    dsimp only
    split
    · rw [String.toList_append]
      exact heol'.append (hblock _)
    · rw [String.toList_append]
      exact heol'.append (hblock _)
    · rw [String.toList_append, String.toList_append]
      exact ((hblock _).append heol').append heol'

end Workspace

/-! ## All together -/

/-- A session on a text with carriage returns, whose requests have line breaks only in markup and in
the bodies of effects, and do not replace text. -/
structure Session.OnCrlf (s : Session) : Prop where
  wellFormed : s.workspace.document.WellFormed
  breaks : '\n' ∈ s.workspace.chars
  crlf : Text.Crlf s.workspace.chars
  hooks_oneLine : ∀ hook ∈ [s.workspace.options.hooks.state, s.workspace.options.hooks.effect],
    '\n' ∉ hook.toList
  texts_oneLine : ∀ request ∈ s.queue, ∀ text ∈ request.texts, '\n' ∉ text.toList
  replaces_nothing : ∀ request ∈ s.queue, request.substitution? = none

instance (s : Session) : Decidable s.OnCrlf :=
  decidable_of_iff
    ((s.workspace.document.WellFormed ∧ '\n' ∈ s.workspace.chars ∧ Text.Crlf s.workspace.chars) ∧
      (∀ hook ∈ [s.workspace.options.hooks.state, s.workspace.options.hooks.effect],
        '\n' ∉ hook.toList) ∧ (∀ request ∈ s.queue, ∀ text ∈ request.texts, '\n' ∉ text.toList) ∧
      ∀ request ∈ s.queue, request.substitution? = none)
    ⟨fun ⟨⟨hdoc, hbreaks, hcrlf⟩, hhooks, htexts, hnone⟩ =>
      ⟨hdoc, hbreaks, hcrlf, hhooks, htexts, hnone⟩,
      fun h => ⟨⟨h.wellFormed, h.breaks, h.crlf⟩, h.hooks_oneLine,
        h.texts_oneLine, h.replaces_nothing⟩⟩

namespace Session

variable {s : Session} (h : s.OnCrlf)

namespace OnCrlf

include h

theorem eol_eq : s.workspace.eol = ['\r', '\n'] := Text.lineEnding_of_crlf h.crlf h.breaks

theorem oneLine_importSpecs : ∀ spec ∈ s.queue.filterMap (·.importSpec?), spec.OneLine := by
  intro spec hspec
  obtain ⟨request, hrequest, hspec⟩ := List.mem_filterMap.1 hspec
  cases request <;> cases hspec
  exact ImportSpec.oneLine_of_texts (h.texts_oneLine _ hrequest)

/-- The edits of imports, if one is requested. -/
theorem import_edit (hedges : ∀ request ∈ s.queue, ∀ offset ∈ s.workspace.edges request,
      Text.insideBreak s.workspace.chars offset = false) {accepted : List Sketch} {e : Edit}
    (he : e ∈ s.workspace.spareMerges s.queue accepted ++
      (s.workspace.spareBlock? s.queue accepted).toList) :
    Text.Crlf e.text.toList ∧ Text.insideBreak s.workspace.chars e.stop = false := by
  have hspecs := h.oneLine_importSpecs
  -- Some request asks for an import, since something is put in for one.
  have hrequest : ∃ spec, .addImport spec ∈ s.queue := by
    by_contra hnone
    have hempty : s.queue.filterMap (·.importSpec?) = [] := by
      refine List.filterMap_eq_nil_iff.2 fun request hrequest => ?_
      cases request with
      | addImport spec => exact absurd ⟨spec, hrequest⟩ hnone
      | _ => rfl
    have hmerges : s.workspace.mergeEdits [] = [] := rfl
    have hblock : s.workspace.importBlock? [] = none := rfl
    rw [Workspace.spareMerges, Workspace.spareBlock?, hempty, hmerges, hblock] at he
    simp at he
  obtain ⟨spec, hrequest⟩ := hrequest
  have houtside := hedges _ hrequest
  rcases List.mem_append.1 he with he | he
  · have hmem := List.mem_of_mem_filter he
    obtain ⟨i, hi, offset, hoffset, text, rfl⟩ := Workspace.mergesInto_of_mem_mergeEdits hmem
    refine ⟨Text.crlf_of_not_mem (Workspace.not_mem_text_mergeEdits hspecs hmem), ?_⟩
    exact h.wellFormed.insideBreak_place
      (fun offset hmem => houtside offset (List.mem_append_left _ hmem))
      (Document.mergeOffset_place hi hoffset)
  · have hblock := Option.eq_some_of_filter_eq_some (Option.mem_toList.1 he)
    refine ⟨Workspace.crlf_importBlock hspecs h.eol_eq hblock, ?_⟩
    obtain ⟨text, rfl⟩ := Workspace.importBlock?_eq_some hblock
    exact houtside _ (List.mem_append_right _ (List.mem_singleton_self _))

/-- The edits of a request about structure. -/
theorem sketch_edit
    (hinline : ∀ request ∈ s.queue, ∀ text ∈ s.workspace.inlineMarkup? request, Text.Crlf text)
    (hedges : ∀ request ∈ s.queue, ∀ offset ∈ s.workspace.edges request,
      Text.insideBreak s.workspace.chars offset = false)
    {declared : List (Nat × String)} {request : Request} (hrequest : request ∈ s.queue)
    {sketch : Sketch} (hsketch : Workspace.Sketched s.workspace declared request sketch)
    {seq : Nat} {label : String} {e : Edit}
    (he : e ∈ (sketch.draft s.workspace.document.source seq label).edits) :
    Text.Crlf e.text.toList ∧ Text.insideBreak s.workspace.chars e.stop = false := by
  have houtside := hedges request hrequest
  rcases List.mem_append.1 he with he | he
  · obtain ⟨i, hi, rfl⟩ := List.mem_map.1 he
    refine ⟨?_, h.wellFormed.insideBreak_place houtside (hsketch.insert_place hi)⟩
    have hstate := h.hooks_oneLine _ List.mem_cons_self
    have heffect := h.hooks_oneLine _ (List.mem_cons_of_mem _ (List.mem_singleton_self _))
    exact hsketch.crlf_insert h.eol_eq hstate heffect (h.texts_oneLine request hrequest)
      (hinline request hrequest) hi
  · obtain ⟨r, hr, rfl⟩ := List.mem_map.1 he
    obtain ⟨node, hnode, hmem, rfl⟩ := hsketch.removed_eq (Option.mem_toList.1 hr)
    refine ⟨Text.crlf_of_not_mem List.not_mem_nil, ?_⟩
    exact Workspace.insideBreak_deletionRange (h.wellFormed.stop_good hnode)
      (houtside _ (hmem _ node.stop_mem_edges))

/-- Code that is given out is the text with all edits, since nothing is replaced in it. -/
theorem spliced_of_generate {code : String} (hcode : s.generate.code = some code) :
    s.workspace.spliced s.queue = .ok code := by
  have hnone : s.queue.filterMap (·.substitution?) = [] :=
    List.filterMap_eq_nil_iff.2 h.replaces_nothing
  rw [generate] at hcode
  split at hcode
  · cases hcode
  · rw [Workspace.generate_eq] at hcode
    cases hspliced : s.workspace.spliced s.queue with
    | error e =>
      rw [hspliced] at hcode
      cases hcode
    | ok text =>
      rw [hspliced] at hcode
      simp only [Workspace.completed, hnone] at hcode
      unfold Workspace.finish at hcode
      split at hcode
      · split at hcode <;> cases hcode
        rfl
      · cases hcode
        rfl

end OnCrlf

/-- **Line endings stay as they are**, as long as markup without lines of its own brings no bare
line feeds, and no edge that a request goes by is inside a line break. -/
theorem generate_crlf (s : Session) (h : s.OnCrlf)
    (hinline : ∀ request ∈ s.queue, ∀ text ∈ s.workspace.inlineMarkup? request, Text.Crlf text)
    (hedges : ∀ request ∈ s.queue, ∀ offset ∈ s.workspace.edges request,
      Text.insideBreak s.workspace.chars offset = false)
    (code : String) (hcode : s.generate.code = some code) : Text.Crlf code.toList := by
  obtain ⟨verdicts, hjudged, hdrafted, -, -⟩ := s.workspace.draftAll_verdicts
    (s.workspace.parse s.workspace.document.source) s.queue
  have hspliced := h.spliced_of_generate hcode
  rw [Workspace.spliced_eq (congrArg Progress.accepted hdrafted)] at hspliced
  have hedit : ∀ e ∈ s.workspace.batch s.queue (acceptedOf verdicts),
      Text.Crlf e.text.toList ∧ Text.insideBreak s.workspace.chars e.stop = false := by
    intro e he
    rcases List.mem_append.1 he with he | he
    · exact h.import_edit hedges he
    · obtain ⟨n, hn, he⟩ := List.mem_flatMap.1 he
      obtain ⟨item, hitem, -, -, declared, -, hsketch⟩ :=
        Workspace.judged_of_mem_acceptedOf hjudged hn
      have hrequest : item.1 ∈ s.queue := List.fst_mem_of_mem_zipIdx (List.mem_of_mem_filter hitem)
      exact h.sketch_edit hinline hedges hrequest hsketch he
  exact Edit.crlf_applyBatch hspliced h.crlf (fun e he => (hedit e he).1)
    (fun e he => (hedit e he).2)

/-- A session on a file with an element in which two others have lines of their own; the requests
bring bare line feeds. -/
def brokenLines : Session where
  workspace :=
    { Workspace.oneElement with
      document :=
        { source := "import \x7ba\x7d from 'm';\r\n" ++
            "function F() \x7b\r\n  return <p>\r\n    <a/>\r\n    <i/>\r\n  </p>;\r\n\x7d\r\n"
          root := .mk { kind := "program", start := 0, stop := 84 }
            [.mk { kind := "import_statement", start := 0, stop := 20 }
              [.mk { kind := "import_clause", start := 7, stop := 10 }
                [.mk { kind := "named_imports", start := 7, stop := 10 }
                  [.mk { kind := "import_specifier", start := 8, stop := 9 }
                    [.mk { kind := "identifier", field := some "name",
                           start := 8, stop := 9 } []]]],
                .mk { kind := "string", field := some "source", start := 16, stop := 19 } []],
              .mk { kind := "function_declaration", start := 22, stop := 82 }
                [.mk { kind := "identifier", field := some "name", start := 31, stop := 32 } [],
                  .mk { kind := "statement_block", field := some "body", start := 35, stop := 82 }
                    [.mk { kind := "return_statement", start := 40, stop := 79 }
                      [.mk { kind := "jsx_element", start := 47, stop := 78 }
                        [.mk { kind := "jsx_opening_element", field := some "open_tag",
                               start := 47, stop := 50 }
                          [.mk { kind := "identifier", field := some "name",
                                 start := 48, stop := 49 } []],
                          .mk { kind := "jsx_self_closing_element", start := 56, stop := 60 }
                            [.mk { kind := "identifier", field := some "name",
                                   start := 57, stop := 58 } []],
                          .mk { kind := "jsx_self_closing_element", start := 66, stop := 70 }
                            [.mk { kind := "identifier", field := some "name",
                                   start := 67, stop := 68 } []],
                          .mk { kind := "jsx_closing_element", field := some "close_tag",
                                start := 74, stop := 78 }
                            [.mk { kind := "identifier", field := some "name", start := 76,
                                   stop := 77 } []]]]]]] } }
  queue :=
    [.addState { name := "x", setter := "setX", initialValue := "0", component := some "F" },
      .addEffect { body := "f();\ng();", dependencies := some ["x"], component := some "F" },
      .wrap (.locate { tag := "a" }) { component := "B" },
      .insert (.locate { tag := "a" }) .after "<b>\n</b>",
      .insert (.locate { tag := "p" }) .startOfChildren "<u/>\n<v/>",
      .delete (.locate { tag := "i" }),
      .addImport { path := "m", named := ["b"] },
      .addImport { path := "n", defaultName := some "d" }]

/-- All requests are accepted, and the code is one text with carriage returns. -/
theorem generate_crlf_brokenLines :
    brokenLines.OnCrlf ∧
    (∀ request ∈ brokenLines.queue,
      (∀ text ∈ brokenLines.workspace.inlineMarkup? request, Text.Crlf text) ∧
        ∀ offset ∈ brokenLines.workspace.edges request,
          Text.insideBreak brokenLines.workspace.chars offset = false) ∧
    brokenLines.generate.errors = [] ∧
    ∃ code, brokenLines.generate.code = some code ∧ Text.Crlf code.toList := by
  have hcrlf : brokenLines.OnCrlf := by decide +kernel
  have hkeeps : ∀ request ∈ brokenLines.queue,
      (∀ text ∈ brokenLines.workspace.inlineMarkup? request, Text.Crlf text) ∧
        ∀ offset ∈ brokenLines.workspace.edges request,
          Text.insideBreak brokenLines.workspace.chars offset = false := by
    decide +kernel
  have herrors : (brokenLines.workspace.drafted brokenLines.queue).errors ++
      (brokenLines.workspace.imported brokenLines.queue).errors = [] := by
    decide +kernel
  obtain ⟨code, hspliced⟩ := Workspace.exists_spliced hcrlf.wellFormed brokenLines.queue
  have hgenerate : brokenLines.generate = .emitted code [] := by
    show brokenLines.workspace.generate brokenLines.queue = _
    rw [Workspace.generate_eq, hspliced]
    show brokenLines.workspace.completed brokenLines.queue (_ ++ _) code = _
    rw [herrors]
    rfl
  have hcode : brokenLines.generate.code = some code := by rw [hgenerate]; rfl
  refine ⟨hcrlf, hkeeps, by rw [hgenerate]; rfl, code, hcode, ?_⟩
  exact generate_crlf brokenLines hcrlf (fun r hr => (hkeeps r hr).1)
    (fun r hr => (hkeeps r hr).2) code hcode

/-- Code that is not checked and in which nothing is replaced, if the order of the edits is
known. -/
theorem generate_code_eq {s : Session} (hparse : s.parseFailure = none)
    (hunchecked : s.workspace.options.validateOutput = false)
    (hnone : s.queue.filterMap (·.substitution?) = []) {edits : List Edit}
    (hedits : s.workspace.edits s.queue = edits)
    (hvalid : ∀ e ∈ edits, e.check s.workspace.chars = .ok ())
    (hsorted : edits.Pairwise fun e f => (Edit.spliceOrder e f).isLE = true ∧
      (Edit.spliceOrder f e).isLE = false)
    (hclear : edits.Pairwise fun e f => e.overlaps f = false) :
    s.generate.code = some (String.ofList (edits.foldl Edit.splice s.workspace.chars)) := by
  have hspliced : s.workspace.spliced s.queue =
      .ok (String.ofList (edits.foldl Edit.splice s.workspace.chars)) := by
    show Edit.applyBatch _ (s.workspace.edits s.queue) = _
    rw [hedits]
    exact Edit.applyBatch_eq_foldl hvalid hclear (.refl _) hsorted
  rw [generate, hparse]
  show (s.workspace.generate s.queue).code = _
  rw [Workspace.generate_eq, hspliced]
  simp only [Workspace.completed, hnone, Workspace.finish, hunchecked]
  rfl

/-- Markup with a bare line feed goes next to an element inside a line. -/
def insideLine : Session where
  workspace :=
    { Workspace.oneElement with
      document :=
        { source := "<p><a/></p>\r\n"
          root := .mk { kind := "program", start := 0, stop := 13 }
            [.mk { kind := "expression_statement", start := 0, stop := 11 }
              [.mk { kind := "jsx_element", start := 0, stop := 11 }
                [.mk { kind := "jsx_opening_element", field := some "open_tag",
                       start := 0, stop := 3 }
                  [.mk { kind := "identifier", field := some "name", start := 1, stop := 2 } []],
                  .mk { kind := "jsx_self_closing_element", start := 3, stop := 7 }
                    [.mk { kind := "identifier", field := some "name", start := 4, stop := 5 } []],
                  .mk { kind := "jsx_closing_element", field := some "close_tag",
                        start := 7, stop := 11 }
                    [.mk { kind := "identifier", field := some "name", start := 9,
                           stop := 10 } []]]]] } }
  queue := [.insert (.locate { tag := "a" }) .before "<b>\n</b>"]

/-- An import goes behind a line for the shell, which ends between the carriage return and the line
feed. -/
def behindShellLine : Session where
  workspace :=
    { Workspace.oneElement with
      document :=
        { source := "#!n\r\nx;\r\n"
          root := .mk { kind := "program", start := 0, stop := 9 }
            [.mk { kind := "hash_bang_line", start := 0, stop := 4 } [],
              .mk { kind := "expression_statement", start := 5, stop := 7 }
                [.mk { kind := "identifier", start := 5, stop := 6 } []]] } }
  queue := [.addImport { path := "m", defaultName := some "d" }]

/-- **Line endings do not always stay as they are**: neither proviso can be left out. -/
theorem not_crlf_of_bare_of_inside :
    (insideLine.OnCrlf ∧
      (∀ request ∈ insideLine.queue, ∀ offset ∈ insideLine.workspace.edges request,
        Text.insideBreak insideLine.workspace.chars offset = false) ∧
      ∃ code, insideLine.generate.code = some code ∧ ¬Text.Crlf code.toList) ∧
    behindShellLine.OnCrlf ∧ (∀ request ∈ behindShellLine.queue,
        ∀ text ∈ behindShellLine.workspace.inlineMarkup? request, Text.Crlf text) ∧
      ∃ code, behindShellLine.generate.code = some code ∧ ¬Text.Crlf code.toList := by
  have hinside : insideLine.generate.code = some "<p><b>\n</b><a/></p>\r\n" := by
    have hedits : insideLine.workspace.edits insideLine.queue =
        [Insert.edit 1 ⟨3, "<b>\n</b>", .leading⟩] := by
      decide +kernel
    rw [generate_code_eq rfl rfl rfl hedits (by decide +kernel) (List.pairwise_singleton _ _)
      (List.pairwise_singleton _ _)]
    decide +kernel
  have hbehind : behindShellLine.generate.code = some "#!n\r\r\nimport d from 'm';\nx;\r\n" := by
    have hedits : behindShellLine.workspace.edits behindShellLine.queue =
        [{ Edit.insertion 4 "\r\nimport d from 'm';" with
             order := Workspace.importBlockOrder }] := by
      decide +kernel
    rw [generate_code_eq rfl rfl rfl hedits (by decide +kernel) (List.pairwise_singleton _ _)
      (List.pairwise_singleton _ _)]
    decide +kernel
  exact ⟨⟨by decide +kernel, by decide +kernel, _, hinside, by decide +kernel⟩, by decide +kernel,
    by decide +kernel, _, hbehind, by decide +kernel⟩

end Session

end Graft
