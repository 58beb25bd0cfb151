import Graft.Import.Existing
import Graft.Proofs.Boundary
import Graft.Proofs.Lines

set_option autoImplicit false

/-!
# Reading statements as they are written

The statement that a request is written as is a text with a syntax tree (`ImportSpec.document`).
Read from it, the statement binds what was asked for, and the places where more can be added are
those of the text (`ImportSpec.imports_document`).
-/

namespace Graft

namespace ImportSpec

variable (s : ImportSpec) (style : ImportStyle)

/-! ## The parts of a statement -/

/-- What stands before the braces of a clause. -/
def lead : String := (s.defaultName.map (· ++ ", ")).getD ""

/-- A clause up to where more names can be added: the end of the last name, or else of the
default. -/
def opening : String :=
  if s.named.isEmpty then s.defaultName.getD "" else s.lead ++ "\x7b " ++ ", ".intercalate s.named

/-- The path of the module in quotes. -/
def quotedPath : String :=
  String.singleton style.quote.char ++ s.path ++ String.singleton style.quote.char

/-- The end of the statement, from the path on. -/
def source : String := s.quotedPath style ++ if style.semicolon then ";" else ""

/-- What follows the opening of the clause. -/
def closing : String := (if s.named.isEmpty then "" else " \x7d") ++ (" from " ++ s.source style)

/-- The statement as it is found in a file that starts with it: its names, none of them renamed, and
the places in its text where more can be added. -/
def described : ExistingImport :=
  let offset (front : String) : Nat := Text.byteLength front.toList
  { path := s.path
    start := 0
    stop := offset (s.render style)
    defaultName := s.defaultName
    namespaceName := s.namespaceName
    named := s.named.map fun name => ⟨name, none⟩
    style := style
    clauseStart := some (offset "import ")
    defaultEnd := s.defaultName.map fun name => offset ("import " ++ name)
    braces := if s.named.isEmpty then none
      else some (offset ("import " ++ s.lead), offset ("import " ++ s.lead ++ bracedNames s.named))
    lastNamedEnd := if s.named.isEmpty then none
      else some (offset ("import " ++ s.lead ++ "\x7b " ++ ", ".intercalate s.named)) }

section Parts

variable {s} (hne : s.isEmpty = false) (hnone : s.namespaceName = none)

include hne hnone

theorem clause_ne_nil : s.clause ≠ [] := by
  cases hdefault : s.defaultName <;> cases hnamed : s.named <;> simp_all [clause, isEmpty]

theorem render_eq_clause :
    s.render style = "import " ++ ", ".intercalate s.clause ++ " from " ++ s.source style := by
  rw [render]
  cases hparts : s.clause with
  | nil => exact absurd hparts (clause_ne_nil hne hnone)
  | cons part parts => rfl

/-- A statement without a namespace that binds something is its opening and its closing. -/
theorem render_eq : s.render style = "import " ++ (s.opening ++ s.closing style) := by
  rw [render_eq_clause style hne hnone, clause, opening, closing, lead]
  cases hdefault : s.defaultName <;> cases hnamed : s.named
  · simp [isEmpty, hdefault, hnamed, hnone] at hne
  all_goals simp [bracedNames, String.append_assoc, -String.reduceAppend]

end Parts

/-! ## The syntax tree -/

/-- The node of a part of a text that stands behind `front`. -/
def partNode (kind : String) (field : Option String) (front text : String)
    (children : List Node) : Node :=
  .mk { kind, field, start := Text.byteLength front.toList,
        stop := Text.byteLength (front ++ text).toList } children

/-- The node of a fixed spelling. -/
def markNode (front text : String) : Node :=
  .mk { kind := text, named := false, start := Text.byteLength front.toList
        stop := Text.byteLength (front ++ text).toList } []

def specifierNode (front name : String) : Node :=
  partNode "import_specifier" none front name [partNode "identifier" (some "name") front name []]

/-- The nodes of a list of names. -/
def specifierNodes (front : String) : List String → List Node
  | [] => []
  | [name] => [specifierNode front name]
  | name :: next :: names =>
    specifierNode front name :: markNode (front ++ name) "," ::
      specifierNodes (front ++ name ++ ", ") (next :: names)

/-- The node of names in braces. -/
def namesNode (front : String) (names : List String) : Node :=
  partNode "named_imports" none front (bracedNames names)
    (markNode front "\x7b" :: specifierNodes (front ++ "\x7b ") names ++
      [markNode (front ++ "\x7b " ++ ", ".intercalate names ++ " ") "\x7d"])

/-- The node of the clause. -/
def clauseNode : Node :=
  let byDefault := s.defaultName.toList.flatMap fun name =>
    partNode "identifier" none "import " name [] :: if s.named.isEmpty then []
      else [markNode ("import " ++ name) ","]
  let byName := if s.named.isEmpty then [] else [namesNode ("import " ++ s.lead) s.named]
  partNode "import_clause" none "import " (", ".intercalate s.clause) (byDefault ++ byName)

/-- The node of the statement. -/
def statementNode : Node :=
  let front := "import " ++ ", ".intercalate s.clause
  partNode "import_statement" none "" (s.render style)
    ([markNode "" "import", s.clauseNode, markNode (front ++ " ") "from",
      partNode "string" (some "source") (front ++ " from ") (s.quotedPath style) []] ++
      if style.semicolon then [markNode (front ++ " from " ++ s.quotedPath style) ";"] else [])

/-- The file that is the statement alone. -/
def document : Document :=
  { source := s.render style
    root := partNode "program" none "" (s.render style) [s.statementNode style] }

/-! ## Reading -/

section Reading

variable {d : Document} {front back : String}

theorem text_partNode {kind text : String} {field : Option String} {children : List Node}
    (back : String) (h : d.source = front ++ text ++ back) :
    d.text (partNode kind field front text children) = text := by
  have hslice := Text.slice?_append front.toList text.toList back.toList
  rw [Document.text, Text.slice, h]
  show String.ofList
    ((Text.slice? _ (Text.byteLength front.toList) (Text.byteLength (front ++ text).toList)).getD
      []) = _
  rw [String.toList_append, String.toList_append, Text.byteLength_append, List.append_assoc, hslice,
    Option.getD_some, String.ofList_toList]

theorem addSpecifier_specifierNode {name : String} (h : d.source = front ++ name ++ back)
    (i : ExistingImport) :
    ExistingImport.addSpecifier d i (specifierNode front name) =
      { i with
        named := i.named ++ [⟨name, none⟩]
        lastNamedEnd := some (Text.byteLength (front ++ name).toList) } := by
  have htext : d.text (partNode "identifier" (some "name") front name []) = name :=
    text_partNode back h
  have hadd : ExistingImport.addSpecifier d i (specifierNode front name) =
      { i with
        named := i.named ++ [⟨d.text (partNode "identifier" (some "name") front name []), none⟩]
        lastNamedEnd := some (Text.byteLength (front ++ name).toList) } := rfl
  rw [hadd, htext]

/-- Names are read one after the other, and the end of the last one is kept. -/
theorem foldl_addSpecifier {names : List String}
    (h : d.source = front ++ ", ".intercalate names ++ back) (hne : names ≠ [])
    (i : ExistingImport) :
    ((specifierNodes front names).filter (·.named)).foldl (ExistingImport.addSpecifier d) i =
      { i with
        named := i.named ++ names.map fun name => ⟨name, none⟩
        lastNamedEnd := some (Text.byteLength (front ++ ", ".intercalate names).toList) } := by
  fun_induction specifierNodes front names generalizing i with
  | case1 => exact absurd rfl hne
  | case2 front name =>
    rw [String.intercalate_singleton] at h ⊢
    exact addSpecifier_specifierNode h i
  | case3 front name next names ih =>
    rw [String.intercalate_cons_cons] at h ⊢
    have hfront : d.source =
        front ++ name ++ (", " ++ ", ".intercalate (next :: names) ++ back) := by
      rw [h]
      simp only [String.append_assoc]
    have hrest : d.source = front ++ name ++ ", " ++ ", ".intercalate (next :: names) ++ back := by
      rw [h]
      simp only [String.append_assoc]
    have hnodes : (specifierNode front name :: markNode (front ++ name) "," ::
        specifierNodes (front ++ name ++ ", ") (next :: names)).filter (·.named) =
        specifierNode front name ::
          (specifierNodes (front ++ name ++ ", ") (next :: names)).filter (·.named) := rfl
    rw [hnodes, List.foldl_cons, addSpecifier_specifierNode hfront, ih hrest (List.cons_ne_nil _ _)]
    simp [String.append_assoc]

theorem addPart_identifier {name : String} (h : d.source = front ++ name ++ back)
    (i : ExistingImport) :
    ExistingImport.addPart d i (partNode "identifier" none front name []) =
      { i with defaultName := some name,
               defaultEnd := some (Text.byteLength (front ++ name).toList) } := by
  have htext : d.text (partNode "identifier" none front name []) = name := text_partNode back h
  have hadd : ExistingImport.addPart d i (partNode "identifier" none front name []) =
      { i with
        defaultName := some (d.text (partNode "identifier" none front name []))
        defaultEnd := some (Text.byteLength (front ++ name).toList) } := rfl
  rw [hadd, htext]

theorem addPart_namesNode {names : List String} (h : d.source = front ++ bracedNames names ++ back)
    (hne : names ≠ []) (i : ExistingImport) : ExistingImport.addPart d i (namesNode front names) =
      { i with
        named := i.named ++ names.map fun name => ⟨name, none⟩
        braces := some (Text.byteLength front.toList,
          Text.byteLength (front ++ bracedNames names).toList)
        lastNamedEnd :=
          some (Text.byteLength (front ++ "\x7b " ++ ", ".intercalate names).toList) } := by
  have hadd : ExistingImport.addPart d i (namesNode front names) =
      (namesNode front names).namedChildren.foldl (ExistingImport.addSpecifier d)
        { i with braces := some (Text.byteLength front.toList,
                   Text.byteLength (front ++ bracedNames names).toList) } :=
    rfl
  have hchildren : (namesNode front names).namedChildren =
      (specifierNodes (front ++ "\x7b ") names).filter (·.named) := by
    simp [Node.namedChildren, namesNode, partNode, markNode, Node.named, Node.label]
  have hsource : d.source = front ++ "\x7b " ++ ", ".intercalate names ++ (" \x7d" ++ back) := by
    rw [h, bracedNames]
    simp only [String.append_assoc]
  rw [hadd, hchildren, foldl_addSpecifier hsource hne]

end Reading

section Statement

variable {s} {d : Document} (hne : s.isEmpty = false) (hnone : s.namespaceName = none)
  (h : d.source = s.render style)

include hne hnone h

/-- What the clause is read as, by its default and its names. -/
theorem addChild_clauseNode : ExistingImport.addChild d
      { path := s.path, start := 0, stop := Text.byteLength (s.render style).toList,
        style } s.clauseNode =
    s.described style := by
  have hadd (i : ExistingImport) : ExistingImport.addChild d i s.clauseNode =
      s.clauseNode.namedChildren.foldl (ExistingImport.addPart d)
        { i with clauseStart := some (Text.byteLength "import ".toList) } := rfl
  rw [render_eq style hne hnone, opening, closing] at h
  rw [hadd]
  cases hnamed : s.named with
  | nil =>
    cases hdefault : s.defaultName with
    | none => simp [isEmpty, hdefault, hnamed, hnone] at hne
    | some name =>
      have hchildren : s.clauseNode.namedChildren =
          [partNode "identifier" none "import " name []] := by
        simp [Node.namedChildren, clauseNode, partNode, hdefault, hnamed, Node.named, Node.label]
      have hname : d.source = "import " ++ name ++ (" from " ++ s.source style) := by
        rw [h, hnamed, hdefault]
        simp [String.append_assoc, -String.reduceAppend]
      rw [hchildren, List.foldl_cons, List.foldl_nil, addPart_identifier hname]
      simp [described, hdefault, hnamed, hnone]
  | cons first rest =>
    have hnames : d.source = "import " ++ s.lead ++ bracedNames s.named ++
        (" from " ++ s.source style) := by
      rw [h, bracedNames, hnamed]
      simp [String.append_assoc, -String.reduceAppend]
    have hnamesNode := addPart_namesNode hnames (by simp [hnamed])
    cases hdefault : s.defaultName with
    | none =>
      have hchildren : s.clauseNode.namedChildren = [namesNode ("import " ++ s.lead) s.named] := by
        simp [Node.namedChildren, clauseNode, partNode, hdefault, hnamed, namesNode,
          Node.named, Node.label]
      rw [hchildren, List.foldl_cons, List.foldl_nil, hnamesNode]
      simp [described, hdefault, hnamed, hnone]
    | some name =>
      have hchildren : s.clauseNode.namedChildren =
          [partNode "identifier" none "import " name [],
            namesNode ("import " ++ s.lead) s.named] := by
        simp [Node.namedChildren, clauseNode, partNode, markNode, hdefault, hnamed, namesNode,
          Node.named, Node.label]
      have hname : d.source =
          "import " ++ name ++ (", " ++ bracedNames s.named ++ (" from " ++ s.source style)) := by
        rw [hnames, lead, hdefault]
        simp [String.append_assoc, -String.reduceAppend]
      rw [hchildren, List.foldl_cons, List.foldl_cons, List.foldl_nil,
        addPart_identifier hname, hnamesNode]
      simp [described, hdefault, hnamed, hnone]

end Statement

variable {s}

theorem slice_quotedPath :
    Text.slice (s.quotedPath style) 1 (Text.byteLength (s.quotedPath style).toList - 1) =
      s.path := by
  have hquote : Text.byteLength [style.quote.char] = 1 := by cases style.quote <;> rfl
  have hslice := Text.slice?_append [style.quote.char] s.path.toList [style.quote.char]
  have htext : (s.quotedPath style).toList =
      [style.quote.char] ++ (s.path.toList ++ [style.quote.char]) := by
    simp [quotedPath]
  have hstop : Text.byteLength (s.quotedPath style).toList - 1 =
      1 + Text.byteLength s.path.toList := by
    rw [htext, Text.byteLength_append, Text.byteLength_append, hquote]
    omega
  rw [hquote] at hslice
  rw [Text.slice, hstop, htext, hslice, Option.getD_some, String.ofList_toList]

/-- The style shows in the quotes and in the last character. -/
theorem style_of_source (front : String) : ({
      quote := if (s.quotedPath style).toList.head? == some '"' then .double else .single
      semicolon := (Text.trimEnd (front ++ s.source style).toList).getLast? == some ';' } :
        ImportStyle) = style := by
  obtain ⟨quote, semicolon⟩ := style
  have hlast : (front ++ s.source ⟨quote, semicolon⟩).toList.getLast? =
      some (if semicolon then ';' else quote.char) := by
    cases semicolon <;> simp [source, quotedPath, List.getLast?_cons]
  have hblank : Text.isBlank (if semicolon then ';' else quote.char) = false := by
    cases semicolon <;> cases quote <;> decide
  rw [Text.trimEnd_of_getLast? hlast hblank, hlast]
  cases semicolon <;> cases quote <;> simp [quotedPath, Quote.char]

/-- Of the children of the statement only the clause matters. -/
theorem foldl_addChild_statementNode (d : Document) (i : ExistingImport) :
    (s.statementNode style).children.foldl (ExistingImport.addChild d) i =
      ExistingImport.addChild d i s.clauseNode := by
  rw [statementNode, partNode, Node.children_mk, List.foldl_append]
  cases style.semicolon <;> rfl

theorem ofNode?_statementNode {d : Document} (hne : s.isEmpty = false)
    (hnone : s.namespaceName = none) (h : d.source = s.render style) :
    ExistingImport.ofNode? d (s.statementNode style) = some (s.described style) := by
  let front := "import " ++ ", ".intercalate s.clause
  have hrender : s.render style = front ++ " from " ++ s.source style :=
    render_eq_clause style hne hnone
  have hsource : d.source = front ++ " from " ++ s.quotedPath style ++
      (if style.semicolon then ";" else "") := by
    rw [h, hrender, source]
    simp only [String.append_assoc]
  have hraw :
      d.text (partNode "string" (some "source") (front ++ " from ") (s.quotedPath style) []) =
      s.quotedPath style := text_partNode _ hsource
  have htext : d.text (s.statementNode style) = s.render style :=
    text_partNode "" (by simpa using h)
  have hchild : (s.statementNode style).child? "source" =
      some (partNode "string" (some "source") (front ++ " from ") (s.quotedPath style) []) := rfl
  have hread : ExistingImport.ofNode? d (s.statementNode style) = some (ExistingImport.addChild d
      { path := Text.slice (s.quotedPath style) 1 (Text.byteLength (s.quotedPath style).toList - 1)
        start := 0
        stop := Text.byteLength (s.render style).toList
        style :=
          { quote := if (s.quotedPath style).toList.head? == some '"' then .double else .single
            semicolon := (Text.trimEnd (s.render style).toList).getLast? == some ';' } }
              s.clauseNode) := by
    rw [ExistingImport.ofNode?, hchild]
    simp only [Option.bind_eq_bind, Option.bind_some, hraw, htext, foldl_addChild_statementNode]
    simp [statementNode, partNode, Node.start, Node.stop, Node.label]
  rw [hread, slice_quotedPath, hrender, style_of_source, ← hrender,
    addChild_clauseNode style hne hnone h]

/-- **A statement is read as described.** -/
theorem imports_document (hne : s.isEmpty = false) (hnone : s.namespaceName = none) :
    (s.document style).imports = [s.described style] := by
  have hstatements : (s.document style).importStatements = [s.statementNode style] := rfl
  rw [Document.imports, hstatements, List.filterMap_cons, ofNode?_statementNode style hne hnone rfl]
  rfl

end ImportSpec

end Graft
