import Graft.Grammar.Tsx.Tokens

set_option autoImplicit false

/-!
# TSX: expressions, objects and patterns
-/

namespace Graft.Grammar.Tsx

/-- A name, or a word that is a keyword elsewhere, under one node name. -/
def nameOrReserved (name : String) : NamedRule :=
  renamed (choice [ref "identifier", ref "_reserved_identifier"]) name

def expressionRules (d : Dialect) : List (String × NamedRule) := [
  ("parenthesized_expression", seq [
    "(",
    choice [
      seq [ref "expression", field "type" (optional (ref "type_annotation"))],
      ref "sequence_expression"],
    ")"]),
  ("_expressions", choice [ref "expression", ref "sequence_expression"]),
  ("expression", choice ([
    ref "as_expression",
    ref "satisfies_expression",
    ref "instantiation_expression",
    ref "internal_module"] ++
    d.only .assertions [ref "type_assertion"] ++ [
    ref "primary_expression"] ++
    d.only .markup [ref "_jsx_element"] ++ [
    ref "assignment_expression",
    ref "augmented_assignment_expression",
    ref "await_expression",
    ref "unary_expression",
    ref "binary_expression",
    ref "ternary_expression",
    ref "update_expression",
    ref "new_expression",
    ref "yield_expression"])),
  ("primary_expression", choice [
    ref "subscript_expression",
    ref "member_expression",
    ref "parenthesized_expression",
    ref "_identifier",
    renamed (ref "_reserved_identifier") "identifier",
    ref "this",
    ref "super",
    ref "number",
    ref "string",
    ref "template_string",
    ref "regex",
    ref "true",
    ref "false",
    ref "null",
    ref "object",
    ref "array",
    ref "function_expression",
    ref "arrow_function",
    ref "generator_function",
    ref "class",
    ref "meta_property",
    ref "call_expression",
    ref "non_null_expression"]),
  ("yield_expression", precRight (.level 0) (seq [
    "yield",
    choice [seq ["*", ref "expression"], optional (ref "expression")]])),
  ("object", prec "object" (seq [
    openBrace,
    commaSep (optional (choice [
      ref "pair",
      ref "spread_element",
      ref "method_definition",
      nameOrReserved "shorthand_property_identifier"])),
    closeBrace])),
  ("object_pattern", prec "object" (seq [
    openBrace,
    commaSep (optional (choice [
      ref "pair_pattern",
      ref "rest_pattern",
      ref "object_assignment_pattern",
      nameOrReserved "shorthand_property_identifier_pattern"])),
    closeBrace])),
  ("assignment_pattern", seq [field "left" (ref "pattern"), "=", field "right" (ref "expression")]),
  ("object_assignment_pattern", seq [
    field "left" (choice [
      renamed (choice [ref "_reserved_identifier", ref "identifier"])
        "shorthand_property_identifier_pattern",
      ref "_destructuring_pattern"]),
    "=",
    field "right" (ref "expression")]),
  ("array", seq [
    "[",
    commaSep (optional (choice [ref "expression", ref "spread_element"])),
    "]"]),
  ("array_pattern", seq [
    "[",
    commaSep (optional (choice [ref "pattern", ref "assignment_pattern"])),
    "]"])]

/-- Elements, their children and their tags. -/
def elementRules : List (String × NamedRule) := [
  ("_jsx_element", choice [ref "jsx_element", ref "jsx_self_closing_element"]),
  ("jsx_element", seq [
    field "open_tag" (ref "jsx_opening_element"),
    many (ref "_jsx_child"),
    field "close_tag" (ref "jsx_closing_element")]),
  ("html_character_reference", .pattern characterReference),
  ("jsx_expression", seq [
    openBrace,
    optional (choice [ref "expression", ref "sequence_expression", ref "spread_element"]),
    closeBrace]),
  ("_jsx_child", choice [
    ref "jsx_text",
    ref "html_character_reference",
    ref "_jsx_element",
    ref "jsx_expression"]),
  ("jsx_opening_element", precDynamic (-1) (seq [ref "_jsx_start_opening_element", ">"])),
  ("jsx_identifier", .pattern dashedName),
  ("_jsx_identifier", choice [renamed (ref "jsx_identifier") "identifier", ref "identifier"])]

/-- Names joined by dots. -/
def dottedNameRule : String × NamedRule :=
  ("nested_identifier", prec "member" (seq [
    field "object" (choice [ref "identifier", renamed (ref "nested_identifier") "member_expression"]),
    ".",
    field "property" (renamed (ref "identifier") "property_identifier")]))

/-- What tags consist of. -/
def tagRules : List (String × NamedRule) := [
  ("jsx_namespace_name", seq [ref "_jsx_identifier", ":", ref "_jsx_identifier"]),
  ("_jsx_element_name", choice [
    ref "_jsx_identifier",
    renamed (ref "nested_identifier") "member_expression",
    ref "jsx_namespace_name"]),
  ("jsx_closing_element", seq ["</", optional (field "name" (ref "_jsx_element_name")), ">"]),
  ("jsx_self_closing_element", precDynamic (-1) (seq [ref "_jsx_start_opening_element", "/>"])),
  ("_jsx_attribute", choice [ref "jsx_attribute", ref "jsx_expression"]),
  ("_jsx_attribute_name", choice [
    renamed (ref "_jsx_identifier") "property_identifier",
    ref "jsx_namespace_name"]),
  ("jsx_attribute", seq [
    ref "_jsx_attribute_name",
    optional (seq ["=", ref "_jsx_attribute_value"])]),
  ("_jsx_string", choice [
    seq [
      "\"",
      many (choice [
        renamed (ref "unescaped_double_jsx_string_fragment") "string_fragment",
        ref "html_character_reference"]),
      "\""],
    seq [
      "'",
      many (choice [
        renamed (ref "unescaped_single_jsx_string_fragment") "string_fragment",
        ref "html_character_reference"]),
      "'"]]),
  ("unescaped_double_jsx_string_fragment", tokenImmediate (precLevel 1 (.pattern (markupFragment '"')))),
  ("unescaped_single_jsx_string_fragment", tokenImmediate (precLevel 1 (.pattern (markupFragment '\'')))),
  ("_jsx_attribute_value", choice [
    renamed (ref "_jsx_string") "string",
    ref "jsx_expression",
    ref "_jsx_element"])]

end Graft.Grammar.Tsx
