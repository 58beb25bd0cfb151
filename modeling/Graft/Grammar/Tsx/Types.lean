import Graft.Grammar.Tsx.Functions

set_option autoImplicit false

/-!
# TSX: type-level declarations, signatures and types
-/

namespace Graft.Grammar.Tsx

def typeParameters : NamedRule := field "type_parameters" (optional (ref "type_parameters"))

def typeAnnotation : NamedRule := field "type" (optional (ref "type_annotation"))

def modifiers : List NamedRule := [
  optional (ref "accessibility_modifier"),
  optional "static",
  optional (ref "override_modifier"),
  optional "readonly"]

/-- What a type query can start from when a member or an index of it follows. -/
def queriedObject : NamedRule :=
  field "object" (choice [
    ref "identifier",
    ref "this",
    renamed (ref "_type_query_subscript_expression") "subscript_expression",
    renamed (ref "_type_query_member_expression") "member_expression",
    renamed (ref "_type_query_call_expression") "call_expression"])

/-- What a type query can apply to arguments. -/
def queriedFunction : NamedRule :=
  field "function" (choice [
    ref "import",
    ref "identifier",
    renamed (ref "_type_query_member_expression") "member_expression",
    renamed (ref "_type_query_subscript_expression") "subscript_expression"])

/-- How a tag of markup begins. -/
def tagStart : String × NamedRule :=
  ("_jsx_start_opening_element", seq [
    "<",
    optional (seq [
      choice [
        field "name" (choice [ref "_jsx_identifier", ref "jsx_namespace_name"]),
        seq [
          field "name" (choice [ref "identifier", renamed (ref "nested_identifier") "member_expression"]),
          field "type_arguments" (optional (ref "type_arguments"))]],
      many (field "attribute" (ref "_jsx_attribute"))])])

def typeAssertion : String × NamedRule :=
  ("type_assertion", precLeft (.named "unary") (seq [ref "type_arguments", ref "expression"]))

def declarationRules (d : Dialect) : List (String × NamedRule) := [
  ("public_field_definition", seq [
    decorators,
    optional (choice [
      seq ["declare", optional (ref "accessibility_modifier")],
      seq [ref "accessibility_modifier", optional "declare"]]),
    choice [
      seq [optional "static", optional (ref "override_modifier"), optional "readonly"],
      seq [optional "abstract", optional "readonly"],
      seq [optional "readonly", optional "abstract"],
      optional "accessor"],
    field "name" (ref "_property_name"),
    optional (choice ["?", "!"]),
    typeAnnotation,
    optional (ref "_initializer")])] ++
  d.only .markup [tagStart] ++ [
  ("_import_identifier", choice [ref "identifier", renamed "type" "identifier"]),
  ("non_null_expression", precLeft (.named "unary") (seq [ref "expression", "!"])),
  ("method_signature", seq (modifiers ++ [
    optional "async",
    optional (choice ["get", "set", "*"]),
    field "name" (ref "_property_name"),
    optional "?",
    ref "_call_signature"])),
  ("abstract_method_signature", seq [
    optional (ref "accessibility_modifier"),
    "abstract",
    optional (ref "override_modifier"),
    optional (choice ["get", "set", "*"]),
    field "name" (ref "_property_name"),
    optional "?",
    ref "_call_signature"]),
  ("function_signature", seq [
    optional "async",
    "function",
    field "name" (ref "identifier"),
    ref "_call_signature",
    choice [ref "_semicolon", ref "_function_signature_automatic_semicolon"]]),
  ("decorator_parenthesized_expression", seq [
    "(",
    choice [
      ref "identifier",
      renamed (ref "decorator_member_expression") "member_expression",
      renamed (ref "decorator_call_expression") "call_expression"],
    ")"])] ++
  d.only .assertions [typeAssertion] ++ [
  ("as_expression", precLeft (.named "binary") (seq [
    ref "expression", "as", choice ["const", ref "type"]])),
  ("satisfies_expression", precLeft (.named "binary") (seq [
    ref "expression", "satisfies", ref "type"])),
  ("instantiation_expression", prec "instantiation" (seq [
    ref "expression", field "type_arguments" (ref "type_arguments")])),
  ("import_require_clause", seq [
    ref "identifier", "=", "require", "(", field "source" (ref "string"), ")"]),
  ("extends_clause", seq ["extends", commaSep1 (ref "_extends_clause_single")]),
  ("_extends_clause_single", prec "extends" (seq [
    field "value" (ref "expression"),
    field "type_arguments" (optional (ref "type_arguments"))])),
  ("implements_clause", seq ["implements", commaSep1 (ref "type")]),
  ("ambient_declaration", seq [
    "declare",
    choice [
      ref "declaration",
      seq ["global", ref "statement_block"],
      seq ["module", ".", renamed (ref "identifier") "property_identifier", ":", ref "type",
        ref "_semicolon"]]]),
  ("abstract_class_declaration", prec "declare" (seq [
    decorators,
    "abstract",
    "class",
    field "name" (ref "_type_identifier"),
    typeParameters,
    optional (ref "class_heritage"),
    field "body" (ref "class_body")])),
  ("module", seq ["module", ref "_module"]),
  ("internal_module", seq ["namespace", ref "_module"]),
  ("_module", precRight (.level 0) (seq [
    field "name" (choice [ref "string", ref "identifier", ref "nested_identifier"]),
    field "body" (optional (ref "statement_block"))])),
  ("import_alias", seq [
    "import", ref "identifier", "=", choice [ref "identifier", ref "nested_identifier"],
    ref "_semicolon"]),
  ("nested_type_identifier", prec "member" (seq [
    field "module" (choice [ref "identifier", ref "nested_identifier"]),
    ".",
    field "name" (ref "_type_identifier")])),
  ("interface_declaration", seq [
    "interface",
    field "name" (ref "_type_identifier"),
    typeParameters,
    optional (ref "extends_type_clause"),
    field "body" (renamed (ref "object_type") "interface_body")]),
  ("extends_type_clause", seq [
    "extends",
    commaSep1 (field "type" (choice [
      ref "_type_identifier",
      ref "nested_type_identifier",
      ref "generic_type"]))]),
  ("enum_declaration", seq [
    optional "const", "enum", field "name" (ref "identifier"), field "body" (ref "enum_body")]),
  ("enum_body", seq [
    openBrace,
    optional (seq [
      sepBy1 "," (choice [field "name" (ref "_property_name"), ref "enum_assignment"]),
      optional ","]),
    closeBrace]),
  ("enum_assignment", seq [field "name" (ref "_property_name"), ref "_initializer"]),
  ("type_alias_declaration", seq [
    "type",
    field "name" (ref "_type_identifier"),
    typeParameters,
    "=",
    field "value" (ref "type"),
    ref "_semicolon"]),
  ("accessibility_modifier", choice ["public", "private", "protected"]),
  ("override_modifier", "override"),
  ("required_parameter", seq [ref "_parameter_name", typeAnnotation, optional (ref "_initializer")]),
  ("optional_parameter", seq [ref "_parameter_name", "?", typeAnnotation, optional (ref "_initializer")]),
  ("_parameter_name", seq [
    decorators,
    optional (ref "accessibility_modifier"),
    optional (ref "override_modifier"),
    optional "readonly",
    field "pattern" (choice [ref "pattern", ref "this"])]),
  ("omitting_type_annotation", seq ["-?:", ref "type"]),
  ("adding_type_annotation", seq ["+?:", ref "type"]),
  ("opting_type_annotation", seq ["?:", ref "type"]),
  ("type_annotation", seq [":", ref "type"])]

def typeRules : List (String × NamedRule) := [
  ("_type_query_member_expression_in_type_annotation", seq [
    field "object" (choice [
      ref "import",
      renamed (ref "_type_query_member_expression_in_type_annotation") "member_expression",
      renamed (ref "_type_query_call_expression_in_type_annotation") "call_expression"]),
    ".",
    field "property" memberName]),
  ("_type_query_call_expression_in_type_annotation", seq [
    field "function" (choice [
      ref "import",
      renamed (ref "_type_query_member_expression_in_type_annotation") "member_expression"]),
    field "arguments" (ref "arguments")]),
  ("asserts", seq ["asserts", choice [ref "type_predicate", ref "identifier", ref "this"]]),
  ("asserts_annotation", seq [seq [":", ref "asserts"]]),
  ("type", choice [
    ref "primary_type",
    ref "function_type",
    ref "readonly_type",
    ref "constructor_type",
    ref "infer_type",
    precLevel (-1)
      (renamed (ref "_type_query_member_expression_in_type_annotation") "member_expression"),
    precLevel (-1)
      (renamed (ref "_type_query_call_expression_in_type_annotation") "call_expression")]),
  ("tuple_parameter", seq [
    field "name" (choice [ref "identifier", ref "rest_pattern"]),
    field "type" (ref "type_annotation")]),
  ("optional_tuple_parameter", seq [
    field "name" (ref "identifier"), "?", field "type" (ref "type_annotation")]),
  ("optional_type", seq [ref "type", "?"]),
  ("rest_type", seq ["...", ref "type"]),
  ("_tuple_type_member", choice [
    renamed (ref "tuple_parameter") "required_parameter",
    renamed (ref "optional_tuple_parameter") "optional_parameter",
    ref "optional_type",
    ref "rest_type",
    ref "type"]),
  ("constructor_type", precLeft (.level 0) (seq [
    optional "abstract",
    "new",
    typeParameters,
    field "parameters" (ref "formal_parameters"),
    "=>",
    field "type" (ref "type")])),
  ("primary_type", choice [
    ref "parenthesized_type",
    ref "predefined_type",
    ref "_type_identifier",
    ref "nested_type_identifier",
    ref "generic_type",
    ref "object_type",
    ref "array_type",
    ref "tuple_type",
    ref "flow_maybe_type",
    ref "type_query",
    ref "index_type_query",
    renamed (ref "this") "this_type",
    ref "existential_type",
    ref "literal_type",
    ref "lookup_type",
    ref "conditional_type",
    ref "template_literal_type",
    ref "intersection_type",
    ref "union_type",
    "const"]),
  ("template_type", seq ["$\x7b", choice [ref "primary_type", ref "infer_type"], closeBrace]),
  ("template_literal_type", seq [
    "`",
    many (choice [renamed (ref "_template_chars") "string_fragment", ref "template_type"]),
    "`"]),
  ("infer_type", precRight (.level 0) (seq [
    "infer", ref "_type_identifier", optional (seq ["extends", ref "type"])])),
  ("conditional_type", precRight (.level 0) (seq [
    field "left" (ref "type"),
    "extends",
    field "right" (ref "type"),
    "?",
    field "consequence" (ref "type"),
    ":",
    field "alternative" (ref "type")])),
  ("generic_type", prec "call" (seq [
    field "name" (choice [ref "_type_identifier", ref "nested_type_identifier"]),
    field "type_arguments" (ref "type_arguments")])),
  ("type_predicate", seq [
    field "name" (choice [
      ref "identifier",
      ref "this",
      renamed (ref "predefined_type") "identifier"]),
    "is",
    field "type" (ref "type")]),
  ("type_predicate_annotation", seq [seq [":", ref "type_predicate"]]),
  ("_type_query_member_expression", seq [
    queriedObject, choice [".", "?."], field "property" memberName]),
  ("_type_query_subscript_expression", seq [
    queriedObject,
    optional "?.",
    "[",
    field "index" (choice [ref "predefined_type", ref "string", ref "number"]),
    "]"]),
  ("_type_query_call_expression", seq [queriedFunction, field "arguments" (ref "arguments")]),
  ("_type_query_instantiation_expression", seq [
    queriedFunction, field "type_arguments" (ref "type_arguments")]),
  ("type_query", precRight (.level 0) (seq [
    "typeof",
    choice [
      renamed (ref "_type_query_subscript_expression") "subscript_expression",
      renamed (ref "_type_query_member_expression") "member_expression",
      renamed (ref "_type_query_call_expression") "call_expression",
      renamed (ref "_type_query_instantiation_expression") "instantiation_expression",
      ref "identifier",
      ref "this"]])),
  ("index_type_query", seq ["keyof", ref "primary_type"]),
  ("lookup_type", seq [ref "primary_type", "[", ref "type", "]"]),
  ("mapped_type_clause", seq [
    field "name" (ref "_type_identifier"),
    "in",
    field "type" (ref "type"),
    optional (seq ["as", field "alias" (ref "type")])]),
  ("literal_type", choice [
    renamed (ref "_number") "unary_expression",
    ref "number",
    ref "string",
    ref "true",
    ref "false",
    ref "null",
    ref "undefined"]),
  ("_number", precLeft (.level 1) (seq [
    field "operator" (choice ["-", "+"]), field "argument" (ref "number")])),
  ("existential_type", "*"),
  ("flow_maybe_type", precRight (.level 0) (seq ["?", ref "primary_type"])),
  ("parenthesized_type", seq ["(", ref "type", ")"]),
  ("predefined_type", choice [
    "any",
    "number",
    "boolean",
    "string",
    "symbol",
    respelled (seq ["unique", "symbol"]) "unique symbol",
    "void",
    "unknown",
    "string",
    "never",
    "object"]),
  ("type_arguments", seq ["<", commaSep1 (ref "type"), optional ",", ">"]),
  ("object_type", seq [
    choice [openBrace, "\x7b|"],
    optional (seq [
      optional (choice [",", ";"]),
      sepBy1 (choice [",", ref "_semicolon"]) (choice [
        ref "export_statement",
        ref "property_signature",
        ref "call_signature",
        ref "construct_signature",
        ref "index_signature",
        ref "method_signature"]),
      optional (choice [",", ref "_semicolon"])]),
    choice [closeBrace, "|\x7d"]]),
  ("call_signature", ref "_call_signature"),
  ("property_signature", seq (modifiers ++ [
    field "name" (ref "_property_name"),
    optional "?",
    typeAnnotation])),
  ("type_parameters", seq ["<", commaSep1 (ref "type_parameter"), optional ",", ">"]),
  ("type_parameter", seq [
    optional "const",
    field "name" (ref "_type_identifier"),
    field "constraint" (optional (ref "constraint")),
    field "value" (optional (ref "default_type"))]),
  ("default_type", seq ["=", ref "type"]),
  ("constraint", seq [choice ["extends", ":"], ref "type"]),
  ("construct_signature", seq [
    optional "abstract",
    "new",
    typeParameters,
    field "parameters" (ref "formal_parameters"),
    typeAnnotation]),
  ("index_signature", seq [
    optional (seq [field "sign" (optional (choice ["-", "+"])), "readonly"]),
    "[",
    choice [
      seq [
        field "name" (choice [ref "identifier", renamed (ref "_reserved_identifier") "identifier"]),
        ":",
        field "index_type" (ref "type")],
      ref "mapped_type_clause"],
    "]",
    field "type" (choice [
      ref "type_annotation",
      ref "omitting_type_annotation",
      ref "adding_type_annotation",
      ref "opting_type_annotation"])]),
  ("array_type", seq [ref "primary_type", "[", "]"]),
  ("tuple_type", seq ["[", commaSep (ref "_tuple_type_member"), optional ",", "]"]),
  ("readonly_type", seq ["readonly", ref "type"]),
  ("union_type", precLeft (.level 0) (seq [optional (ref "type"), "|", ref "type"])),
  ("intersection_type", precLeft (.level 0) (seq [optional (ref "type"), "&", ref "type"])),
  ("function_type", precLeft (.level 0) (seq [
    typeParameters,
    field "parameters" (ref "formal_parameters"),
    "=>",
    field "return_type" (choice [ref "type", ref "asserts", ref "type_predicate"])])),
  ("_type_identifier", renamed (ref "identifier") "type_identifier")]

end Graft.Grammar.Tsx
