import Graft.Grammar.Tsx.Expressions

set_option autoImplicit false

/-!
# TSX: classes, functions, calls and operators
-/

namespace Graft.Grammar.Tsx

/-- The binary operators with their precedence; only `**` nests to the right. -/
def binaryOperators : List (String × String) := [
  ("&&", "logical_and"),
  ("||", "logical_or"),
  (">>", "binary_shift"),
  (">>>", "binary_shift"),
  ("<<", "binary_shift"),
  ("&", "bitwise_and"),
  ("^", "bitwise_xor"),
  ("|", "bitwise_or"),
  ("+", "binary_plus"),
  ("-", "binary_plus"),
  ("*", "binary_times"),
  ("/", "binary_times"),
  ("%", "binary_times"),
  ("**", "binary_exp"),
  ("<", "binary_relation"),
  ("<=", "binary_relation"),
  ("==", "binary_equality"),
  ("===", "binary_equality"),
  ("!=", "binary_equality"),
  ("!==", "binary_equality"),
  (">=", "binary_relation"),
  (">", "binary_relation"),
  ("??", "ternary"),
  ("instanceof", "binary_relation"),
  ("in", "binary_relation")]

def binaryRule (operator precedence : String) : NamedRule :=
  let left := if operator == "in" then
      choice [ref "expression", ref "private_property_identifier"]
    else ref "expression"
  let body := seq [field "left" left, field "operator" operator, field "right" (ref "expression")]
  if operator == "**" then precRight (.named precedence) body else precLeft (.named precedence) body

def decorators : NamedRule := many (field "decorator" (ref "decorator"))

def memberName : NamedRule :=
  choice [ref "private_property_identifier", renamed (ref "identifier") "property_identifier"]

def functionRules : List (String × NamedRule) := [
  ("class", prec "literal" (seq [
    decorators,
    "class",
    field "name" (optional (ref "_type_identifier")),
    field "type_parameters" (optional (ref "type_parameters")),
    optional (ref "class_heritage"),
    field "body" (ref "class_body")])),
  ("class_declaration", precLeft (.named "declare") (seq [
    decorators,
    "class",
    field "name" (ref "_type_identifier"),
    field "type_parameters" (optional (ref "type_parameters")),
    optional (ref "class_heritage"),
    field "body" (ref "class_body"),
    optional (ref "_automatic_semicolon")])),
  ("class_heritage", choice [
    seq [ref "extends_clause", optional (ref "implements_clause")],
    ref "implements_clause"]),
  ("function_expression", prec "literal" (seq [
    optional "async",
    "function",
    field "name" (optional (ref "identifier")),
    ref "_call_signature",
    field "body" (ref "statement_block")])),
  ("function_declaration", precRight (.named "declare") (seq [
    optional "async",
    "function",
    field "name" (ref "identifier"),
    ref "_call_signature",
    field "body" (ref "statement_block"),
    optional (ref "_automatic_semicolon")])),
  ("generator_function", prec "literal" (seq [
    optional "async",
    "function",
    "*",
    field "name" (optional (ref "identifier")),
    ref "_call_signature",
    field "body" (ref "statement_block")])),
  ("generator_function_declaration", precRight (.named "declare") (seq [
    optional "async",
    "function",
    "*",
    field "name" (ref "identifier"),
    ref "_call_signature",
    field "body" (ref "statement_block"),
    optional (ref "_automatic_semicolon")])),
  ("arrow_function", seq [
    optional "async",
    choice [
      field "parameter" (choice [
        renamed (ref "_reserved_identifier") "identifier",
        ref "identifier"]),
      ref "_call_signature"],
    "=>",
    field "body" (choice [ref "expression", ref "statement_block"])]),
  ("_call_signature", seq [
    field "type_parameters" (optional (ref "type_parameters")),
    field "parameters" (ref "formal_parameters"),
    field "return_type" (optional (choice [
      ref "type_annotation",
      ref "asserts_annotation",
      ref "type_predicate_annotation"]))]),
  ("_formal_parameter", choice [ref "required_parameter", ref "optional_parameter"]),
  ("optional_chain", "?."),
  ("call_expression", choice [
    prec "call" (seq [
      field "function" (choice [ref "expression", ref "import"]),
      field "type_arguments" (optional (ref "type_arguments")),
      field "arguments" (ref "arguments")]),
    prec "template_call" (seq [
      field "function" (choice [ref "primary_expression", ref "new_expression"]),
      field "arguments" (ref "template_string")]),
    prec "member" (seq [
      field "function" (ref "primary_expression"),
      "?.",
      field "type_arguments" (optional (ref "type_arguments")),
      field "arguments" (ref "arguments")])]),
  ("new_expression", precRight (.named "new") (seq [
    "new",
    field "constructor" (ref "primary_expression"),
    field "type_arguments" (optional (ref "type_arguments")),
    field "arguments" (optional (ref "arguments"))])),
  ("await_expression", prec "unary_void" (seq ["await", ref "expression"])),
  ("member_expression", prec "member" (seq [
    field "object" (choice [ref "expression", ref "primary_expression", ref "import"]),
    choice [".", field "optional_chain" (ref "optional_chain")],
    field "property" memberName])),
  ("subscript_expression", precRight (.named "member") (seq [
    field "object" (choice [ref "expression", ref "primary_expression"]),
    optional (field "optional_chain" (ref "optional_chain")),
    "[",
    field "index" (ref "_expressions"),
    "]"])),
  ("_lhs_expression", choice [
    ref "member_expression",
    ref "subscript_expression",
    ref "_identifier",
    renamed (ref "_reserved_identifier") "identifier",
    ref "_destructuring_pattern",
    ref "non_null_expression"]),
  ("assignment_expression", precRight (.named "assign") (seq [
    optional "using",
    field "left" (choice [ref "parenthesized_expression", ref "_lhs_expression"]),
    "=",
    field "right" (ref "expression")])),
  ("_augmented_assignment_lhs", choice [
    ref "member_expression",
    ref "subscript_expression",
    renamed (ref "_reserved_identifier") "identifier",
    ref "identifier",
    ref "parenthesized_expression",
    ref "non_null_expression"]),
  ("augmented_assignment_expression", precRight (.named "assign") (seq [
    field "left" (ref "_augmented_assignment_lhs"),
    field "operator" (choice ["+=", "-=", "*=", "/=", "%=", "^=", "&=", "|=", ">>=", ">>>=",
      "<<=", "**=", "&&=", "||=", "??="]),
    field "right" (ref "expression")])),
  ("_initializer", seq ["=", field "value" (ref "expression")]),
  ("_destructuring_pattern", choice [ref "object_pattern", ref "array_pattern"]),
  ("spread_element", seq ["...", ref "expression"]),
  ("ternary_expression", precRight (.named "ternary") (seq [
    field "condition" (ref "expression"),
    respelled (ref "_ternary_qmark") "?",
    field "consequence" (ref "expression"),
    ":",
    field "alternative" (ref "expression")])),
  ("binary_expression", choice (binaryOperators.map fun o => binaryRule o.1 o.2)),
  ("unary_expression", precLeft (.named "unary_void") (seq [
    field "operator" (choice ["!", "~", "-", "+", "typeof", "void", "delete"]),
    field "argument" (ref "expression")])),
  ("update_expression", precLeft (.level 0) (choice [
    seq [field "argument" (ref "expression"), field "operator" (choice ["++", "--"])],
    seq [field "operator" (choice ["++", "--"]), field "argument" (ref "expression")]])),
  ("sequence_expression", precRight (.level 0) (commaSep1 (ref "expression")))]

def literalRules : List (String × NamedRule) := [
  ("string", choice [
    seq [
      "\"",
      many (choice [
        renamed (ref "unescaped_double_string_fragment") "string_fragment",
        ref "escape_sequence"]),
      "\""],
    seq [
      "'",
      many (choice [
        renamed (ref "unescaped_single_string_fragment") "string_fragment",
        ref "escape_sequence"]),
      "'"]]),
  ("unescaped_double_string_fragment", tokenImmediate (precLevel 1 (.pattern (stringFragment '"')))),
  ("unescaped_single_string_fragment", tokenImmediate (precLevel 1 (.pattern (stringFragment '\'')))),
  ("escape_sequence", tokenImmediate (.pattern escapeSequence)),
  ("comment", token (.pattern comment)),
  ("template_string", seq [
    "`",
    many (choice [
      renamed (ref "_template_chars") "string_fragment",
      ref "escape_sequence",
      ref "template_substitution"]),
    "`"]),
  ("template_substitution", seq ["$\x7b", ref "_expressions", closeBrace]),
  ("regex", seq [
    "/",
    field "pattern" (ref "regex_pattern"),
    tokenImmediate (precLevel 1 "/"),
    optional (field "flags" (ref "regex_flags"))]),
  ("regex_pattern", tokenImmediate (precLevel (-1) (.pattern regexPattern))),
  ("regex_flags", tokenImmediate (.pattern (.plus (.chars (CharSet.between 'a' 'z'))))),
  ("number", token (.pattern number)),
  ("_identifier", choice [ref "undefined", ref "identifier"]),
  ("identifier", token (.pattern identifier)),
  ("private_property_identifier", token (.pattern privateName)),
  ("meta_property", choice [seq ["new", ".", "target"], seq ["import", ".", "meta"]]),
  ("this", "this"),
  ("super", "super"),
  ("true", "true"),
  ("false", "false"),
  ("null", "null"),
  ("undefined", "undefined")]

def memberRules : List (String × NamedRule) := [
  ("arguments", seq [
    "(",
    commaSep (optional (choice [ref "expression", ref "spread_element"])),
    ")"]),
  ("decorator", seq [
    "@",
    choice [
      ref "identifier",
      renamed (ref "decorator_member_expression") "member_expression",
      renamed (ref "decorator_call_expression") "call_expression",
      renamed (ref "decorator_parenthesized_expression") "parenthesized_expression"]]),
  ("decorator_member_expression", prec "member" (seq [
    field "object" (choice [
      ref "identifier",
      renamed (ref "decorator_member_expression") "member_expression"]),
    ".",
    field "property" (renamed (ref "identifier") "property_identifier")])),
  ("decorator_call_expression", prec "call" (seq [
    field "function" (choice [
      ref "identifier",
      renamed (ref "decorator_member_expression") "member_expression"]),
    optional (field "type_arguments" (ref "type_arguments")),
    field "arguments" (ref "arguments")])),
  ("class_body", seq [
    openBrace,
    many (choice [
      seq [decorators, ref "method_definition", optional (ref "_semicolon")],
      seq [ref "method_signature", choice [ref "_function_signature_automatic_semicolon", ","]],
      ref "class_static_block",
      seq [
        choice [
          ref "abstract_method_signature",
          ref "index_signature",
          ref "method_signature",
          ref "public_field_definition"],
        choice [ref "_semicolon", ","]],
      ";"]),
    closeBrace]),
  ("formal_parameters", seq [
    "(",
    optional (seq [commaSep1 (ref "_formal_parameter"), optional ","]),
    ")"]),
  ("class_static_block", seq [
    "static", optional (ref "_automatic_semicolon"), field "body" (ref "statement_block")]),
  ("pattern", precDynamic (-1) (choice [ref "_lhs_expression", ref "rest_pattern"])),
  ("rest_pattern", precRight (.level 0) (seq ["...", ref "_lhs_expression"])),
  ("method_definition", precLeft (.level 0) (seq [
    optional (ref "accessibility_modifier"),
    optional "static",
    optional (ref "override_modifier"),
    optional "readonly",
    optional "async",
    optional (choice ["get", "set", "*"]),
    field "name" (ref "_property_name"),
    optional "?",
    ref "_call_signature",
    field "body" (ref "statement_block")])),
  ("pair", seq [field "key" (ref "_property_name"), ":", field "value" (ref "expression")]),
  ("pair_pattern", seq [
    field "key" (ref "_property_name"),
    ":",
    field "value" (choice [ref "pattern", ref "assignment_pattern"])]),
  ("_property_name", choice [
    nameOrReserved "property_identifier",
    ref "private_property_identifier",
    ref "string",
    ref "number",
    ref "computed_property_name"]),
  ("computed_property_name", seq ["[", ref "expression", "]"]),
  ("_reserved_identifier", choice ["declare", "namespace", "type", "public", "private", "protected",
    "override", "readonly", "module", "any", "number", "boolean", "string", "symbol", "export",
    "object", "new", "readonly", "get", "set", "async", "static", "export", "let"]),
  ("_semicolon", choice [ref "_automatic_semicolon", ";"])]

end Graft.Grammar.Tsx
