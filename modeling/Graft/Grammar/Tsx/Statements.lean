import Graft.Grammar.Tsx.Tokens

set_option autoImplicit false

/-!
# TSX: statements
-/

namespace Graft.Grammar.Tsx

/-- What a declaration can bind: a name or a pattern. -/
def bindingTarget : NamedRule := choice [ref "identifier", ref "_destructuring_pattern"]

def statementRules : List (String × NamedRule) := [
  ("statement", choice [
    ref "export_statement",
    ref "import_statement",
    ref "debugger_statement",
    ref "expression_statement",
    ref "declaration",
    ref "statement_block",
    ref "if_statement",
    ref "switch_statement",
    ref "for_statement",
    ref "for_in_statement",
    ref "while_statement",
    ref "do_statement",
    ref "try_statement",
    ref "with_statement",
    ref "break_statement",
    ref "continue_statement",
    ref "return_statement",
    ref "throw_statement",
    ref "empty_statement",
    ref "labeled_statement"]),
  ("expression_statement", seq [ref "_expressions", ref "_semicolon"]),
  ("variable_declaration", seq ["var", commaSep1 (ref "variable_declarator"), ref "_semicolon"]),
  ("lexical_declaration", seq [
    field "kind" (choice ["let", "const"]),
    commaSep1 (ref "variable_declarator"),
    ref "_semicolon"]),
  ("variable_declarator", choice [
    seq [
      field "name" bindingTarget,
      field "type" (optional (ref "type_annotation")),
      optional (ref "_initializer")],
    prec "declare" (seq [
      field "name" (ref "identifier"),
      "!",
      field "type" (ref "type_annotation")])]),
  ("statement_block", precRight (.level 0) (seq [
    openBrace,
    many (ref "statement"),
    closeBrace,
    optional (ref "_automatic_semicolon")])),
  ("else_clause", seq ["else", ref "statement"]),
  ("if_statement", precRight (.level 0) (seq [
    "if",
    field "condition" (ref "parenthesized_expression"),
    field "consequence" (ref "statement"),
    optional (field "alternative" (ref "else_clause"))])),
  ("switch_statement", seq [
    "switch",
    field "value" (ref "parenthesized_expression"),
    field "body" (ref "switch_body")]),
  ("for_statement", seq [
    "for",
    "(",
    choice [
      field "initializer" (choice [ref "lexical_declaration", ref "variable_declaration"]),
      seq [field "initializer" (ref "_expressions"), ";"],
      field "initializer" (ref "empty_statement")],
    field "condition" (choice [seq [ref "_expressions", ";"], ref "empty_statement"]),
    field "increment" (optional (ref "_expressions")),
    ")",
    field "body" (ref "statement")]),
  ("for_in_statement", seq [
    "for",
    optional "await",
    ref "_for_header",
    field "body" (ref "statement")]),
  ("_for_header", seq [
    "(",
    choice [
      field "left" (choice [ref "_lhs_expression", ref "parenthesized_expression"]),
      seq [
        field "kind" "var",
        field "left" bindingTarget,
        optional (ref "_initializer")],
      seq [
        field "kind" (choice ["let", "const"]),
        field "left" bindingTarget,
        optional (ref "_automatic_semicolon")]],
    field "operator" (choice ["in", "of"]),
    field "right" (ref "_expressions"),
    ")"]),
  ("while_statement", seq [
    "while",
    field "condition" (ref "parenthesized_expression"),
    field "body" (ref "statement")]),
  ("do_statement", precRight (.level 0) (seq [
    "do",
    field "body" (ref "statement"),
    "while",
    field "condition" (ref "parenthesized_expression"),
    optional (ref "_semicolon")])),
  ("try_statement", seq [
    "try",
    field "body" (ref "statement_block"),
    optional (field "handler" (ref "catch_clause")),
    optional (field "finalizer" (ref "finally_clause"))]),
  ("with_statement", seq [
    "with",
    field "object" (ref "parenthesized_expression"),
    field "body" (ref "statement")]),
  ("break_statement", seq [
    "break",
    field "label" (optional (renamed (ref "identifier") "statement_identifier")),
    ref "_semicolon"]),
  ("continue_statement", seq [
    "continue",
    field "label" (optional (renamed (ref "identifier") "statement_identifier")),
    ref "_semicolon"]),
  ("debugger_statement", seq ["debugger", ref "_semicolon"]),
  ("return_statement", seq ["return", optional (ref "_expressions"), ref "_semicolon"]),
  ("throw_statement", seq ["throw", ref "_expressions", ref "_semicolon"]),
  ("empty_statement", ";"),
  ("labeled_statement", precDynamic (-1) (seq [
    field "label" (renamed (choice [ref "identifier", ref "_reserved_identifier"]) "statement_identifier"),
    ":",
    field "body" (ref "statement")])),
  ("switch_body", seq [
    openBrace,
    many (choice [ref "switch_case", ref "switch_default"]),
    closeBrace]),
  ("switch_case", seq [
    "case",
    field "value" (ref "_expressions"),
    ":",
    field "body" (many (ref "statement"))]),
  ("switch_default", seq ["default", ":", field "body" (many (ref "statement"))]),
  ("catch_clause", seq [
    "catch",
    optional (seq [
      "(",
      field "parameter" bindingTarget,
      optional (field "type" (ref "type_annotation")),
      ")"]),
    field "body" (ref "statement_block")]),
  ("finally_clause", seq ["finally", field "body" (ref "statement_block")])]

end Graft.Grammar.Tsx
