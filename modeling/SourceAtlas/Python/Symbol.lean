import SourceAtlas.Syntax.Language

/-! The symbols of Python. The tokens come first, from the end of the text to the
end of a string; the symbols of rules follow. -/
namespace SourceAtlas.Python
open SourceAtlas.Syntax

private def node (name : String) : Appearance := ⟨name, true, true⟩

private def fixed (name : String) : Appearance := ⟨name, true, false⟩

private def hidden (name : String) : Appearance := ⟨name, false, false⟩

set_option maxRecDepth 20000

def appearances : Array Appearance := #[
  hidden "end", node "identifier", fixed ";", fixed "import", fixed ".", fixed "from",
  fixed "__future__", fixed "(", fixed ")", fixed ",", fixed "as", fixed "*", fixed "print",
  fixed ">>", fixed "assert", fixed ":=", fixed "return", fixed "del", fixed "raise",
  fixed "pass", fixed "break", fixed "continue", fixed "if", fixed ":", fixed "elif",
  fixed "else", fixed "match", fixed "case", fixed "async", fixed "for", fixed "in",
  fixed "while", fixed "try", fixed "except", fixed "except*", fixed "finally", fixed "with",
  fixed "def", fixed "->", fixed "**", fixed "global", fixed "nonlocal", fixed "exec",
  fixed "type", fixed "=", fixed "class", fixed "[", fixed "]", fixed "@", fixed "-", fixed "_",
  fixed "|", fixed "\x7b", fixed "\x7d", fixed "+", fixed "not", fixed "and", fixed "or",
  fixed "/", fixed "%", fixed "//", fixed "&", fixed "^", fixed "<<", fixed "~", fixed "<",
  fixed "<=", fixed "==", fixed "!=", fixed ">=", fixed ">", fixed "<>", fixed "is",
  fixed "lambda", fixed "+=", fixed "-=", fixed "*=", fixed "/=", fixed "@=", fixed "//=",
  fixed "%=", fixed "**=", fixed ">>=", fixed "<<=", fixed "&=", fixed "^=", fixed "|=",
  fixed "yield", node "ellipsis", node "escape_sequence", hidden "_not_escape_sequence",
  hidden "format_specifier_token1", node "type_conversion", node "integer", node "float",
  fixed "await", node "true", node "false", node "none", node "comment", node "line_continuation",
  hidden "_newline", hidden "_indent", hidden "_dedent", node "string_start",
  hidden "_string_content", node "escape_interpolation", node "string_end", node "module",
  hidden "_statement", hidden "_simple_statements", node "import_statement", node "import_prefix",
  node "relative_import", node "future_import_statement", node "import_from_statement",
  hidden "_import_list", node "aliased_import", node "wildcard_import", node "print_statement",
  node "chevron", node "assert_statement", node "expression_statement", node "named_expression",
  hidden "_named_expression_lhs", node "return_statement", node "delete_statement",
  node "raise_statement", node "pass_statement", node "break_statement",
  node "continue_statement", node "if_statement", node "elif_clause", node "else_clause",
  node "match_statement", node "block", node "case_clause", node "for_statement",
  node "while_statement", node "try_statement", node "except_clause", node "except_group_clause",
  node "finally_clause", node "with_statement", node "with_clause", node "with_item",
  node "function_definition", node "parameters", node "lambda_parameters", node "list_splat",
  node "dictionary_splat", node "global_statement", node "nonlocal_statement",
  node "exec_statement", node "type_alias_statement", node "class_definition",
  node "type_parameter", node "parenthesized_list_splat", node "argument_list",
  node "decorated_definition", node "decorator", node "block", node "expression_list",
  node "dotted_name", node "case_pattern", hidden "_simple_pattern", node "as_pattern",
  node "union_pattern", node "list_pattern", node "tuple_pattern", node "dict_pattern",
  hidden "_key_value_pattern", node "keyword_pattern", node "splat_pattern", node "class_pattern",
  node "complex_pattern", hidden "_parameters", hidden "_patterns", hidden "parameter",
  hidden "pattern", node "tuple_pattern", node "list_pattern", node "default_parameter",
  node "typed_default_parameter", node "list_splat_pattern", node "dictionary_splat_pattern",
  node "as_pattern", hidden "_expression_within_for_in_clause", hidden "expression",
  hidden "primary_expression", node "not_operator", node "boolean_operator",
  node "binary_operator", node "unary_operator", node "comparison_operator", node "lambda",
  node "lambda", node "assignment", node "augmented_assignment", node "pattern_list",
  hidden "_right_hand_side", node "yield", node "attribute", node "subscript", node "slice",
  node "call", node "typed_parameter", node "type", node "splat_type", node "generic_type",
  node "union_type", node "constrained_type", node "member_type", node "keyword_argument",
  node "list", node "set", node "tuple", node "dictionary", node "pair",
  node "list_comprehension", node "dictionary_comprehension", node "set_comprehension",
  node "generator_expression", hidden "_comprehension_clauses", node "parenthesized_expression",
  hidden "_collection_elements", node "for_in_clause", node "if_clause",
  node "conditional_expression", node "concatenated_string", node "string", node "string_content",
  node "interpolation", hidden "_f_expression", node "format_specifier", node "await",
  node "positional_separator", node "keyword_separator", hidden "module_repeat1",
  hidden "_simple_statements_repeat1", hidden "import_prefix_repeat1",
  hidden "_import_list_repeat1", hidden "print_statement_repeat1",
  hidden "assert_statement_repeat1", hidden "if_statement_repeat1",
  hidden "match_statement_repeat1", hidden "_match_block_repeat1", hidden "case_clause_repeat1",
  hidden "try_statement_repeat1", hidden "try_statement_repeat2", hidden "with_clause_repeat1",
  hidden "global_statement_repeat1", hidden "type_parameter_repeat1",
  hidden "argument_list_repeat1", hidden "decorated_definition_repeat1",
  hidden "dotted_name_repeat1", hidden "union_pattern_repeat1", hidden "dict_pattern_repeat1",
  hidden "_parameters_repeat1", hidden "_patterns_repeat1", hidden "comparison_operator_repeat1",
  hidden "subscript_repeat1", hidden "dictionary_repeat1",
  hidden "_comprehension_clauses_repeat1", hidden "_collection_elements_repeat1",
  hidden "for_in_clause_repeat1", hidden "concatenated_string_repeat1", hidden "string_repeat1",
  hidden "string_content_repeat1", hidden "format_specifier_repeat1"]

def partNames : Array (List (Option Appearance)) := #[
  [],
  [some (node "identifier")],
  [none, some (node "identifier")],
  [none, none, some (node "block")],
  [none, none, none, some (node "block")],
  [some (node "list_splat")],
  [none, none, none, none, none, some (node "block")],
  [none, none, none, none, none, none, some (node "block")],
  [none, none, none, none, some (node "block")],
  [none, none, none, none, none, none, none, some (node "block")],
  [none, none, none, none, none, none, none, none, some (node "block")],
  [some (fixed "not in"), some (fixed "not in")],
  [some (fixed "is not"), some (fixed "is not")],
  [none, some (node "parenthesized_expression")],
  [none, none, some (node "as_pattern_target")],
  [some (node "format_expression")]]

def tokenCount : Nat := 108

namespace Symbol

def endOfText : Nat := 0
def identifier : Nat := 1
def closeParenthesis : Nat := 8
def except : Nat := 33
def exceptStar : Nat := 34
def openBrace : Nat := 52
def closeBrace : Nat := 53
def escapeSequence : Nat := 89
def loneBackslash : Nat := 90
def formatText : Nat := 91
def typeConversion : Nat := 92
def integer : Nat := 93
def float : Nat := 94
def comment : Nat := 99
def lineContinuation : Nat := 100
def newline : Nat := 101
def indent : Nat := 102
def dedent : Nat := 103
def stringStart : Nat := 104
def stringContent : Nat := 105
def escapeInterpolation : Nat := 106
def stringEnd : Nat := 107

end Symbol

end SourceAtlas.Python
