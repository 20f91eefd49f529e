import RequestLint.Syntax.Node

/-! The families of grammar rules that the analysis tells apart. -/
namespace RequestLint

/-- Rules that open a function scope. The bare `function` keyword token has the
last name of the list as its kind, so it counts as an empty function. -/
def functionKinds : List String :=
  ["function_declaration", "function_expression", "arrow_function", "method_definition",
    "generator_function_declaration", "generator_function", "function"]

/-- Wrappers that leave the value of the expression they hold unchanged. -/
def wrapperKinds : List String :=
  ["parenthesized_expression", "as_expression", "satisfies_expression", "non_null_expression"]

/-- Rules whose parts are statements. -/
def blockKinds : List String :=
  ["statement_block", "program", "switch_case", "switch_default", "class_static_block"]

/-- Declarations that bind one name in the block they stand in. -/
def blockDeclarationKinds : List String :=
  ["class_declaration", "function_declaration", "generator_function_declaration"]

namespace Node

def isFunctionLike (node : Node) : Bool := node.kind ∈ functionKinds
def isWrapper (node : Node) : Bool := node.kind ∈ wrapperKinds
def isBlock (node : Node) : Bool := node.kind ∈ blockKinds

end Node
end RequestLint
