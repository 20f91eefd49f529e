import RequestLint.Syntax.Kind

/-! Parameters and destructuring patterns, and the names they bind. -/
namespace RequestLint.Node

/-- The names that a parameter or pattern binds, left to right. Keys, default
values and type annotations bind nothing. -/
def boundNames (node : Node) : List String :=
  if node.kind ∈ ["identifier", "shorthand_property_identifier_pattern"] then
    [node.text]
  else if node.kind = "assignment_pattern" then
    match _ : node.child? "left" with
    | some left => left.boundNames
    | none => []
  else if node.kind ∈ ["required_parameter", "optional_parameter"] then
    match _ : node.child? "pattern" with
    | some pattern => pattern.boundNames
    | none => []
  else if node.kind = "pair_pattern" then
    match _ : node.child? "value" with
    | some value => value.boundNames
    | none => []
  else if node.kind ∈ ["object_pattern", "array_pattern", "rest_pattern"] then
    node.parts.attach.flatMap fun ⟨part, _⟩ => part.boundNames
  else
    []
termination_by node.size
decreasing_by
  · exact size_lt_of_child? ‹_›
  · exact size_lt_of_child? ‹_›
  · exact size_lt_of_child? ‹_›
  · exact size_lt_of_mem_parts ‹_›

/-- The parameters of a function: the single bare one of an arrow function, or
the parts of its parameter list. -/
def parameters (function : Node) : List Node :=
  match function.child? "parameter" with
  | some single => [single]
  | none => ((function.child? "parameters").map parts).getD []

end RequestLint.Node
