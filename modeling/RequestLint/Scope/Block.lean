import RequestLint.Syntax.Enclosing
import RequestLint.Syntax.Expression
import RequestLint.Syntax.Pattern
import RequestLint.Syntax.Search

/-! Block scope: names that a statement brings into its block, nodes that hide
an outer name, and the reads of a name that follow its declaration. -/
namespace RequestLint.Node

/-- Block-scoped names that a statement declares. -/
def declaredNames (statement : Node) : List String :=
  if statement.kind = "lexical_declaration" then
    (statement.namedChildren.filter (·.kind = "variable_declarator")).flatMap fun declarator =>
      ((declarator.child? "name").map boundNames).getD []
  else if statement.kind ∈ blockDeclarationKinds then
    ((statement.child? "name").map text).toList
  else
    []

/-- The node opens a block scope that has its own `name`. -/
def redeclares (node : Node) (name : String) : Bool :=
  if node.isBlock then node.namedChildren.any fun statement => name ∈ statement.declaredNames
  else if node.kind = "catch_clause" then
    (node.child? "parameter").any fun parameter => name ∈ parameter.boundNames
  else if node.kind = "for_statement" then
    (node.child? "initializer").any fun initializer => name ∈ initializer.declaredNames
  else if node.kind = "for_in_statement" then
    (node.child? "kind").any (·.kind ≠ "var") &&
      (node.child? "left").any fun left => name ∈ left.boundNames
  else
    false

/-- `name.property` for one of the properties. -/
def readsProperty (node : Node) (name : String) (properties : List String) : Bool :=
  node.member?.any fun (object, property) =>
    property ∈ properties && object.unwrap.any (·.isName name)

/-- `name = …`. -/
def assigns (node : Node) (name : String) : Bool :=
  node.kind = "assignment_expression" && (node.child? "left").any (·.isName name)

/-- The part of a statement that speaks of the same `name` as its surroundings
and runs along with it. -/
def sameScope (name : String) : Reach where
  crossFunctions := false
  skip node := node.redeclares name

/-- Some statement reads a property of `name`, and no earlier one assigns it. -/
def readBeforeAssigned (name : String) (properties : List String) : List Node → Bool
  | [] => false
  | statement :: rest =>
    statement.holds (sameScope name) (·.readsProperty name properties) ||
      (!statement.holds (sameScope name) (·.assigns name) &&
        readBeforeAssigned name properties rest)

/-- One of the properties of `name` is read in the statements that follow
`origin` in its block. -/
def readAfter (origin : Node) (name : String) (properties : List String) : Bool :=
  origin.statement?.any fun statement =>
    readBeforeAssigned name properties statement.followingParts

end RequestLint.Node
