import RequestLint.Syntax.Kind

/-! What a node stands in: the nearest node of given kinds, the block statement
around it, and protected `try` blocks. -/
namespace RequestLint.Node

/-- The nearest enclosing node of one of the kinds. With `stopAtFunction` the
search does not leave the innermost function. -/
def enclosing? (node : Node) (kinds : List String) (stopAtFunction : Bool) : Option Node :=
  (node.ancestors.find? fun outer =>
    outer.kind ∈ kinds || (stopAtFunction && outer.isFunctionLike)).filter (·.kind ∈ kinds)

/-- The statement around the node that stands directly in a block; none when a
function begins before a block is reached. -/
def statement? (node : Node) : Option Node := do
  let (inner, outer) ← node.lineage.find? fun (_, outer) => outer.isBlock || outer.isFunctionLike
  if outer.isBlock then some inner else none

def handlerKinds : List String := ["catch_clause", "finally_clause"]

/-- The node lies in the body of an enclosing `try`, or, with `handlers`, in one
of its `catch` and `finally` regions. -/
def isProtected (node : Node) (handlers : Bool) : Bool :=
  node.lineage.any fun (inner, outer) =>
    outer.kind = "try_statement" &&
      ((outer.child? "body").any (·.sameSite inner) || (handlers && inner.kind ∈ handlerKinds))

end RequestLint.Node
