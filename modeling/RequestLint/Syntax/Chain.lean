import RequestLint.Syntax.Expression

/-! Continuation chains such as `request().then(…).catch(…)`. The *anchor* of a
chain is the call it starts from, found going down through receivers; the
*links* of a call are the continuations chained onto it, found going up. -/
namespace RequestLint.Node

/-- Follows receivers down to a call of `target`; any other start gives none. -/
def anchorBelow? (target : String) (node : Node) : Option Node :=
  if node.isTargetCall target then some node
  else if node.isContinuation then
    match _ : node.receiver? with
    | some object => object.anchorBelow? target
    | none => none
  else none
termination_by node.size
decreasing_by exact size_lt_of_receiver? ‹_›

/-- The call of `target` that the continuation `call` is chained onto. -/
def anchor? (target : String) (call : Node) : Option Node :=
  if call.isContinuation then call.receiver?.bind (anchorBelow? target) else none

/-- The continuation chained directly onto `call`. -/
def nextLink? (call : Node) : Option Node := do
  let access ← call.context?
  let object ← access.child? "object"
  let chained ← access.parent?
  let callee ← chained.child? "function"
  if access.kind = "member_expression" ∧ object.sameSite call.outermost ∧ chained.isContinuation ∧
      callee.sameSite access then some chained else none

theorem depth_lt_of_nextLink? {call next : Node} (linked : call.nextLink? = some next) :
    next.depth < call.depth := by
  obtain ⟨access, around, linked⟩ := Option.bind_eq_some_iff.1 linked
  obtain ⟨_, _, linked⟩ := Option.bind_eq_some_iff.1 linked
  obtain ⟨chained, above, linked⟩ := Option.bind_eq_some_iff.1 linked
  obtain ⟨_, _, linked⟩ := Option.bind_eq_some_iff.1 linked
  split at linked
  · cases linked
    have lower := depth_lt_of_mem_ancestors (List.mem_of_find?_eq_some around)
    have step := depth_of_parent? above
    omega
  · cases linked

/-- The continuations chained onto `call`, innermost first. -/
def links (call : Node) : List Node :=
  match _ : call.nextLink? with
  | some next => next :: next.links
  | none => []
termination_by call.depth
decreasing_by exact depth_lt_of_nextLink? ‹_›

/-- The outermost call of the chain that `call` belongs to. -/
def chainEnd (call : Node) : Node := call.links.getLast?.getD call

/-- `x.catch(…)`, or `x.then(…)` with a second handler. -/
def handlesRejection (call : Node) : Bool :=
  call.methodName? = some "catch" ||
    (call.methodName? = some "then" && 2 ≤ call.arguments.length)

/-- A rejection handler that only `.finally(…)` calls follow. -/
def handlesRejectionLast (call : Node) : Bool :=
  call.handlesRejection && call.links.all (·.methodName? = some "finally")

end RequestLint.Node
