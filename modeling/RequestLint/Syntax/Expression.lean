import RequestLint.Syntax.Kind

/-! Shapes of expressions: wrappers, calls, member accesses and literals. A
shape that a function does not know gives `none`, `false` or no nodes, so all
of them may be asked of any node, those of erroneous sources included. -/
namespace RequestLint.Node

/-- Looks through wrappers. A wrapper around nothing has no value. -/
def unwrap (node : Node) : Option Node :=
  if node.isWrapper then
    match _ : node.firstPart? with
    | some inner => inner.unwrap
    | none => none
  else
    some node
termination_by node.size
decreasing_by exact size_lt_of_firstPart? ‹_›

theorem size_unwrap_le {node inner : Node} (opened : node.unwrap = some inner) :
    inner.size ≤ node.size := by
  fun_induction unwrap node with
  | case1 node wraps part found ih =>
    exact Nat.le_of_lt (Nat.lt_of_le_of_lt (ih opened) (size_lt_of_firstPart? found))
  | case2 => cases opened
  | case3 => cases opened; exact Nat.le_refl _

/-- Looks through wrappers and at most one `await`. -/
def unwrapAwait (node : Node) : Option Node := do
  let inner ← node.unwrap
  if inner.kind = "await_expression" then inner.firstPart?.bind unwrap else some inner

/-- The outermost wrapper around the node, or the node itself. -/
def outermost (node : Node) : Node := (node.ancestors.takeWhile isWrapper).getLast?.getD node

/-- The first enclosing node that is no wrapper. -/
def context? (node : Node) : Option Node := node.ancestors.find? (!·.isWrapper)

def arguments (call : Node) : List Node :=
  match call.child? "arguments" with
  | some list => if list.kind = "arguments" then list.parts else []
  | none => []

def isSpread (node : Node) : Bool := node.kind = "spread_element"

/-- The argument at a position, unless a spread up to there makes positions
unknown. -/
def argument? (call : Node) (index : Nat) : Option Node :=
  if (call.arguments.take (index + 1)).any isSpread then none else call.arguments[index]?

/-- Object and property name of `object.property`. -/
def member? (node : Node) : Option (Node × String) :=
  if node.kind = "member_expression" then do
    let object ← node.child? "object"
    let property ← node.child? "property"
    some (object, property.text)
  else
    none

/-- What is called, when it is a member: object and property name. -/
def calledMember? (call : Node) : Option (Node × String) := (call.child? "function").bind member?

/-- The name in `object.name(…)`. -/
def methodName? (call : Node) : Option String :=
  if call.kind = "call_expression" then call.calledMember?.map Prod.snd else none

/-- The object in `object.name(…)`, without its wrappers. -/
def receiver? (call : Node) : Option Node := call.calledMember?.bind fun called => called.1.unwrap

/-- A plain name and nothing else. -/
def isName (node : Node) (name : String) : Bool := node.kind = "identifier" && node.text = name

/-- A call of the bare name `target`. -/
def isTargetCall (target : String) (node : Node) : Bool :=
  node.kind = "call_expression" && (node.child? "function").any (·.isName target)

def continuationMethods : List String := ["then", "catch", "finally"]

/-- A call that chains onto a promise. -/
def isContinuation (node : Node) : Bool := node.methodName?.any (· ∈ continuationMethods)

/-- `object.method(…)` with a plain name as object. -/
def isMemberCall (node : Node) (object method : String) : Bool :=
  node.unwrap.any fun call =>
    call.kind = "call_expression" &&
      call.calledMember?.any fun called => called.1.isName object && called.2 = method

def isJsonSerialization (node : Node) : Bool := node.isMemberCall "JSON" "stringify"

/-- `new name(…)`. -/
def isConstruction (node : Node) (name : String) : Bool :=
  node.kind = "new_expression" && (node.child? "constructor").any (·.isName name)

def hasSubstitution (node : Node) : Bool := node.parts.any (·.kind = "template_substitution")

/-- The text between the quotes, with escapes left as written. -/
def unquoted (node : Node) : String := String.ofList (node.text.toList.drop 1).dropLast

/-- The value of a string, or of a template without substitutions. -/
def stringValue? (node : Node) : Option String := do
  let literal ← node.unwrap
  if literal.kind = "string" then some literal.unquoted
  else if literal.kind = "template_string" ∧ ¬ literal.hasSubstitution then some literal.unquoted
  else none

theorem size_lt_of_member? {node object : Node} {property : String}
    (accessed : node.member? = some (object, property)) : object.size < node.size := by
  unfold member? at accessed
  split at accessed
  · obtain ⟨found, objectFound, rest⟩ := Option.bind_eq_some_iff.1 accessed
    obtain ⟨_, _, same⟩ := Option.bind_eq_some_iff.1 rest
    cases same
    exact size_lt_of_child? objectFound
  · cases accessed

theorem size_lt_of_calledMember? {call object : Node} {property : String}
    (called : call.calledMember? = some (object, property)) : object.size < call.size := by
  obtain ⟨callee, calleeFound, accessed⟩ := Option.bind_eq_some_iff.1 called
  exact Nat.lt_trans (size_lt_of_member? accessed) (size_lt_of_child? calleeFound)

theorem size_lt_of_receiver? {call object : Node} (received : call.receiver? = some object) :
    object.size < call.size := by
  obtain ⟨called, calledFound, opened⟩ := Option.bind_eq_some_iff.1 received
  exact Nat.lt_of_le_of_lt (size_unwrap_le opened) (size_lt_of_calledMember? calledFound)

end RequestLint.Node
