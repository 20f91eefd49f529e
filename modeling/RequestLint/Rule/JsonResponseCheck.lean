import RequestLint.Rule
import RequestLint.Scope.Tracker
import RequestLint.Syntax.Enclosing
import RequestLint.Syntax.Object
import RequestLint.Text.Part

/-! The content type of a response has to be looked at before its body is read
as JSON. The look has to come first in the source, so this rule reports while
the walk goes on. A response that cannot be traced to a call is not judged. -/
namespace RequestLint.JsonResponseCheck

/-- The `x` of `x.headers.get('content-type')`. -/
def headerOwner? (call : Node) : Option Node := do
  let (getter, method) ← call.calledMember?
  let (owner, property) ← getter.unwrap.bind Node.member?
  let name ← call.arguments.head?.bind Node.stringValue?
  if call.kind = "call_expression" ∧ method = "get" ∧ property = "headers" ∧
      Text.lower name = "content-type" then owner.unwrap else none

/-- The call whose content type is looked at by an observation. -/
def checkedSite? (target : String) : Observation → Option Node
  | .entered node scopes => (headerOwner? node).bind (scopes.resolve? target)
  | .bound _ => none

/-- The address is a plain string that names a JSON file. -/
def namesJsonFile (site : Node) : Bool :=
  ((site.argument? 0).bind Node.unwrap).any fun url =>
    url.kind = "string" && url.stringValue?.any (Text.endsIn · ".json")

def onCall (options : Options) (past : List Observation) (scopes : Scopes) (call : Node) :
    List Action :=
  if (headerOwner? call).isNone && call.methodName? = some "json" && call.arguments.isEmpty then
    match call.receiver?.bind (scopes.resolve? options.target) with
    | none => []
    | some site =>
      if call.isProtected false || namesJsonFile site ||
          past.any (fun seen => (checkedSite? options.target seen).any (·.sameSite site)) then []
      else
        [.report (Message.missingContentTypeCheck.finding .jsonResponseCheck options site call)]
  else []

end RequestLint.JsonResponseCheck
