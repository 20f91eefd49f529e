import RequestLint.Rule
import RequestLint.Syntax.Concatenation
import RequestLint.Syntax.Search

/-! An address put together from parts has to encode what it splices in, and
preferably by a query builder. -/
namespace RequestLint.EncodedQuery

def isEncodingCall (node : Node) : Bool := node.isTargetCall "encodeURIComponent"

/-- `new URLSearchParams(…)`, or a `.toString()` call, as on a builder. -/
def isQueryBuilder (node : Node) : Bool :=
  node.isConstruction "URLSearchParams" || node.methodName? = some "toString"

def isUrlConstruction (node : Node) : Bool := node.isConstruction "URL"

def verdict? (requireQueryBuilder : Bool) (call : Node) : Option Verdict := do
  let url ← (call.argument? 0).bind Node.unwrap
  if !url.isDynamicText || url.holds {} isQueryBuilder then none
  else if url.holds {} isEncodingCall then
    if requireQueryBuilder then some ⟨.preferURLSearchParams, url, none⟩ else none
  else if url.holds {} isUrlConstruction then none
  else some ⟨.unsafeQueryParam, url, none⟩

end RequestLint.EncodedQuery
