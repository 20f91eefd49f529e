import RequestLint.Rule
import RequestLint.Syntax.Chain
import RequestLint.Syntax.Enclosing

/-! A request whose result is used has to be able to fail visibly: inside a
`try`, or with a rejection handler at the end of its chain. The outermost call
of a chain is entered before the request it starts from, so findings wait. -/
namespace RequestLint.ErrorHandling

/-- The call stands alone as a statement, bare or under `void`, so nothing
consumes its result. -/
def isDiscarded (site : Node) : Bool :=
  site.context?.any fun outer =>
    if outer.kind = "unary_expression" then
      (outer.child? "operator").any (·.kind = "void") &&
        outer.context?.any (·.kind = "expression_statement")
    else outer.kind = "expression_statement"

def onCall (options : Options) (call : Node) : List Action :=
  if call.isTargetCall options.target then
    if isDiscarded call || call.isProtected false then []
    else
      [.defer (Message.missingErrorHandling.finding .errorHandling options call call)]
  else if call.handlesRejectionLast then
    ((call.anchor? options.target).map (.satisfy Rule.errorHandling.id)).toList
  else []

end RequestLint.ErrorHandling
