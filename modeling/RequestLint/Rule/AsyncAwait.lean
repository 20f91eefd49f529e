import RequestLint.Rule
import RequestLint.Syntax.Chain

/-! A request with a promise chain would read better awaited. The request is
reported once, however long its chain is. -/
namespace RequestLint.AsyncAwait

def onCall (options : Options) (call : Node) : List Action :=
  ((call.anchor? options.target).map fun anchor =>
    .report (Message.preferAsyncAwait.finding .asyncAwait options anchor anchor)).toList

end RequestLint.AsyncAwait
