import RequestLint.Rule
import RequestLint.Scope.Block
import RequestLint.Scope.Tracker

/-! A response that is given a name has to have its status read, near its
declaration or anywhere the name still stands for it. A response handed to a
callback has no name of its own here. -/
namespace RequestLint.StatusCheck

def properties : List String := ["ok", "status"]

def onBound (options : Options) (binding : Binding) : List Action :=
  if binding.kind = .callback then []
  else if binding.origin.readAfter binding.name properties then
    [.satisfy Rule.statusCheck.id binding.site]
  else
    [.defer (Message.missingStatusCheck.finding .statusCheck options binding.site binding.site)]

/-- A read of the status, of a named response or of an awaited call. -/
def onMember (options : Options) (scopes : Scopes) (node : Node) : List Action :=
  match node.member? with
  | some (object, property) =>
    if property ∈ properties then
      ((scopes.resolve? options.target object).map (.satisfy Rule.statusCheck.id)).toList
    else []
  | none => []

end RequestLint.StatusCheck
