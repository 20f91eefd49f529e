import RequestLint.Scope.Binding
import RequestLint.Syntax.Pattern
import RequestLint.Syntax.Walk

/-! Bindings along a walk. Parameters are declared when their function is
entered; a declarator or assignment binds its name only when it is left, so
whatever stands inside it still sees the previous binding. The tracker keeps a
history of what there is to observe: bindings as they are made, and nodes as
they are entered, with the scopes of that moment. -/
namespace RequestLint

inductive Observation where
  | bound (binding : Binding)
  | entered (node : Node) (scopes : Scopes)

/-- `history` holds the newest observation first. -/
structure Tracker where
  target : String
  scopes : Scopes := {}
  history : List Observation := []

namespace Tracker

/-- The call whose response reaches `function` as `call.then(function)`. -/
def callbackSite? (tracker : Tracker) (function : Node) : Option Node := do
  let list ← function.context?
  let call ← list.parent?
  let handler ← call.argument? 0
  if list.kind = "arguments" ∧ call.methodName? = some "then" ∧
      handler.sameSite function.outermost then
    call.receiver?.bind (tracker.scopes.resolve? tracker.target)
  else none

/-- Records a binding made in the innermost scope. -/
def bind (tracker : Tracker) (binding : Binding) : Tracker :=
  { tracker with
    scopes := tracker.scopes.set binding.name (some binding)
    history := .bound binding :: tracker.history }

/-- Opens the scope of a function. The response handed to a success callback is
looked for before the parameters can hide a name. -/
def enterFunction (tracker : Tracker) (function : Node) : Tracker :=
  let site? := tracker.callbackSite? function
  let parameters := function.parameters
  let opened := { tracker with
    scopes := (tracker.scopes.enter function).declareAll (parameters.flatMap Node.boundNames) }
  match site?, parameters with
  | some site, first :: _ =>
    if first.kind = "identifier" then opened.bind ⟨first.text, site, .callback, first⟩ else opened
  | _, _ => opened

/-- A declarator binds its name to the call it is initialised from, or declares
its names as standing for no call. -/
def leaveDeclarator (tracker : Tracker) (declarator : Node) : Tracker :=
  match declarator.child? "name" with
  | none => tracker
  | some name =>
    if name.kind = "identifier" then
      match (declarator.child? "value").bind (Node.initialSite? tracker.target) with
      | some site => tracker.bind ⟨name.text, site, .declaration, declarator⟩
      | none => { tracker with scopes := tracker.scopes.set name.text none }
    else { tracker with scopes := tracker.scopes.declareAll name.boundNames }

/-- An assignment writes where the name is known. A name known nowhere becomes
one of the unit, if it is assigned a call. -/
def leaveAssignment (tracker : Tracker) (assignment : Node) : Tracker :=
  match (assignment.child? "left").filter (·.kind = "identifier") with
  | none => tracker
  | some left =>
    match (assignment.child? "right").bind (Node.initialSite? tracker.target) with
    | some site =>
      let binding : Binding := ⟨left.text, site, .assignment, assignment⟩
      { tracker with
        scopes := tracker.scopes.assign left.text (some binding)
        history := .bound binding :: tracker.history }
    | none =>
      if tracker.scopes.declares left.text then
        { tracker with scopes := tracker.scopes.assign left.text none }
      else tracker

/-- One visit. A node is observed after the tracker itself has acted on it. -/
def step (tracker : Tracker) : Visit → Tracker
  | .enter node =>
    let tracker := if node.isFunctionLike then tracker.enterFunction node else tracker
    { tracker with history := .entered node tracker.scopes :: tracker.history }
  | .leave node =>
    if node.isFunctionLike then { tracker with scopes := tracker.scopes.leave node }
    else if node.kind = "variable_declarator" then tracker.leaveDeclarator node
    else if node.kind = "assignment_expression" then tracker.leaveAssignment node
    else tracker

/-- The tracker after a walk through the whole tree. -/
def walk (target : String) (root : Node) : Tracker :=
  Walk.fold step { target := target } root

end Tracker
end RequestLint
