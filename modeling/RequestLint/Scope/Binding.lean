import RequestLint.Syntax.Chain

/-! Which name stands for the response of which call. Scopes follow function
boundaries: the unit has one of its own, and every function around the current
position has one. A name declared further in hides the same name further out,
even when the inner one stands for no call. -/
namespace RequestLint

inductive BindingKind where
  | declaration
  | assignment
  | callback
  deriving DecidableEq, Repr

/-- A name bound to a call. `origin` is the declarator, assignment or parameter
that bound it. -/
structure Binding where
  name : String
  site : Node
  kind : BindingKind
  origin : Node

/-- The names of one scope, each with the binding it has, if any. -/
abbrev Entries := List (String × Option Binding)

namespace Entries

/-- The last write of a name replaces earlier ones and keeps their place. -/
def insert (entries : Entries) (name : String) (bound : Option Binding) : Entries :=
  match entries with
  | [] => [(name, bound)]
  | (other, old) :: rest =>
    if other = name then (name, bound) :: rest else (other, old) :: insert rest name bound

def get? (entries : Entries) (name : String) : Option (Option Binding) := entries.lookup name

def declares (entries : Entries) (name : String) : Bool := (entries.get? name).isSome

end Entries

/-- The scope of a function that is being walked. -/
structure FunctionScope where
  owner : Node
  entries : Entries

/-- The live scopes: those of functions, innermost first, and that of the unit. -/
structure Scopes where
  functions : List FunctionScope := []
  unit : Entries := []

namespace Scopes

/-- All scopes, innermost first. -/
def layers (scopes : Scopes) : List Entries := scopes.functions.map (·.entries) ++ [scopes.unit]

/-- The binding of the innermost scope that knows the name. -/
def lookup (scopes : Scopes) (name : String) : Option Binding :=
  (scopes.layers.findSome? (·.get? name)).join

def declares (scopes : Scopes) (name : String) : Bool := scopes.layers.any (·.declares name)

/-- Writes a name in the innermost scope. -/
def set (scopes : Scopes) (name : String) (bound : Option Binding) : Scopes :=
  match scopes.functions with
  | [] => { scopes with unit := scopes.unit.insert name bound }
  | inner :: outer =>
    { scopes with functions := { inner with entries := inner.entries.insert name bound } :: outer }

/-- Writes a name in the innermost scope that knows it. -/
def assignIn (name : String) (bound : Option Binding) : List FunctionScope → List FunctionScope
  | [] => []
  | inner :: outer =>
    if inner.entries.declares name then
      { inner with entries := inner.entries.insert name bound } :: outer
    else inner :: assignIn name bound outer

/-- Writes a name where it is known, and else in the scope of the unit. -/
def assign (scopes : Scopes) (name : String) (bound : Option Binding) : Scopes :=
  if scopes.functions.any (·.entries.declares name) then
    { scopes with functions := assignIn name bound scopes.functions }
  else { scopes with unit := scopes.unit.insert name bound }

def declareAll (scopes : Scopes) (names : List String) : Scopes :=
  names.foldl (fun scopes name => scopes.set name none) scopes

def enter (scopes : Scopes) (owner : Node) : Scopes :=
  { scopes with functions := ⟨owner, []⟩ :: scopes.functions }

/-- Drops the innermost scope, provided it belongs to the function that ends. -/
def leave (scopes : Scopes) (function : Node) : Scopes :=
  match scopes.functions with
  | inner :: outer =>
    if inner.owner.sameSite function then { scopes with functions := outer } else scopes
  | [] => scopes

/-- The call whose response an expression is: itself, possibly awaited, or what
a name stands for. -/
def resolve? (scopes : Scopes) (target : String) (node : Node) : Option Node := do
  let value ← node.unwrapAwait
  if value.isTargetCall target then some value
  else if value.kind = "identifier" then (scopes.lookup value.text).map (·.site)
  else none

end Scopes

/-- The call that an initial value comes from: itself, possibly awaited, or the
start of the chain it is. -/
def Node.initialSite? (target : String) (value : Node) : Option Node := do
  let value ← value.unwrapAwait
  if value.isTargetCall target then some value
  else if value.isContinuation then value.anchor? target
  else none

end RequestLint
