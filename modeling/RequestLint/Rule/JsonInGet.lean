import RequestLint.Rule

/-! A request that only reads must not carry serialised JSON. A request without
a method is a GET; a method that is no string literal is not judged. -/
namespace RequestLint.JsonInGet

def readingMethods : List String := ["GET", "HEAD", "OPTIONS"]

/-- The method of a request with the given options, as far as it is known. -/
def method? (options : Node) : Option String :=
  match options.lookup? "method" with
  | some entry => entry.entryValue?.bind Node.stringValue?
  | none => if options.hasDynamicEntry then none else some "GET"

def verdict? (call : Node) : Option Verdict := do
  let options ← (call.argument? 1).bind Node.objectLiteral?
  let method ← method? options
  if Text.upper method ∈ readingMethods ∧ (options.value? "body").any Node.isJsonSerialization then
    some ⟨.jsonInGetRequest, call, none⟩
  else none

end RequestLint.JsonInGet
