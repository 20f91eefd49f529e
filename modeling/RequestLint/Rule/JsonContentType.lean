import RequestLint.Rule
import RequestLint.Text.Part

/-! A request whose body is serialised JSON has to say so in its headers. A
missing header can be inserted. Headers that the source does not spell out, for
a spread or a computed key, are not judged. -/
namespace RequestLint.JsonContentType

def mediaType : String := "application/json"
def headerEntry : String := "\"Content-Type\": \"application/json\""
def headersEntry : String := "headers: \x7b " ++ headerEntry ++ " \x7d"

/-- Missing from `object`, where `entry` would supply it. Of a literal with
syntax errors only the finding is reported. -/
def missing (object : Node) (entry : String) : Verdict :=
  ⟨.missingContentType, object, (Fix.insertEntry object entry).toOption⟩

/-- Judges headers that are spelled out. -/
def headersVerdict? (headers : Node) : Option Verdict :=
  match headers.lookup? "content-type" with
  | none => if headers.hasDynamicEntry then none else some (missing headers headerEntry)
  | some contentType => do
    let value ← contentType.entryValue?.bind Node.stringValue?
    if Text.contains (Text.lower value) mediaType then none
    else some ⟨.incorrectContentType, headers, none⟩

/-- Judges the options of a request. -/
def optionsVerdict? (options : Node) : Option Verdict :=
  if (options.value? "body").any Node.isJsonSerialization then
    match options.lookup? "headers" with
    | none => if options.hasDynamicEntry then none else some (missing options headersEntry)
    | some entry => (entry.entryValue?.bind Node.objectLiteral?).bind headersVerdict?
  else none

def verdict? (call : Node) : Option Verdict :=
  ((call.argument? 1).bind Node.objectLiteral?).bind optionsVerdict?

end RequestLint.JsonContentType
