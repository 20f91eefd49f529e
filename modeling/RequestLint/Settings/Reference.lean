import RequestLint.Text.Part

/-! Values that refer to variables. A reference is `$` with a name in braces; after
the name, `:-` and a text give what stands for a variable that is missing. Braces
that do not read so are plain characters. -/
namespace RequestLint

/-- A piece of a value. Without a fallback, a missing variable is empty. -/
inductive ValuePart where
  | plain (char : Char)
  | reference (name fallback : String)
  deriving DecidableEq, Repr

namespace ValuePart

def endsName (char : Char) : Bool := char = ':' || char = '\x7D'

/-- A reference from after its opening brace, and what follows it. -/
def reference? (text : List Char) : Option (ValuePart × List Char) :=
  let name := String.ofList (text.takeWhile (!endsName ·))
  match text.dropWhile (!endsName ·) with
  | '\x7D' :: after => some (.reference name "", after)
  | ':' :: '-' :: rest =>
    match rest.dropWhile (· ≠ '\x7D') with
    | _ :: after => some (.reference name (.ofList (rest.takeWhile (· ≠ '\x7D'))), after)
    | [] => none
  | _ => none

theorem length_reference? {text after : List Char} {part : ValuePart}
    (read : reference? text = some (part, after)) : after.length < text.length := by
  have outer := Text.length_dropWhile_le (!endsName ·) text
  unfold reference? at read
  grind [Text.length_dropWhile_le]

def ofText (text : List Char) : List ValuePart :=
  match text with
  | [] => []
  | char :: rest =>
    if char = '$' ∧ rest.head? = some '\x7B' then
      match _read : reference? rest.tail with
      | some (part, after) => part :: ofText after
      | none => .plain char :: ofText rest
    else .plain char :: ofText rest
termination_by text.length
decreasing_by
  · have := length_reference? _read
    simp only [List.length_tail] at this
    simp only [List.length_cons]
    omega
  · simp
  · simp

def name? : ValuePart → Option String
  | plain _ => none
  | reference name _ => some name

/-- What a part stands for, when `meaning` says what the variables stand for. -/
def fill (meaning : String → Option String) : ValuePart → List Char
  | plain char => [char]
  | reference name fallback => ((meaning name).getD fallback).toList

end ValuePart
end RequestLint
