import RequestLint.Terminal.Emoji
import RequestLint.Terminal.Style

/-! Console markup. A tag stands in brackets and begins with a lower-case letter
or one of `#`, `/` and `@`; it styles the text and does not show. A backslash
before a tag takes away its meaning, and two stand for one. A tag that begins with
`/` closes the last open tag of its style, or the last of all if it names none. -/
namespace RequestLint.Terminal

def opensTag (char : Char) : Bool := ('a' ≤ char && char ≤ 'z') || char ∈ ['#', '/', '@']

def inTag (char : Char) : Bool := char ≠ '[' && char ≠ ']'

/-- What the tag at the start of the text has between its brackets, and the text
after it. -/
def tag? : List Char → Option (List Char × List Char)
  | '[' :: first :: rest =>
    match (first :: rest).dropWhile inTag with
    | ']' :: after => if opensTag first then some ((first :: rest).takeWhile inTag, after) else none
    | _ => none
  | _ => none

theorem length_lt_of_tag? {text tag after : List Char} (found : tag? text = some (tag, after)) :
    after.length < text.length := by
  unfold tag? at found
  split at found
  · rename_i first rest
    have shorter := Text.length_dropWhile_le inTag (first :: rest)
    split at found
    · rename_i closed
      split at found
      · cases found
        rw [closed] at shorter
        simp only [List.length_cons] at *
        omega
      · cases found
    · cases found
  · cases found

def isSlash (char : Char) : Bool := char = '\\'

def slashes (count : Nat) : List Char := List.replicate count '\\'

/-- A tag at the start of the text: the number of backslashes before it, what it
has between its brackets, and the text after it. -/
def slashedTag? (text : List Char) : Option (Nat × List Char × List Char) :=
  (tag? (text.dropWhile isSlash)).map fun (tag, after) =>
    ((text.takeWhile isSlash).length, tag, after)

theorem length_lt_of_slashedTag? {text tag after : List Char} {count : Nat}
    (found : slashedTag? text = some (count, tag, after)) : after.length < text.length := by
  obtain ⟨⟨_, _⟩, read, same⟩ := Option.map_eq_some_iff.mp found
  obtain ⟨-, rest⟩ := Prod.mk.inj same
  obtain ⟨-, rfl⟩ := Prod.mk.inj rest
  exact Nat.lt_of_lt_of_le (length_lt_of_tag? read) (Text.length_dropWhile_le isSlash text)

/-- A stretch of text that shows, or a tag and the number of characters before
it. -/
inductive MarkupPart where
  | plain (text : List Char)
  | tag (position : Nat) (inner : List Char)
  deriving DecidableEq, Repr

/-- The parts of what follows `position` characters. The last of them, `before`,
are plain and belong to the part that is being read. -/
def partsFrom (position : Nat) (before : List Char) (text : List Char) : List MarkupPart :=
  match text with
  | [] => [.plain before]
  | char :: rest =>
    match _ : slashedTag? (char :: rest) with
    | some (count, tag, after) =>
      .plain before :: .plain (slashes (count / 2)) ::
        (if count % 2 = 1 then .plain ('[' :: tag ++ [']']) else .tag (position + count) tag) ::
        partsFrom (position + count + tag.length + 2) [] after
    | none => partsFrom (position + 1) (before ++ [char]) rest
termination_by text.length
decreasing_by
  · exact length_lt_of_slashedTag? ‹_›
  · exact Nat.lt_succ_self _

def parts (text : String) : List MarkupPart := partsFrom 0 [] text.toList

/-- A backslash before a bracket that opens no tag does not show. -/
def dropEscapes : List Char → List Char
  | [] => []
  | '\\' :: '[' :: rest => '[' :: dropEscapes rest
  | char :: rest => char :: dropEscapes rest

def MarkupPart.shown : MarkupPart → List Char
  | plain text => withEmoji (dropEscapes text)
  | tag .. => []

/-- What a text with markup shows. -/
def shown (text : String) : String := String.ofList ((parts text).flatMap MarkupPart.shown)

/-- Escapes every tag, and doubles the backslashes before it. -/
def escapeTags (text : List Char) : List Char :=
  match text with
  | [] => []
  | char :: rest =>
    match _ : slashedTag? (char :: rest) with
    | some (count, tag, after) =>
      slashes (2 * count + 1) ++ '[' :: tag ++ ']' :: escapeTags after
    | none => char :: escapeTags rest
termination_by text.length
decreasing_by
  · exact length_lt_of_slashedTag? ‹_›
  · exact Nat.lt_succ_self _

/-- The text as markup that shows it. A single backslash at the end is doubled,
so that it cannot reach what follows. -/
def escape (text : String) : String :=
  let escaped := escapeTags text.toList
  let trailing := (escaped.reverse.takeWhile isSlash).length
  String.ofList (if trailing = 1 then escaped ++ ['\\'] else escaped)

/-- A closing tag with nothing to close. -/
inductive MarkupError where
  | notOpen (tag : String) (position : Nat)
  | nothingOpen (position : Nat)
  deriving DecidableEq, Repr

def MarkupError.message : MarkupError → String
  | notOpen tag position =>
    "closing tag '[" ++ tag ++ "]' at position " ++ toString position ++
      " doesn't match any open tag"
  | nothingOpen position =>
    "closing tag '[/]' at position " ++ toString position ++ " has nothing to close"

/-- Reads one tag, given the styles that are open, the last first. What follows
`=` is a parameter and no part of the style. -/
def readTag (opened : List String) (position : Nat) (tag : List Char) :
    Except MarkupError (List String) :=
  match tag.takeWhile (· ≠ '=') with
  | '/' :: name =>
    if Text.trim (.ofList name) = "" then
      match opened with
      | [] => .error (.nothingOpen position)
      | _ :: rest => .ok rest
    else
      let style := Style.normalize (Text.trim (.ofList name))
      if style ∈ opened then .ok (opened.erase style) else .error (.notOpen (.ofList tag) position)
  | name => .ok (Style.normalize (.ofList name) :: opened)

/-- Reads the tags of a text, which has to open what it closes. -/
def readTags (opened : List String) : List MarkupPart → Except MarkupError (List String)
  | [] => .ok opened
  | .plain _ :: rest => readTags opened rest
  | .tag position tag :: rest =>
    match readTag opened position tag with
    | .ok opened => readTags opened rest
    | .error cause => .error cause

def checkTags (text : String) : Except MarkupError Unit := (readTags [] (parts text)).map fun _ => ()

end RequestLint.Terminal
