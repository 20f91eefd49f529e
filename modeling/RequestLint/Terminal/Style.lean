import RequestLint.Terminal.ColorTable
import RequestLint.Text.Blank
import RequestLint.Text.LetterCase
import RequestLint.Text.Part

/-! Styles of marked text. A style lists effects, a colour, a background and a
link, in any order and under short or long names. Two spellings of one style have
the same normal form, which is how a closing tag finds what it closes. -/
namespace RequestLint.Terminal

/-- The effects in the order of the normal form, with their short names. -/
def effectNames : List (String × List String) :=
  [("bold", ["b"]), ("dim", ["d"]), ("italic", ["i"]), ("underline", ["u"]), ("blink", []),
    ("blink2", []), ("reverse", ["r"]), ("conceal", ["c"]), ("strike", ["s"]),
    ("underline2", ["uu"]), ("frame", []), ("encircle", []), ("overline", ["o"])]

def effect? (word : String) : Option String :=
  (effectNames.find? fun (name, short) => word = name || word ∈ short).map Prod.fst

/-- A number in decimal digits that fits a byte. -/
def isByteText (digits : List Char) : Bool :=
  digits ≠ [] && digits.all Char.isDigit && (String.ofList digits).toNat?.any (· < 256)

/-- What a call of a function of this name has between its parentheses. -/
def inParentheses? (name word : String) : Option (List Char) :=
  let start := name.toList ++ ['(']
  if start.isPrefixOf word.toList && word.toList.getLast? = some ')' then
    some ((word.toList.drop start.length).dropLast)
  else none

def isHexDigit (char : Char) : Bool := char.isDigit || ('a' ≤ char && char ≤ 'f')

/-- A colour by name, by number, by its three parts, or in hexadecimal. -/
def isColor (word : String) : Bool :=
  word = "default" || word ∈ colorNames ||
    (word.toList.head? = some '#' && word.length = 7 && (word.toList.drop 1).all isHexDigit) ||
    (inParentheses? "color" word).any (fun digits => digits.length ≤ 3 && isByteText digits) ||
    (inParentheses? "rgb" word).any fun inner =>
      let parts := Text.split (· = ',') inner
      parts.length = 3 && parts.all isByteText

structure Style where
  effects : List (String × Bool) := []
  color? : Option String := none
  background? : Option String := none
  link? : Option String := none
  deriving DecidableEq, Repr

namespace Style

def setEffect (style : Style) (name : String) (value : Bool) : Style :=
  { style with effects := (name, value) :: style.effects }

/-- Reads the words of a style. A later word wins over an earlier one. -/
def readWords (style : Style) : List String → Option Style
  | [] => some style
  | word :: rest =>
    match Text.lower word, rest with
    | "on", color :: rest =>
      let name := Text.lower color
      if isColor name then readWords { style with background? := some name } rest else none
    | "on", [] => none
    | "not", name :: rest =>
      match effect? name with
      | some effect => readWords (style.setEffect effect false) rest
      | none => none
    | "not", [] => none
    | "link", target :: rest => readWords { style with link? := some target } rest
    | "link", [] => none
    | name, rest =>
      match effect? name with
      | some effect => readWords (style.setEffect effect true) rest
      | none => if isColor name then readWords { style with color? := some name } rest else none

/-- The words of the normal form. -/
def words (style : Style) : List String :=
  (effectNames.filterMap fun (name, _) =>
      (style.effects.lookup name).map fun value => if value then name else "not " ++ name) ++
    style.color?.toList ++ (style.background?.map ("on " ++ ·)).toList ++
    (style.link?.map ("link " ++ ·)).toList

/-- The normal form of a style; text that is no style is trimmed and lowered. -/
def normalize (text : String) : String :=
  let words := ((Text.split Text.isBlank text.toList).filter (· ≠ [])).map String.ofList
  match readWords {} words with
  | some style => if style.words = [] then "none" else String.intercalate " " style.words
  | none => Text.lower (Text.trim text)

end Style
end RequestLint.Terminal
