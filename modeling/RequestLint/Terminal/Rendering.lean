import RequestLint.Terminal.CellTable
import RequestLint.Terminal.Markup

/-! What a terminal shows of the texts that it is handed. Markup and emoji codes take
effect, controls are left out, and a tab fills up to the next multiple of eight cells. -/
namespace RequestLint.Terminal

/-- Controls that would move the cursor or sound the bell are not printed. -/
def isPrinted (char : Char) : Bool := char ∉ ['\x07', '\x08', '\x0B', '\x0C', '\r']

def printed (text : String) : String := String.ofList (text.toList.filter isPrinted)

/-- The cells that a character takes. -/
def cells (char : Char) : Nat :=
  if Text.inRanges zeroWidthRanges char then 0
  else if Text.inRanges doubleWidthRanges char then 2
  else 1

def tabWidth : Nat := 8

/-- Fills up tabs with spaces, `column` cells into a line. -/
def fillTabs (column : Nat) : List Char → List Char
  | [] => []
  | '\n' :: rest => '\n' :: fillTabs 0 rest
  | '\t' :: rest =>
    let filled := tabWidth - column % tabWidth
    List.replicate filled ' ' ++ fillTabs (column + filled) rest
  | char :: rest => char :: fillTabs (column + cells char) rest

/-- A text as it shows, with its markup or without any. -/
def rendered (markup : Bool) (text : String) : String :=
  printed (if markup then shown text else String.ofList (withEmoji text.toList))

/-- One line with some texts. -/
def line (markup : Bool) (texts : List String) : String :=
  String.ofList (fillTabs 0 (String.intercalate " " (texts.map (rendered markup))).toList) ++ "\n"

/-- Prints some texts on one line, provided that their markup is sound. -/
def print (markup : Bool) (texts : List String) : Except MarkupError String := do
  if markup then texts.forM checkTags
  return line markup texts

end RequestLint.Terminal
