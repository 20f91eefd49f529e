import RequestLint.Text.LetterCase
import RequestLint.Text.PrintableTable

/-! Values quoted for a message, so that a reader sees where they begin and end
and which characters they hold. -/
namespace RequestLint.Text

def isPrintable (char : Char) : Bool := !inRanges unprintableRanges char

/-- A code in hexadecimal, padded to a width. -/
def hex (width code : Nat) : List Char :=
  let digits := Nat.toDigits 16 code
  List.replicate (width - digits.length) '0' ++ digits

/-- The quote is escaped, and so is what would not show. -/
def quoteChar (mark char : Char) : List Char :=
  if char = mark || char = '\\' then ['\\', char]
  else if char = '\t' then ['\\', 't']
  else if char = '\n' then ['\\', 'n']
  else if char = '\r' then ['\\', 'r']
  else if isPrintable char then [char]
  else if char.toNat < 0x100 then '\\' :: 'x' :: hex 2 char.toNat
  else if char.toNat < 0x10000 then '\\' :: 'u' :: hex 4 char.toNat
  else '\\' :: 'U' :: hex 8 char.toNat

/-- Single quotes, unless the text holds a single quote and no double one. -/
def quoteMark (chars : List Char) : Char :=
  if '\'' ∈ chars ∧ '"' ∉ chars then '"' else '\''

def quote (text : String) : String :=
  let mark := quoteMark text.toList
  String.ofList (mark :: text.toList.flatMap (quoteChar mark) ++ [mark])

end RequestLint.Text
