/-! White space: the characters that trimming removes. -/
namespace RequestLint.Text

/-- White space by bidirectional class or category, which besides the usual
blanks includes the four information separators. -/
def isBlank (char : Char) : Bool :=
  let code := char.toNat
  (0x09 ≤ code && code ≤ 0x0D) || (0x1C ≤ code && code ≤ 0x20) || code = 0x85 || code = 0xA0 ||
    code = 0x1680 || (0x2000 ≤ code && code ≤ 0x200A) || code = 0x2028 || code = 0x2029 ||
    code = 0x202F || code = 0x205F || code = 0x3000

def trimLeft (chars : List Char) : List Char := chars.dropWhile isBlank

def trimRight (chars : List Char) : List Char := (trimLeft chars.reverse).reverse

/-- The text without the white space at its ends. -/
def trim (text : String) : String := String.ofList (trimRight (trimLeft text.toList))

end RequestLint.Text
