import RequestLint.Text.LetterCase

/-! Icons in messages and what stands for them where a terminal cannot show
them. -/
namespace RequestLint.Terminal

/-- Every icon in use, with its plain form. -/
def icons : List (Char × String) :=
  [('✓', "[OK]"), ('✗', "[FAIL]"), ('⚠', "[WARN]"), ('🔧', "[fix]"), ('🔍', "[scan]"), ('→', "->"),
    ('•', "*"), ('…', "...")]

/-- In markup a bracket is escaped, lest the plain form reads as a tag. -/
def plainForm (markup : Bool) (form : String) : List Char :=
  if markup then form.toList.flatMap fun char => if char = '[' then ['\\', '['] else [char]
  else form.toList

def replaceChar (old : Char) (new : List Char) (text : List Char) : List Char :=
  text.flatMap fun char => if char = old then new else [char]

/-- Puts the plain form for every icon, one icon after the other. -/
def replaceIcons (markup : Bool) (text : String) : String :=
  String.ofList (icons.foldl
    (fun text (icon, form) => replaceChar icon (plainForm markup form) text) text.toList)

/-- The encoding of the terminal: its own if it names one, else the preferred
one, else ASCII. -/
def encoding (own preferred : Option String) : String :=
  match own.filter (· ≠ "") with
  | some name => Text.lower name
  | none => (preferred.map Text.lower).getD "ascii"

def utf8Names : List String := ["utf-8", "utf8", "utf_8"]

/-- The terminal shows icons. -/
def showsIcons (encoding : String) : Bool := encoding ∈ utf8Names

def sanitize (encoding : String) (markup : Bool) (text : String) : String :=
  if showsIcons encoding then text else replaceIcons markup text

end RequestLint.Terminal
