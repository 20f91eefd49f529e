import RequestLint.Terminal.EmojiTable
import RequestLint.Text.Blank
import RequestLint.Text.LetterCase
import RequestLint.Text.Part

/-! Emoji codes. A name between colons, without blanks, stands for an emoji; after
the name, `-emoji` or `-text` asks for the coloured or the plain variant. A code
of no known name shows as it is written, with both its colons. -/
namespace RequestLint.Terminal

/-- The variants that a name may end in, and the selectors that ask for them. -/
def emojiVariants : List (String × Char) := [("-emoji", '\uFE0F'), ("-text", '\uFE0E')]

/-- A name without its variant, and the selector of that. -/
def splitVariant (code : String) : String × List Char :=
  match emojiVariants.find? fun (ending, _) => Text.endsIn code ending with
  | some (ending, selector) =>
    (.ofList (code.toList.take (code.length - ending.length)), [selector])
  | none => (code, [])

/-- What stands for a code between colons. -/
def shownCode (code : List Char) : List Char :=
  let (name, selector) := splitVariant (.ofList code)
  match emojiTable.lookup (Text.lower name) with
  | some emoji => emoji.toList ++ selector
  | none => ':' :: code ++ [':']

def inCode (char : Char) : Bool := char ≠ ':' && !Text.isBlank char

/-- A code from after its first colon, and what follows its second. -/
def code? (text : List Char) : Option (List Char × List Char) :=
  match text.dropWhile inCode with
  | ':' :: after => some (text.takeWhile inCode, after)
  | _ => none

theorem length_lt_of_code? {text code after : List Char} (found : code? text = some (code, after)) :
    after.length < text.length := by
  have shorter := Text.length_dropWhile_le inCode text
  unfold code? at found
  split at found
  · rename_i rest
    cases found
    rw [rest, List.length_cons] at shorter
    omega
  · cases found

/-- A text with an emoji for each code. -/
def withEmoji (text : List Char) : List Char :=
  match text with
  | [] => []
  | char :: rest =>
    if char = ':' then
      match _ : code? rest with
      | some (code, after) => shownCode code ++ withEmoji after
      | none => char :: withEmoji rest
    else char :: withEmoji rest
termination_by text.length
decreasing_by
  · exact Nat.lt_succ_of_lt (length_lt_of_code? ‹_›)
  · exact Nat.lt_succ_self _
  · exact Nat.lt_succ_self _

end RequestLint.Terminal
