/-! Parts of a text. -/
namespace RequestLint.Text

/-- The stretches between the characters to cut at. -/
def split (cut : Char → Bool) : List Char → List (List Char)
  | [] => [[]]
  | char :: rest =>
    if cut char then [] :: split cut rest
    else
      match split cut rest with
      | first :: later => (char :: first) :: later
      | [] => [[char]]

/-- Some stretch of `chars` reads `part`. -/
def holdsPart (part : List Char) : List Char → Bool
  | [] => part.isEmpty
  | char :: rest => part.isPrefixOf (char :: rest) || holdsPart part rest

def contains (text part : String) : Bool := holdsPart part.toList text.toList

def endsIn (text ending : String) : Bool := ending.toList.isSuffixOf text.toList

theorem length_dropWhile_le (test : Char → Bool) (chars : List Char) :
    (chars.dropWhile test).length ≤ chars.length :=
  (List.dropWhile_suffix test).length_le

end RequestLint.Text
