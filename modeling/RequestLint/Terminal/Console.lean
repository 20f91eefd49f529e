import RequestLint.Terminal.Icon

/-! A console over that of a terminal library. It puts the plain form for every icon
that it cannot show, and hands the texts on for the library to print. -/
namespace RequestLint.Terminal

/-- Where text is printed. -/
structure Console where
  asciiOnly : Bool
  markup : Bool := true

namespace Console

def readsMarkup (console : Console) (markup? : Option Bool) : Bool := markup?.getD console.markup

/-- A text with the icons that this console can show. -/
def withIcons (console : Console) (markup : Bool) (text : String) : String :=
  if console.asciiOnly then replaceIcons markup text else text

/-- What is handed on of the texts to be printed. -/
def handed (console : Console) (texts : List String) (markup? : Option Bool) : List String :=
  texts.map (console.withIcons (console.readsMarkup markup?))

end Console
end RequestLint.Terminal
