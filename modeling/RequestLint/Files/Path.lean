import RequestLint.Text.Part

/-! Paths as written: an anchor and a list of names. Empty names and `.` say
nothing and are dropped; `..` is kept, since only a file system can tell what
it leads to. -/
namespace RequestLint

/-- `anchor` is empty for a relative path. -/
structure Path where
  anchor : String
  names : List String
  deriving DecidableEq, Repr

namespace Path

/-- Two leading slashes are an anchor of their own; one, or three and more, are
the root. -/
def anchorOf : List Char → String
  | '/' :: '/' :: '/' :: _ => "/"
  | '/' :: '/' :: _ => "//"
  | '/' :: _ => "/"
  | _ => ""

def ofString (text : String) : Path where
  anchor := anchorOf text.toList
  names := ((Text.split (· = '/') text.toList).map String.ofList).filter (· ∉ ["", "."])

/-- No file has a name with a null character. -/
def hasNull (path : Path) : Bool := path.names.any fun name => '\x00' ∈ name.toList

def isAbsolute (path : Path) : Bool := path.anchor ≠ ""

def toString (path : Path) : String :=
  if path.anchor = "" ∧ path.names = [] then "."
  else path.anchor ++ String.intercalate "/" path.names

/-- The path of something below. -/
def join (path : Path) (names : List String) : Path := { path with names := path.names ++ names }

/-- Paths are compared part by part, the anchor being the first part. -/
def parts (path : Path) : List String :=
  if path.isAbsolute then path.anchor :: path.names else path.names

/-- The order of names, one after the other; a list comes after its beginnings. -/
def namesLe : List String → List String → Bool
  | [], _ => true
  | _ :: _, [] => false
  | a :: as, b :: bs => a < b || (a = b && namesLe as bs)

def le (a b : Path) : Bool := namesLe a.parts b.parts

/-- The suffix of a name: from its last dot on, unless that dot is the first or
the last character. -/
def suffixOf (name : String) : String :=
  let reversed := name.toList.reverse
  let extension := reversed.takeWhile (· ≠ '.')
  let stem := (reversed.dropWhile (· ≠ '.')).drop 1
  if extension = [] ∨ stem = [] then "" else String.ofList ('.' :: extension.reverse)

def suffix (path : Path) : String := (path.names.getLast?.map suffixOf).getD ""

end Path
end RequestLint
