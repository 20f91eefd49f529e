import RequestLint.Files.Path
import RequestLint.Text.Utf8

/-! A file system as a value: files with their content, further directories and
a working directory. A place is a list of names from the root, without `..`.
There are no links, so a place has one name. -/
namespace RequestLint

abbrev Place := List String

/-- What is `unreadable` is there, but cannot be read as a source. -/
structure FileStore where
  files : List (Place × Bytes) := []
  directories : List Place := []
  unreadable : List Place := []
  workingDirectory : Place := []

namespace FileStore

def isFileAt (store : FileStore) (place : Place) : Bool := store.files.any (·.1 = place)

/-- A directory is there when it was made, or when something lies in it. -/
def isDirectoryAt (store : FileStore) (place : Place) : Bool :=
  place.isPrefixOf store.workingDirectory || store.directories.any place.isPrefixOf ||
    store.files.any fun (file, _) => place.isPrefixOf file && place ≠ file

/-- Follows names from a directory. Every step, `..` included, needs a directory
to step from. -/
def follow? (store : FileStore) : Place → List String → Option Place
  | place, [] => some place
  | place, name :: rest =>
    if store.isDirectoryAt place then
      store.follow? (if name = ".." then place.dropLast else place ++ [name]) rest
    else none

/-- Where a path starts from. -/
def base (store : FileStore) (path : Path) : Place :=
  if path.isAbsolute then [] else store.workingDirectory

/-- The place that a path denotes, whether or not something is there. -/
def place? (store : FileStore) (path : Path) : Option Place :=
  store.follow? (store.base path) path.names

def isFile (store : FileStore) (path : Path) : Bool := (store.place? path).any store.isFileAt

/-- A path whose names cannot be followed denotes nothing. -/
def pathExists (store : FileStore) (path : Path) : Bool :=
  (store.place? path).any fun place => store.isFileAt place || store.isDirectoryAt place

def content? (store : FileStore) (path : Path) : Option Bytes := do
  store.files.lookup (← store.place? path)

/-- The content of a file that may be read as a source. -/
def read? (store : FileStore) (path : Path) : Option Bytes := do
  let place ← store.place? path
  if place ∈ store.unreadable then none else store.files.lookup place

/-- Replaces the content of a file. -/
def write (store : FileStore) (path : Path) (content : Bytes) : FileStore :=
  match store.place? path with
  | none => store
  | some place =>
    { store with
      files := store.files.map fun (file, old) => (file, if file = place then content else old) }

/-- The files below a directory, as names from there. -/
def filesBelow (store : FileStore) (place : Place) : List (List String) :=
  (store.files.filter fun (file, _) => place.isPrefixOf file && place ≠ file).map fun (file, _) =>
    file.drop place.length

/-- Files whose content differs, with what it is afterwards. -/
def changes (before after : FileStore) : List (Place × Bytes) :=
  after.files.filter fun (file, content) => before.files.lookup file ≠ some content

/-- The place that a path spells, with `..` undone by name alone. -/
def resolve (store : FileStore) (path : Path) : Place :=
  path.names.foldl (fun place name => if name = ".." then place.dropLast else place ++ [name])
    (store.base path)

/-- The path to show to a reader: from the working directory if it lies below,
and else as it was written. -/
def display (store : FileStore) (path : Path) : String :=
  let place := store.resolve path
  if !path.hasNull && store.workingDirectory.isPrefixOf place then
    (Path.mk "" (place.drop store.workingDirectory.length)).toString
  else path.toString

end FileStore
end RequestLint
