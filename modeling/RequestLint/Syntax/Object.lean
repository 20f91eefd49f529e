import RequestLint.Syntax.Expression
import RequestLint.Text.LetterCase

/-! Object literals read as options: entries, keys that can be known, and
values along a path of keys. Keys match without regard to letter case, and the
last entry of a key counts. -/
namespace RequestLint.Node

/-- The object literal that an expression is, without its wrappers. -/
def objectLiteral? (node : Node) : Option Node :=
  node.unwrap.filter (·.kind = "object")

/-- Pairs, shorthands, spreads and methods of an object literal. -/
def entries (node : Node) : List Node :=
  match node.objectLiteral? with
  | some object => object.parts
  | none => []

/-- The key of an entry, when it stands in the source. -/
def entryKey? (entry : Node) : Option String :=
  if entry.kind = "shorthand_property_identifier" then some entry.text
  else if entry.kind = "pair" then do
    let key ← entry.child? "key"
    if key.kind ∈ ["property_identifier", "identifier", "number"] then some key.text
    else if key.kind = "string" then key.stringValue?
    else none
  else none

/-- A shorthand is its own value. -/
def entryValue? (entry : Node) : Option Node :=
  if entry.kind = "shorthand_property_identifier" then some entry else entry.child? "value"

def hasKey (entry : Node) (key : String) : Bool :=
  entry.entryKey?.any (Text.lower · = Text.lower key)

/-- The last entry with the given key. -/
def lookup? (object : Node) (key : String) : Option Node :=
  (object.entries.filter (·.hasKey key)).getLast?

/-- A spread, or an entry with a computed key: it may stand for any key. -/
def isDynamicEntry (entry : Node) : Bool :=
  entry.isSpread ||
    (entry.kind ∈ ["pair", "method_definition"] &&
      ((entry.child? "key").or (entry.child? "name")).any (·.kind = "computed_property_name"))

def hasDynamicEntry (object : Node) : Bool := object.entries.any isDynamicEntry

/-- The value at the end of a path of keys through nested object literals. -/
def valueAt? (options : Option Node) (path : List String) : Option Node :=
  path.foldl (fun value key => (value.bind (·.lookup? key)).bind entryValue?) options

/-- The value of one key. -/
def value? (object : Node) (key : String) : Option Node := valueAt? (some object) [key]

/-- The path leads to a value and, when a test is given, to a string literal
that passes it. -/
def hasValueAt (options : Option Node) (path : List String) (test : Option (String → Bool)) : Bool :=
  match test with
  | none => (valueAt? options path).isSome
  | some test => ((valueAt? options path).bind stringValue?).any test

end RequestLint.Node
