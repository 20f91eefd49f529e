import RequestLint.Files.Discovery
import RequestLint.Settings.Environment
import RequestLint.Terminal.Console

/-! What a run depends on and what it hands to the terminal: lines with markup, and
tables of problems and of rules. -/
namespace RequestLint.Command

/-- What the outside world supplies, the libraries among it: a parser, a loader of
environment files, and what makes of a text the markup that shows it. -/
structure World where
  files : FileStore
  environment : Environment
  encoding : String
  parser : Parser
  loader : Environment.Loader
  escape : String → String

/-- A table of texts with markup. -/
structure Table where
  title : String
  header : List String
  rows : List (List String)
  deriving DecidableEq, Repr

inductive Printed where
  | text (text : String)
  | table (table : Table)
  deriving DecidableEq, Repr

namespace World

def console (world : World) : Terminal.Console := ⟨!Terminal.showsIcons world.encoding, true⟩

/-- A line with markup, as it is handed on. -/
def line (world : World) (text : String) : Printed :=
  .text (world.console.withIcons (world.console.readsMarkup none) text)

end World

/-- The order of reported problems: by file, position and rule. -/
def reportKey (diagnostic : Diagnostic) : String × Nat × Nat × String :=
  (diagnostic.file?.getD "", diagnostic.position.line, diagnostic.position.column, diagnostic.rule)

def reportedBefore (a b : Diagnostic) : Bool :=
  let (file, line, column, rule) := reportKey a
  let (file', line', column', rule') := reportKey b
  file < file' || (file = file' && (line < line' || (line = line' && (column < column' ||
    (column = column' && rule ≤ rule')))))

def reportOrder (diagnostics : List Diagnostic) : List Diagnostic :=
  diagnostics.mergeSort reportedBefore

def reportRow (world : World) (files : FileStore) (diagnostic : Diagnostic) : List String :=
  [world.escape ((diagnostic.file?.map fun file => files.display (.ofString file)).getD "<source>"),
    toString diagnostic.position.line, toString diagnostic.position.column, diagnostic.rule,
    world.escape diagnostic.message]

def reportTable (world : World) (files : FileStore) (diagnostics : List Diagnostic) : Table where
  title := Terminal.sanitize world.encoding true "🔍 fetch() contract violations"
  header := ["File", "Line", "Col", "Rule", "Message"]
  rows := (reportOrder diagnostics).map (reportRow world files)

def rulesTable (world : World) : Table where
  title := "fetchlint rules"
  header := ["Rule", "Message IDs", "Description"]
  rows := Rule.all.map fun rule =>
    [rule.id, String.intercalate ", " (rule.messages.map (·.id)), world.escape rule.description]

end RequestLint.Command
