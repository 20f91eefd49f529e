import RequestLint.Command.Check

/-! The command line: `[--version] check PATH… [OPTION…]` or `rules`. Options of
a command may stand anywhere after it, and `--` ends them. -/
namespace RequestLint.Command

/-- What the words after `check` ask for. -/
structure CheckWords where
  arguments : CheckArguments := {}
  help : Bool := false
  deriving DecidableEq, Repr

/-- An option that takes a value. -/
inductive ValueOption where
  | rule
  | target
  deriving DecidableEq, Repr

inductive Flag where
  | acceptHandEncoded
  | fix
  | help
  deriving DecidableEq, Repr

/-- What one word of the command line is. A long option may carry its value
after `=`, and a short one right after its letter. -/
inductive Word where
  | positional
  | endOfOptions
  | valued (option : ValueOption) (value? : Option String)
  | flag (flag : Flag)
  | unknown
  deriving DecidableEq, Repr

/-- A long option, split at its first `=`. -/
def splitLong (chars : List Char) : String × Option String :=
  match chars.span (· ≠ '=') with
  | (name, []) => (.ofList name, none)
  | (name, _ :: value) => (.ofList name, some (.ofList value))

def checkWord (word : String) : Word :=
  match word.toList with
  | ['-', '-'] => .endOfOptions
  | '-' :: '-' :: _ =>
    match splitLong word.toList with
    | ("--rule", value?) => .valued .rule value?
    | ("--target", value?) => .valued .target value?
    | ("--no-require-query-builder", none) => .flag .acceptHandEncoded
    | ("--fix", none) => .flag .fix
    | ("--help", none) => .flag .help
    | _ => .unknown
  | '-' :: letter :: value =>
    let value? := if value = [] then none else some (String.ofList value)
    if letter = 'r' then .valued .rule value?
    else if letter = 't' then .valued .target value?
    else .unknown
  | _ => .positional

/-- Rules add up; the last target counts. -/
def CheckArguments.give (arguments : CheckArguments) (value : String) :
    ValueOption → CheckArguments
  | .rule => { arguments with rules := arguments.rules ++ [value] }
  | .target => { arguments with target? := some value }

namespace CheckWords

def give (asked : CheckWords) (value : String) (option : ValueOption) : CheckWords :=
  { asked with arguments := asked.arguments.give value option }

def addPaths (asked : CheckWords) (paths : List String) : CheckWords :=
  { asked with arguments.paths := asked.arguments.paths ++ paths }

def raise (asked : CheckWords) : Flag → CheckWords
  | .acceptHandEncoded => { asked with arguments.acceptHandEncoded := true }
  | .fix => { asked with arguments.fix := true }
  | .help => { asked with help := true }

/-- Reads the words after `check`. None is a usage error. -/
def read (asked : CheckWords) : List String → Option CheckWords
  | [] => some asked
  | word :: rest =>
    match checkWord word with
    | .positional => (asked.addPaths [word]).read rest
    | .endOfOptions => some (asked.addPaths rest)
    | .valued option (some value) => (asked.give value option).read rest
    | .valued option none =>
      match rest with
      | value :: rest => (asked.give value option).read rest
      | [] => none
    | .flag flag => (asked.raise flag).read rest
    | .unknown => none

end CheckWords

/-- Reads the words after `rules`: whether help is wanted, and the number of
words that are no options. -/
def readRulesWords (help : Bool) (extra : Nat) : List String → Option (Bool × Nat)
  | [] => some (help, extra)
  | word :: rest =>
    match checkWord word with
    | .positional => readRulesWords help (extra + 1) rest
    | .endOfOptions => some (help, extra + rest.length)
    | .flag .help => readRulesWords true extra rest
    | _ => none

/-- The words after `check`. Asking for help comes before missing words. -/
def readCheck (words : List String) : Option Request := do
  let asked ← ({} : CheckWords).read words
  if asked.help then some .help
  else if asked.arguments.paths = [] then none
  else some (.check asked.arguments)

/-- The words after `rules`. Asking for help comes before surplus words. -/
def readRules (words : List String) : Option Request := do
  let (help, extra) ← readRulesWords false 0 words
  if help then some .help else if extra = 0 then some .rules else none

/-- The options before the command: what they ask for, and the words after them.
Of `--version` and `--help` the first counts. None is an unknown option. -/
def readOptions (asked : Option Request) : List String → Option (Option Request × List String)
  | "--version" :: words => readOptions (asked.or (some .version)) words
  | "--help" :: words => readOptions (asked.or (some .help)) words
  | "--" :: words => some (asked, words)
  | word :: words =>
    if word.toList.head? = some '-' ∧ word ≠ "-" then none else some (asked, word :: words)
  | [] => some (asked, [])

/-- Reads a whole command line. Words in place of a command are read once more as
options, so that `--` does not keep anyone from asking for the version or help. -/
def Request.read (words : List String) : Option Request := do
  let (asked, rest) ← readOptions none words
  match asked, rest with
  | some request, _ => some request
  | none, "check" :: words => readCheck words
  | none, "rules" :: words => readRules words
  | none, other => (readOptions none other).bind Prod.fst

end RequestLint.Command
