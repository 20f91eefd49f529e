import RequestLint.Files.Store
import RequestLint.Language

/-! From the paths a user names to the source files to analyse, and the analysis
of one such file. -/
namespace RequestLint

/-- Dependencies and build output. -/
def excludedNames : List String := ["node_modules", ".git", "dist", "build"]

def Path.language? (path : Path) : Option Language := Language.ofSuffix? path.suffix

def Path.isSource (path : Path) : Bool := path.language?.isSome

namespace FileStore

/-- The source files that one named path stands for: itself, wherever it lies,
or everything below it that is not excluded on the way down from it. -/
def sourcesAt (store : FileStore) (path : Path) : List Path :=
  match store.place? path with
  | none => []
  | some place =>
    if store.isFileAt place then [path].filter Path.isSource
    else
      ((store.filesBelow place).filter fun names => !names.any (· ∈ excludedNames)).map path.join
        |>.filter Path.isSource

/-- All source files that the named paths stand for, in order and each once. -/
def discover (store : FileStore) (paths : List Path) : List Path :=
  ((paths.flatMap store.sourcesAt).mergeSort Path.le).eraseDups

end FileStore

/-- The diagnostics of a file; none if its suffix is not that of a source or it
cannot be read. -/
def Analysis.diagnoseFile? (analysis : Analysis) (parser : Parser) (store : FileStore) (path : Path) :
    Option (List Diagnostic) := do
  let language ← path.language?
  let source ← store.read? path
  some (analysis.diagnoseSource parser language source path.toString)

/-- The diagnostics of a file that is asked for by name. A source cannot be asked
for by a name that no file can have. -/
def Analysis.diagnoseNamed (analysis : Analysis) (parser : Parser) (store : FileStore) (path : Path) :
    Except AnalysisError (Option (List Diagnostic)) :=
  if path.isSource && path.hasNull then .error .nullInPath
  else .ok (analysis.diagnoseFile? parser store path)

/-- The tree of a file, whatever its suffix. -/
def Parser.parseFile? (parser : Parser) (store : FileStore) (language : Language) (path : Path) :
    Option Tree :=
  (store.read? path).map (parser language)

end RequestLint
