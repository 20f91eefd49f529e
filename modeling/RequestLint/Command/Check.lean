import RequestLint.Command.Report
import RequestLint.Settings.Session

/-! Running a command. All that a run depends on is a value, and so is all that
it does. Files are checked one after the other, each as those before it have
left the file system. -/
namespace RequestLint.Command

structure CheckArguments where
  paths : List String := []
  rules : List String := []
  target? : Option String := none
  acceptHandEncoded : Bool := false
  fix : Bool := false
  deriving DecidableEq, Repr

/-- What a command line can ask for. -/
inductive Request where
  | version
  | help
  | rules
  | check (arguments : CheckArguments)
  deriving DecidableEq, Repr

/-- Exit code, output and the files as a run leaves them. -/
structure Outcome where
  exit : Nat
  printed : List Printed
  files : FileStore

/-- What a run of `check` has gathered so far. -/
structure Progress where
  files : FileStore
  printed : List Printed := []
  problems : List Diagnostic := []
  fixed : Nat := 0

/-- Applies the fixes offered for a file. The diagnostics are then those of the
new content. -/
def repairFile (analysis : Analysis) (parser : Parser) (files : FileStore) (path : Path)
    (diagnostics : List Diagnostic) : FileStore × Nat × List Diagnostic :=
  match diagnostics.filterMap Diagnostic.fix?, files.read? path with
  | fix :: fixes, some source =>
    let repaired := files.write path (Fix.applyAll source (fix :: fixes))
    (repaired, (fix :: fixes).length,
      (analysis.diagnoseFile? parser repaired path).getD diagnostics)
  | _, _ => (files, 0, diagnostics)

/-- Checks one file, and repairs it if wanted. -/
def checkFile (world : World) (analysis : Analysis) (fix : Bool) (progress : Progress) (path : Path) :
    Progress :=
  match analysis.diagnoseFile? world.parser progress.files path with
  | none =>
    { progress with
      printed := progress.printed ++ [world.line ("[yellow]⚠ Skipped unreadable file:[/yellow] " ++
        world.escape (progress.files.display path))] }
  | some diagnostics =>
    let (files, fixed, remaining) :=
      if fix then repairFile analysis world.parser progress.files path diagnostics
      else (progress.files, 0, diagnostics)
    { progress with
      files := files
      problems := progress.problems ++ remaining
      fixed := progress.fixed + fixed }

/-- The closing lines of a run over `count` files, and its exit code. -/
def conclude (world : World) (count : Nat) (progress : Progress) : Outcome :=
  let fixes :=
    if progress.fixed = 0 then []
    else [world.line ("[bold blue]🔧 Applied " ++ toString progress.fixed ++ " fix(es)[/bold blue]")]
  if progress.problems = [] then
    ⟨0, progress.printed ++ fixes ++ [world.line ("[bold green]✓ No problems found in " ++
      toString count ++ " file(s)[/bold green]")], progress.files⟩
  else
    let affected := (progress.problems.map Diagnostic.file?).eraseDups.length
    ⟨1, progress.printed ++ fixes ++
      [.table (reportTable world progress.files progress.problems),
        world.line ("\n[bold red]✗ " ++ toString progress.problems.length ++ " problem(s) in " ++
          toString affected ++ " file(s)[/bold red]")], progress.files⟩

/-- Analyses the files that the paths stand for. -/
def checkPaths (world : World) (analysis : Analysis) (fix : Bool) (paths : List Path) : Outcome :=
  match paths.find? (!world.files.pathExists ·) with
  | some path =>
    ⟨1, [world.line ("[bold red]Error:[/bold red] Path does not exist: " ++
      world.escape path.toString)], world.files⟩
  | none =>
    let found := world.files.discover paths
    conclude world found.length
      (found.foldl (checkFile world analysis fix) { files := world.files })

def usageError (world : World) : Outcome := ⟨2, [], world.files⟩

/-- The settings that the environment and the default file give. -/
def settings (world : World) : Except SettingsError Settings :=
  match Session.get { environment := world.environment } world.loader world.files with
  | (.ok _, session) => Settings.read session.environment
  | (.error cause, _) => .error cause

/-- Options given on the command line win over settings. -/
def chosenOptions (arguments : CheckArguments) (settings : Settings) : Options where
  requireQueryBuilder := !arguments.acceptHandEncoded && settings.requireQueryBuilder
  target := (arguments.target?.filter (· ≠ "")).getD settings.target

def chosenRules (arguments : CheckArguments) (settings : Settings) : Option (List String) :=
  if arguments.rules = [] then settings.rules? else some arguments.rules

def check (world : World) (arguments : CheckArguments) : Outcome :=
  match settings world with
  | .error cause =>
    ⟨2, [world.line ("[bold red]Configuration error:[/bold red] " ++
      world.escape cause.message)], world.files⟩
  | .ok settings =>
    match Analysis.ofIds (chosenOptions arguments settings) (chosenRules arguments settings) with
    | .error _ => usageError world
    | .ok analysis => checkPaths world analysis arguments.fix (arguments.paths.map Path.ofString)

def versionText : String := "fetchlint 1.0.0"

/-- Runs what `read` makes of the words of a command line. -/
def run (read : List String → Option Request) (world : World) (words : List String) : Outcome :=
  match read words with
  | none => usageError world
  | some .help => ⟨0, [], world.files⟩
  | some .version => ⟨0, [world.line versionText], world.files⟩
  | some .rules => ⟨0, [.table (rulesTable world)], world.files⟩
  | some (.check arguments) => check world arguments

end RequestLint.Command
