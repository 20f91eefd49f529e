import RequestLint.Proofs.Command.Repair
import RequestLint.Proofs.Files.Path
import RequestLint.Proofs.Files.Writing
import RequestLint.Proofs.Settings.LifeCycle
import Mathlib.Data.Prod.Lex
import Mathlib.Data.String.Basic

/-! What a run leaves behind and what it says about that. Files are diagnosed,
rewritten and diagnosed again one after the other. As long as no two paths denote one
file, no rewriting reaches into what was said about another file, so the report of a
run is that of the files as they are in the end. -/
namespace RequestLint.Command
open FileStore

variable {world : World} {analysis : Analysis} {parser : Parser} {fix : Bool}
  {before middle after files : FileStore} {path : Path} {paths : List Path}

/-- The content that a run gives to a file: the old one with the fixes applied that are
offered for it. Without any, the file is not written. -/
def rewritten? (analysis : Analysis) (parser : Parser) (fix : Bool) (files : FileStore)
    (path : Path) : Option Bytes := do
  let diagnostics ← analysis.diagnoseFile? parser files path
  let source ← files.read? path
  let fixes := diagnostics.filterMap Diagnostic.fix?
  if fix = true ∧ fixes ≠ [] then some (Fix.applyAll source fixes) else none

theorem rewritten?_eq_some_iff {content : Bytes} :
    rewritten? analysis parser fix files path = some content ↔
      ∃ diagnostics source, analysis.diagnoseFile? parser files path = some diagnostics ∧
        files.read? path = some source ∧ fix = true ∧
        diagnostics.filterMap Diagnostic.fix? ≠ [] ∧
        Fix.applyAll source (diagnostics.filterMap Diagnostic.fix?) = content := by
  simp only [rewritten?, Option.bind_eq_bind, Option.bind_eq_some_iff,
    Option.ite_none_right_eq_some, Option.some.injEq, and_assoc]
  constructor
  · rintro ⟨diagnostics, diagnosed, source, read, wanted⟩
    exact ⟨diagnostics, source, diagnosed, read, wanted⟩
  · rintro ⟨diagnostics, source, diagnosed, read, wanted⟩
    exact ⟨diagnostics, diagnosed, source, read, wanted⟩

/-- The diagnostics of a file depend on what is read there. -/
theorem diagnoseFile?_congr (same : after.read? path = before.read? path) :
    analysis.diagnoseFile? parser after path = analysis.diagnoseFile? parser before path := by
  rw [Analysis.diagnoseFile?, Analysis.diagnoseFile?, same]

theorem rewritten?_congr (same : after.read? path = before.read? path) :
    rewritten? analysis parser fix after path = rewritten? analysis parser fix before path := by
  rw [rewritten?, rewritten?, diagnoseFile?_congr same, same]

/-- The files after one of them was checked. -/
def written (analysis : Analysis) (parser : Parser) (fix : Bool) (files : FileStore) (path : Path) :
    FileStore :=
  ((rewritten? analysis parser fix files path).map (files.write path)).getD files

theorem written_of_none (unwritten : rewritten? analysis parser fix files path = none) :
    written analysis parser fix files path = files := by
  rw [written, unwritten]
  rfl

theorem written_of_not_fix (files : FileStore) (path : Path) :
    written analysis parser false files path = files := by
  apply written_of_none
  rw [Option.eq_none_iff_forall_ne_some]
  intro content given
  obtain ⟨_, _, _, _, wanted, _⟩ := rewritten?_eq_some_iff.1 given
  cases wanted

/-- After a repair the diagnostics are those of the file as it is then. -/
theorem repairFile_eq {diagnostics : List Diagnostic}
    (diagnosed : analysis.diagnoseFile? parser files path = some diagnostics) :
    (repairFile analysis parser files path diagnostics).1 =
        written analysis parser true files path ∧
      analysis.diagnoseFile? parser (written analysis parser true files path) path =
        some (repairFile analysis parser files path diagnostics).2.2 := by
  obtain ⟨language, source, named, read, _⟩ := diagnoseFile?_eq_some diagnosed
  rw [written, rewritten?, repairFile, diagnosed, read, Option.bind_eq_bind, Option.bind_some,
    Option.bind_eq_bind, Option.bind_some]
  cases fixes : diagnostics.filterMap Diagnostic.fix? with
  | nil => exact ⟨rfl, diagnosed⟩
  | cons first rest =>
    have offered : (true = true) ∧ first :: rest ≠ [] := ⟨rfl, List.cons_ne_nil first rest⟩
    dsimp only
    rw [if_pos offered, Option.map_some, Option.getD_some]
    refine ⟨rfl, ?_⟩
    rw [Analysis.diagnoseFile?, named, read?_write read]
    rfl

/-- Checking a file writes it if there are fixes to apply, and adds its diagnostics as it
is then. -/
theorem checkFile_spec (progress : Progress) (path : Path) :
    (checkFile world analysis fix progress path).files =
        written analysis world.parser fix progress.files path ∧
      (checkFile world analysis fix progress path).problems = progress.problems ++
        ((analysis.diagnoseFile? world.parser
          (written analysis world.parser fix progress.files path) path).getD []) := by
  cases diagnosed : analysis.diagnoseFile? world.parser progress.files path with
  | none =>
    have kept : written analysis world.parser fix progress.files path = progress.files := by
      apply written_of_none
      rw [rewritten?, diagnosed]
      rfl
    rw [checkFile, kept, diagnosed]
    exact ⟨rfl, (List.append_nil _).symm⟩
  | some diagnostics =>
    cases fix with
    | false =>
      rw [checkFile, written_of_not_fix, diagnosed]
      exact ⟨rfl, rfl⟩
    | true =>
      obtain ⟨files, again⟩ := repairFile_eq diagnosed
      rw [checkFile, diagnosed, again]
      exact ⟨files, rfl⟩

/-- Each file of the paths holds what checking it alone would have given it, and nothing
else has changed. -/
structure Settled (analysis : Analysis) (parser : Parser) (fix : Bool) (before after : FileStore)
    (paths : List Path) : Prop where
  layout : before.SameLayout after
  elsewhere : ∀ place, (∀ path ∈ paths, before.place? path ≠ some place) →
    after.contentAt place = before.contentAt place
  rewritten : ∀ path ∈ paths, ∀ place, before.place? path = some place →
    after.contentAt place =
      (rewritten? analysis parser fix before path).or (before.contentAt place)

theorem settled_nil (files : FileStore) : Settled analysis parser fix files files [] :=
  ⟨.refl files, fun _ _ => rfl, nofun⟩

theorem settled_written (files : FileStore) (path : Path) :
    Settled analysis parser fix files (written analysis parser fix files path) [path] := by
  cases given : rewritten? analysis parser fix files path with
  | none =>
    rw [written_of_none given]
    refine ⟨.refl files, fun _ _ => rfl, ?_⟩
    intro other member place _
    obtain rfl := List.mem_singleton.1 member
    rw [given, Option.none_or]
  | some content =>
    have written_eq : written analysis parser fix files path = files.write path content := by
      rw [written, given]
      rfl
    rw [written_eq]
    refine ⟨sameLayout_write files path content, ?_, ?_⟩
    · intro place apart
      exact contentAt_write_of_ne (apart path List.mem_cons_self)
    · intro other member place denoted
      obtain rfl := List.mem_singleton.1 member
      obtain ⟨_, source, _, read, _⟩ := rewritten?_eq_some_iff.1 given
      obtain ⟨place', denoted', _, held⟩ := read?_eq_some_iff.1 read
      cases denoted.symm.trans denoted'
      rw [contentAt_write denoted, if_pos rfl, held, given]
      rfl

/-- No path of the list but the path itself denotes its place. -/
def Apart (files : FileStore) (path : Path) (paths : List Path) : Prop :=
  ∀ other ∈ paths, ∀ place, files.place? path = some place → files.place? other ≠ some place

theorem Settled.read?_of_apart (settled : Settled analysis parser fix before after paths)
    (apart : Apart before path paths) : after.read? path = before.read? path :=
  settled.layout.read?_congr fun place denoted =>
    settled.elsewhere place fun other member => apart other member place denoted

theorem Apart.of_sameLayout (apart : Apart before path paths) (same : before.SameLayout after) :
    Apart after path paths := by
  intro other member place denoted
  rw [same.place?] at denoted ⊢
  exact apart other member place denoted

/-- What was settled first stays so, and does not change what is settled after it. -/
theorem Settled.cons (first : Settled analysis parser fix before middle [path])
    (rest : Settled analysis parser fix middle after paths) (apart : Apart before path paths) :
    Settled analysis parser fix before after (path :: paths) := by
  refine ⟨first.layout.trans rest.layout, ?_, ?_⟩
  · intro place nobody
    have later : ∀ other ∈ paths, middle.place? other ≠ some place := by
      intro other member
      rw [first.layout.place?]
      exact nobody other (List.mem_cons_of_mem _ member)
    rw [rest.elsewhere place later, first.elsewhere place]
    intro other member
    rw [List.mem_singleton.1 member]
    exact nobody path List.mem_cons_self
  · intro other member place denoted
    obtain rfl | member := List.mem_cons.1 member
    · have later : ∀ next ∈ paths, middle.place? next ≠ some place := by
        intro next listed
        rw [first.layout.place?]
        exact apart next listed place denoted
      rw [rest.elsewhere place later]
      exact first.rewritten other List.mem_cons_self place denoted
    · have distinct : Apart before other [path] := by
        intro next listed place denoted same
        rw [List.mem_singleton.1 listed] at same
        exact apart other member place same denoted
      have kept : middle.contentAt place = before.contentAt place := by
        refine first.elsewhere place fun next listed => ?_
        exact distinct next listed place denoted
      rw [rest.rewritten other member place ((first.layout.place? other).trans denoted), kept,
        rewritten?_congr (first.read?_of_apart distinct)]

/-- Paths of which no two denote one place. -/
def PlacesDiffer (files : FileStore) (paths : List Path) : Prop :=
  ∀ a ∈ paths, ∀ b ∈ paths, ∀ place, files.place? a = some place → files.place? b = some place →
    a = b

/-- The diagnostics of those of the files that can be read. -/
def diagnosed (analysis : Analysis) (parser : Parser) (files : FileStore) (paths : List Path) :
    List Diagnostic :=
  (paths.filterMap (analysis.diagnoseFile? parser files)).flatten

theorem diagnosed_cons (files : FileStore) (path : Path) (paths : List Path) :
    diagnosed analysis parser files (path :: paths) =
      (analysis.diagnoseFile? parser files path).getD [] ++
        diagnosed analysis parser files paths := by
  rw [diagnosed, List.filterMap_cons]
  cases analysis.diagnoseFile? parser files path with
  | none => rfl
  | some diagnostics => rfl

/-- What was said about a path still holds after those that follow it were written. -/
theorem foldl_checkFile_spec (distinct : paths.Nodup) (progress : Progress)
    (differ : PlacesDiffer progress.files paths) :
    Settled analysis world.parser fix progress.files
        (paths.foldl (checkFile world analysis fix) progress).files paths ∧
      (paths.foldl (checkFile world analysis fix) progress).problems = progress.problems ++
        diagnosed analysis world.parser
          (paths.foldl (checkFile world analysis fix) progress).files paths := by
  induction paths generalizing progress with
  | nil => exact ⟨settled_nil _, (List.append_nil _).symm⟩
  | cons path rest ih =>
    obtain ⟨fresh, distinct⟩ := List.nodup_cons.1 distinct
    have apart : Apart progress.files path rest := by
      intro other member place denoted same
      have one := differ path List.mem_cons_self other (List.mem_cons_of_mem _ member) place denoted
        same
      exact fresh (one ▸ member)
    obtain ⟨files, problems⟩ := @checkFile_spec world analysis fix progress path
    have first : Settled analysis world.parser fix progress.files
        (checkFile world analysis fix progress path).files [path] := by
      rw [files]
      exact settled_written progress.files path
    have later : PlacesDiffer (checkFile world analysis fix progress path).files rest := by
      intro a member b member' place denoted same
      rw [first.layout.place?] at denoted same
      exact differ a (List.mem_cons_of_mem _ member) b (List.mem_cons_of_mem _ member') place
        denoted same
    obtain ⟨settled, found⟩ := ih distinct (checkFile world analysis fix progress path) later
    have kept := settled.read?_of_apart (apart.of_sameLayout first.layout)
    rw [List.foldl_cons]
    refine ⟨first.cons settled apart, ?_⟩
    rw [found, problems, diagnosed_cons, diagnoseFile?_congr kept, files, List.append_assoc]

/-- File, line, column and rule, to be compared in this order. -/
def rank (diagnostic : Diagnostic) : String ×ₗ Nat ×ₗ Nat ×ₗ String :=
  toLex (diagnostic.file?.getD "", toLex (diagnostic.position.line,
    toLex (diagnostic.position.column, diagnostic.rule)))

theorem reportedBefore_iff {a b : Diagnostic} : reportedBefore a b = true ↔ rank a ≤ rank b := by
  simp only [reportedBefore, Bool.or_eq_true, Bool.and_eq_true, decide_eq_true_eq]
  simp only [reportKey, rank, Prod.Lex.toLex_le_toLex]

theorem pairwise_reportOrder (diagnostics : List Diagnostic) :
    (reportOrder diagnostics).Pairwise fun a b => rank a ≤ rank b := by
  have sorted : (reportOrder diagnostics).Pairwise fun a b => reportedBefore a b = true := by
    refine List.pairwise_mergeSort ?_ ?_ diagnostics
    · intro a b c first second
      exact reportedBefore_iff.2 ((reportedBefore_iff.1 first).trans (reportedBefore_iff.1 second))
    · intro a b
      rw [Bool.or_eq_true, reportedBefore_iff, reportedBefore_iff]
      exact le_total (rank a) (rank b)
  exact sorted.imp reportedBefore_iff.1

def Printed.rows : Printed → List (List String)
  | .text _ => []
  | .table shown => shown.rows

/-- The rows of all tables that a run prints. -/
def Outcome.rows (outcome : Outcome) : List (List String) := outcome.printed.flatMap Printed.rows

theorem rows_checkFile {progress : Progress} (plain : progress.printed.flatMap Printed.rows = [])
    (path : Path) :
    (checkFile world analysis fix progress path).printed.flatMap Printed.rows = [] := by
  rw [checkFile]
  split
  · rw [List.flatMap_append, plain]
    rfl
  · exact plain

/-- While files are checked, no table is printed. -/
theorem rows_foldl_checkFile (paths : List Path) {progress : Progress}
    (plain : progress.printed.flatMap Printed.rows = []) :
    (paths.foldl (checkFile world analysis fix) progress).printed.flatMap Printed.rows = [] := by
  induction paths generalizing progress with
  | nil => exact plain
  | cons path rest ih => exact ih (rows_checkFile plain path)

theorem conclude_spec {progress : Progress} (plain : progress.printed.flatMap Printed.rows = [])
    (count : Nat) :
    (conclude world count progress).exit = (if progress.problems = [] then 0 else 1) ∧
    (conclude world count progress).files = progress.files ∧
    (conclude world count progress).rows =
      (reportOrder progress.problems).map (reportRow world progress.files) := by
  have applied (fixed : Nat) : (if fixed = 0 then [] else [world.line ("[bold blue]🔧 Applied " ++
      toString fixed ++ " fix(es)[/bold blue]")]).flatMap Printed.rows = [] := by
    split
    · rfl
    · rfl
  rw [conclude, Outcome.rows]
  dsimp only
  split
  next empty =>
    refine ⟨rfl, rfl, ?_⟩
    rw [List.flatMap_append, List.flatMap_append, plain, applied, empty, reportOrder,
      List.mergeSort_nil]
    rfl
  next =>
    refine ⟨rfl, rfl, ?_⟩
    rw [List.flatMap_append, List.flatMap_append, plain, applied]
    exact List.append_nil _

theorem known_of_settings {chosen : Settings} (valid : settings world = .ok chosen) :
    ∀ id ∈ chosen.rules?.getD [], Rule.isKnown id = true := by
  rw [settings] at valid
  split at valid
  next number session got =>
    have built := @Session.validate_of_get world.loader world.files
      { environment := world.environment } number rfl
    rw [got] at built
    obtain ⟨rulesValid, _⟩ := Settings.validate_eq_ok_iff.1 (built rfl)
    have read : chosen.rules? = Settings.readRules session.environment := by
      rw [Settings.read] at valid
      cases flag : Settings.readFlag session.environment with
      | error cause =>
        rw [flag] at valid
        cases valid
      | ok flag' =>
        rw [flag] at valid
        cases valid
        rfl
    rw [read]
    exact Settings.rulesValid_iff.1 rulesValid
  next => cases valid

/-- With valid settings and known rules there is an analysis. -/
theorem exists_analysis {arguments : CheckArguments} {chosen : Settings}
    (valid : settings world = .ok chosen)
    (known : ∀ id ∈ arguments.rules, Rule.isKnown id = true) :
    ∃ analysis, Analysis.ofIds (chosenOptions arguments chosen) (chosenRules arguments chosen) =
      .ok analysis := by
  rw [chosenRules]
  split
  next =>
    have named := known_of_settings valid
    cases rules : chosen.rules? with
    | none => exact ⟨_, rfl⟩
    | some ids =>
      rw [rules] at named
      exact ⟨_, Analysis.ofIds_of_known _ named⟩
  next => exact ⟨_, Analysis.ofIds_of_known _ known⟩

/-- The outcome of a run that found these files: what it says and what it has done. -/
structure Concludes (world : World) (analysis : Analysis) (fix : Bool) (found : List Path)
    (outcome : Outcome) : Prop where
  /-- It fails exactly when something is left to report. -/
  exit_zero : outcome.exit = 0 ↔ ∀ path ∈ found, ∀ diagnostics,
    analysis.diagnoseFile? world.parser outcome.files path = some diagnostics → diagnostics = []
  exit_one : outcome.exit ≠ 0 → outcome.exit = 1
  rows : ∃ ordered : List Diagnostic,
    ordered.Perm (diagnosed analysis world.parser outcome.files found) ∧
    ordered.Pairwise (fun a b => rank a ≤ rank b) ∧
    outcome.rows = ordered.map fun diagnostic =>
      [world.escape
          ((diagnostic.file?.map fun file => world.files.display (.ofString file)).getD "<source>"),
        toString diagnostic.position.line, toString diagnostic.position.column, diagnostic.rule,
        world.escape diagnostic.message]
  layout : world.files.SameLayout outcome.files
  untouched : fix = false → outcome.files = world.files
  changed : ∀ place, outcome.files.contentAt place ≠ world.files.contentAt place → fix = true ∧
    ∃ path ∈ found, ∃ old diagnostics, world.files.place? path = some place ∧
      world.files.read? path = some old ∧
      analysis.diagnoseFile? world.parser world.files path = some diagnostics ∧
      diagnostics.filterMap Diagnostic.fix? ≠ [] ∧
      outcome.files.contentAt place =
        some (Fix.applyAll old (diagnostics.filterMap Diagnostic.fix?))
  repaired : fix = true → ∀ path ∈ found, ∀ old diagnostics, world.files.read? path = some old →
    analysis.diagnoseFile? world.parser world.files path = some diagnostics →
    outcome.files.read? path = some (Fix.applyAll old (diagnostics.filterMap Diagnostic.fix?))
  unreadable : ∀ place ∈ world.files.unreadable,
    outcome.files.contentAt place = world.files.contentAt place
  skipped : ∀ path ∈ found, world.files.read? path = none →
    analysis.diagnoseFile? world.parser outcome.files path = none

theorem reportRow_eq (same : before.SameLayout after) :
    reportRow world after = reportRow world before := by
  funext diagnostic
  rw [reportRow, reportRow]
  simp only [same.display]

theorem diagnosed_eq_nil_iff : diagnosed analysis parser files paths = [] ↔
    ∀ path ∈ paths, ∀ diagnostics,
      analysis.diagnoseFile? parser files path = some diagnostics → diagnostics = [] := by
  rw [diagnosed, List.flatten_eq_nil_iff]
  simp only [List.mem_filterMap]
  constructor
  · intro empty path member diagnostics read
    exact empty diagnostics ⟨path, member, read⟩
  · rintro empty diagnostics ⟨path, member, read⟩
    exact empty path member diagnostics read

theorem Settled.changed (settled : Settled analysis parser fix before after paths) {place : Place}
    (differs : after.contentAt place ≠ before.contentAt place) : fix = true ∧
    ∃ path ∈ paths, ∃ old diagnostics, before.place? path = some place ∧
      before.read? path = some old ∧
      analysis.diagnoseFile? parser before path = some diagnostics ∧
      diagnostics.filterMap Diagnostic.fix? ≠ [] ∧
      after.contentAt place = some (Fix.applyAll old (diagnostics.filterMap Diagnostic.fix?)) := by
  by_cases denoted : ∃ path ∈ paths, before.place? path = some place
  · obtain ⟨path, member, denoted⟩ := denoted
    have content := settled.rewritten path member place denoted
    cases given : rewritten? analysis parser fix before path with
    | none =>
      rw [given, Option.none_or] at content
      exact absurd content differs
    | some new =>
      obtain ⟨diagnostics, old, diagnosed, read, wanted, offered, rfl⟩ :=
        rewritten?_eq_some_iff.1 given
      rw [given, Option.some_or] at content
      exact ⟨wanted, path, member, old, diagnostics, denoted, read, diagnosed, offered, content⟩
  · refine absurd (settled.elsewhere place fun path member same => ?_) differs
    exact denoted ⟨path, member, same⟩

theorem Settled.repaired (settled : Settled analysis parser true before after paths)
    (member : path ∈ paths) {old : Bytes} {diagnostics : List Diagnostic}
    (read : before.read? path = some old)
    (diagnosed : analysis.diagnoseFile? parser before path = some diagnostics) :
    after.read? path = some (Fix.applyAll old (diagnostics.filterMap Diagnostic.fix?)) := by
  obtain ⟨place, denoted, readable, held⟩ := read?_eq_some_iff.1 read
  refine read?_eq_some_iff.2 ⟨place, (settled.layout.place? path).trans denoted, ?_, ?_⟩
  · rw [settled.layout.unreadable]
    exact readable
  · rw [settled.rewritten path member place denoted]
    by_cases none_offered : diagnostics.filterMap Diagnostic.fix? = []
    · have kept : rewritten? analysis parser true before path = none := by
        rw [Option.eq_none_iff_forall_ne_some]
        intro content given
        obtain ⟨_, _, diagnosed', _, _, offered, _⟩ := rewritten?_eq_some_iff.1 given
        cases diagnosed.symm.trans diagnosed'
        exact offered none_offered
      rw [kept, Option.none_or, held, none_offered, Fix.applyAll, Fix.ordered, List.mergeSort_nil]
      rfl
    · have given := rewritten?_eq_some_iff.2
        ⟨diagnostics, old, diagnosed, read, rfl, none_offered, rfl⟩
      rw [given, Option.some_or]

theorem Settled.unreadable (settled : Settled analysis parser fix before after paths) {place : Place}
    (barred : place ∈ before.unreadable) : after.contentAt place = before.contentAt place := by
  by_contra differs
  obtain ⟨_, path, _, old, _, denoted, read, _⟩ := settled.changed differs
  obtain ⟨place', denoted', readable, _⟩ := read?_eq_some_iff.1 read
  cases denoted.symm.trans denoted'
  exact readable barred

theorem Settled.skipped (settled : Settled analysis parser fix before after paths)
    (member : path ∈ paths) (unread : before.read? path = none) :
    analysis.diagnoseFile? parser after path = none := by
  have unwritten : rewritten? analysis parser fix before path = none := by
    rw [Option.eq_none_iff_forall_ne_some]
    intro content given
    obtain ⟨_, _, _, read, _⟩ := rewritten?_eq_some_iff.1 given
    cases unread.symm.trans read
  have kept : after.read? path = before.read? path := by
    refine settled.layout.read?_congr fun place denoted => ?_
    rw [settled.rewritten path member place denoted, unwritten, Option.none_or]
  rw [diagnoseFile?_congr kept, Analysis.diagnoseFile?, unread]
  cases path.language? with
  | none => rfl
  | some language => rfl

/-- Without repairs the files stay the same value. -/
theorem files_foldl_of_not_fix (paths : List Path) (progress : Progress) :
    (paths.foldl (checkFile world analysis false) progress).files = progress.files := by
  induction paths generalizing progress with
  | nil => rfl
  | cons path rest ih => rw [List.foldl_cons, ih, (checkFile_spec progress path).1, written_of_not_fix]

theorem concludes_checkPaths (present : ∀ path ∈ paths, world.files.pathExists path = true)
    (differ : PlacesDiffer world.files (world.files.discover paths)) :
    Concludes world analysis fix (world.files.discover paths)
      (checkPaths world analysis fix paths) := by
  have distinct : (world.files.discover paths).Nodup := Path.nodup_eraseDups _
  obtain ⟨settled, problems⟩ := @foldl_checkFile_spec world analysis fix _ distinct
    { files := world.files } differ
  have plain := @rows_foldl_checkFile world analysis fix (world.files.discover paths)
    { files := world.files } rfl
  obtain ⟨exit, files, rows⟩ := @conclude_spec world _ plain (world.files.discover paths).length
  rw [List.nil_append] at problems
  rw [checkPaths_of_present present]
  rw [problems] at exit rows
  constructor
  case exit_zero =>
    rw [exit, files, ← diagnosed_eq_nil_iff]
    split
    next empty => exact ⟨fun _ => empty, fun _ => rfl⟩
    next nonempty =>
      exact ⟨fun one => absurd one Nat.one_ne_zero, fun empty => absurd empty nonempty⟩
  case exit_one =>
    rw [exit]
    split
    next => exact fun failed => absurd rfl failed
    next => exact fun _ => rfl
  case rows =>
    rw [files, rows, reportRow_eq settled.layout]
    exact ⟨_, List.mergeSort_perm _ _, pairwise_reportOrder _, rfl⟩
  all_goals rw [files]
  case layout => exact settled.layout
  case untouched =>
    rintro rfl
    exact files_foldl_of_not_fix _ _
  case changed => exact fun place => settled.changed
  case repaired =>
    rintro rfl path member old diagnostics read diagnosed
    exact settled.repaired member read diagnosed
  case unreadable => exact fun place => settled.unreadable
  case skipped => exact fun path member => settled.skipped member

/-- The report of `check` is about the state that it leaves behind. For valid settings,
known rules and roots that are there, with no two paths for one file, it checks what it
finds below the roots: it succeeds if nothing is left to say about the files that can be
read, and else lists what is left in order, with file, line, column, rule and message; it
writes only to apply fixes that a file was offered. -/
theorem check_reports_final_state {world : World} {arguments : CheckArguments} {chosen : Settings}
    (valid : settings world = .ok chosen)
    (known : ∀ id ∈ arguments.rules, Rule.isKnown id = true)
    (present : ∀ root ∈ arguments.paths, world.files.pathExists (.ofString root) = true)
    (differ : PlacesDiffer world.files
      (world.files.discover (arguments.paths.map Path.ofString))) :
    ∃ analysis,
      Analysis.ofIds (chosenOptions arguments chosen) (chosenRules arguments chosen) =
        .ok analysis ∧
      Concludes world analysis arguments.fix
        (world.files.discover (arguments.paths.map Path.ofString)) (check world arguments) := by
  obtain ⟨analysis, accepted⟩ := exists_analysis valid known
  refine ⟨analysis, accepted, ?_⟩
  have ran : check world arguments =
      checkPaths world analysis arguments.fix (arguments.paths.map Path.ofString) := by
    rw [check, valid]
    dsimp only
    rw [accepted]
  rw [ran]
  refine concludes_checkPaths ?_ differ
  intro path member
  obtain ⟨root, given, rfl⟩ := List.mem_map.1 member
  exact present root given

/-- Arguments that ask for missing content types to be reported, or to be added. -/
def contentTypeArguments (fix : Bool) : CheckArguments :=
  { paths := ["a.js"], rules := ["require-json-content-type"], fix := fix }

/-- What is said about a missing content type. -/
def contentTypeText : String :=
  "Missing Content-Type header when sending JSON data. " ++
    "Add \"Content-Type\": \"application/json\" to headers."

/-- The content type of the outer request, then that of the request in its body. -/
def nestedFixes : List Fix :=
  [⟨17, 19, "\x7b \"Content-Type\": \"application/json\" \x7d"⟩,
    ⟨71, 71, ", headers: \x7b \"Content-Type\": \"application/json\" \x7d"⟩]

theorem applyAll_nestedFixes :
    Fix.applyAll nestedRequests.source nestedFixes = repairedRequests.source := by
  have order : Fix.ordered nestedFixes = nestedFixes.reverse := by
    refine Fix.eq_of_ranges (Fix.pairwise_ordered _) (by decide +kernel) fun start stop => ?_
    rw [Fix.filter_ordered]
    by_cases outer : (17 : Int) = start
    · subst outer
      simp [nestedFixes, List.filter_cons, Fix.hasRange]
    · simp [nestedFixes, List.filter_cons, Fix.hasRange, outer]
  rw [Fix.applyAll, order]
  decide +kernel

/-- What is said about a file whose content is known. -/
theorem diagnoseFile?_nestedWorld {source : Bytes} {tree : Tree}
    (content : files.read? ⟨"", ["a.js"]⟩ = some source)
    (parsed : knownParser .javascript source = tree) :
    Analysis.diagnoseFile? analysis nestedWorld.parser files ⟨"", ["a.js"]⟩ =
      some (analysis.diagnose (.root tree) source (Path.mk "" ["a.js"]).toString) := by
  have named : Path.language? ⟨"", ["a.js"]⟩ = some .javascript := by decide +kernel
  rw [Analysis.diagnoseFile?, named, content, ← parsed]
  rfl

/-- Diagnostics of which none can come before one that is listed earlier have one order. -/
theorem eq_of_perm_of_apart {ordered given : List Diagnostic} (same : ordered.Perm given)
    (sorted : ordered.Pairwise fun a b => rank a ≤ rank b)
    (apart : given.Pairwise fun a b => reportedBefore b a = false) : ordered = given := by
  have earlier {a b : Diagnostic} (after : reportedBefore b a = false) : rank a < rank b := by
    rw [← not_le, ← reportedBefore_iff, after]
    exact Bool.false_ne_true
  have ranked : given.Pairwise fun a b => rank a ≤ rank b :=
    apart.imp fun after => (earlier after).le
  have distinct : ∀ a ∈ given, ∀ b ∈ given, rank a = rank b → a = b := by
    refine List.Pairwise.forall_of_forall_of_flip (fun _ _ _ => rfl) ?_ ?_
    · exact apart.imp fun after same => absurd same (earlier after).ne
    · exact apart.imp fun after same => absurd same.symm (earlier after).ne
  refine same.eq_of_pairwise (fun a b member member' before after => ?_) sorted ranked
  exact distinct a (same.mem_iff.1 member) b member' (le_antisymm before after)

theorem check_reports_final_state_nestedWorld :
    settings nestedWorld = .ok ⟨"fetch", true, none⟩ ∧
    (check nestedWorld (contentTypeArguments true)).exit = 0 ∧
    (check nestedWorld (contentTypeArguments true)).files.read? ⟨"", ["a.js"]⟩ =
      some repairedRequests.source ∧
    (check nestedWorld (contentTypeArguments false)).exit = 1 ∧
    (check nestedWorld (contentTypeArguments false)).rows =
      [["a.js", "1", "18", "require-json-content-type", contentTypeText],
        ["a.js", "1", "49", "require-json-content-type", contentTypeText]] := by
  have valid : settings nestedWorld = .ok ⟨"fetch", true, none⟩ := rfl
  have found (fix : Bool) : nestedWorld.files.discover
      ((contentTypeArguments fix).paths.map Path.ofString) = [⟨"", ["a.js"]⟩] := by
    cases fix with
    | true => decide +kernel
    | false => decide +kernel
  have differ : PlacesDiffer nestedWorld.files [⟨"", ["a.js"]⟩] := by
    intro a first b second _ _ _
    rw [List.mem_singleton.1 first, List.mem_singleton.1 second]
  have content : nestedWorld.files.read? ⟨"", ["a.js"]⟩ = some nestedRequests.source := by
    decide +kernel
  have diagnosed := @diagnoseFile?_nestedWorld ⟨{}, [.jsonContentType]⟩ _ _ _ content (if_pos rfl)
  obtain ⟨repairing, accepted, concludes⟩ :=
    @check_reports_final_state nestedWorld (contentTypeArguments true) _ valid (by decide +kernel)
      (by decide +kernel) (found true ▸ differ)
  obtain ⟨reporting, accepted', reports⟩ :=
    @check_reports_final_state nestedWorld (contentTypeArguments false) _ valid (by decide +kernel)
      (by decide +kernel) (found false ▸ differ)
  cases accepted.symm.trans (Analysis.ofIds_of_rule {} .jsonContentType)
  cases accepted'.symm.trans (Analysis.ofIds_of_rule {} .jsonContentType)
  rw [found] at concludes reports
  have offered : (Analysis.diagnose ⟨{}, [.jsonContentType]⟩ (.root nestedRequests)
      nestedRequests.source (Path.mk "" ["a.js"]).toString).filterMap Diagnostic.fix? =
        nestedFixes := by decide +kernel
  have repaired := concludes.repaired rfl _ List.mem_cons_self _ _ content diagnosed
  rw [offered, applyAll_nestedFixes] at repaired
  refine ⟨valid, concludes.exit_zero.2 ?_, repaired, reports.exit_one ?_, ?_⟩
  · intro path member diagnostics read
    rw [List.mem_singleton.1 member] at read
    have changed : repairedRequests.source ≠ nestedRequests.source := by decide +kernel
    have again := @diagnoseFile?_nestedWorld ⟨{}, [.jsonContentType]⟩ _ _ repairedRequests repaired
      (by rw [knownParser, if_neg changed, if_pos rfl])
    cases read.symm.trans again
    decide +kernel
  · intro succeeded
    have silent := reports.exit_zero.1 succeeded _ List.mem_cons_self
    rw [reports.untouched rfl] at silent
    exact absurd (silent _ diagnosed) (by decide +kernel)
  · obtain ⟨ordered, same, sorted, rows⟩ := reports.rows
    rw [reports.untouched rfl, Command.diagnosed, List.filterMap_cons, diagnosed] at same
    rw [rows, eq_of_perm_of_apart same sorted (by decide +kernel)]
    decide +kernel

end RequestLint.Command
