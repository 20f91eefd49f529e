import RequestLint.Command.Check
import RequestLint.Proofs.Fix.Offered
import RequestLint.Proofs.Terminal.Icon
import RequestLint.Proofs.Terminal.Markup
import RequestLint.Settings.Supply

/-! Repairs of a run. A run counts the fixes that it was offered and says that it
applied them. What it applied is told here by the splices that were made: one file
after the other, the two numbers agree, because no fix of an analysis stands in
the way of another. -/
namespace RequestLint

namespace Analysis

variable {analysis : Analysis} {tree : Tree} {source : Bytes} {file? : Option String}

/-- Of the fixes that one analysis offers, all are applied. -/
theorem applied_fixes_perm (fits : tree.Fits source) :
    (Fix.applied source.length ((analysis.diagnose (.root tree) source file?).filterMap
      Diagnostic.fix?)).Perm
        ((analysis.diagnose (.root tree) source file?).filterMap Diagnostic.fix?) := by
  rw [Fix.applied_eq_ordered (fun fix => inside_of_mem_fixes fits) (pairwise_fixes fits)]
  exact Fix.ordered_perm _

end Analysis

namespace Command

variable {world : World} {analysis : Analysis} {parser : Parser} {files : FileStore} {path : Path}

/-- Whatever is parsed, the tree fits the source. -/
def Sound (parser : Parser) : Prop := ∀ language source, (parser language source).Fits source

/-- The fixes that are spliced into a file when it is repaired. -/
def spliced (analysis : Analysis) (parser : Parser) (files : FileStore) (path : Path) : List Fix :=
  match analysis.diagnoseFile? parser files path, files.read? path with
  | some diagnostics, some source =>
    Fix.applied source.length (diagnostics.filterMap Diagnostic.fix?)
  | _, _ => []

/-- The fixes that are spliced into one file after the other, each file as those
before it have left the file system. -/
def splicedAlong (world : World) (analysis : Analysis) : FileStore → List Path → List Fix
  | _, [] => []
  | files, path :: rest =>
    spliced analysis world.parser files path ++
      splicedAlong world analysis (checkFile world analysis true { files := files } path).files rest

theorem diagnoseFile?_eq_some {diagnostics : List Diagnostic}
    (read : analysis.diagnoseFile? parser files path = some diagnostics) :
    ∃ language source, path.language? = some language ∧ files.read? path = some source ∧
      diagnostics = analysis.diagnoseSource parser language source path.toString := by
  obtain ⟨language, named, read⟩ := Option.bind_eq_some_iff.1 read
  obtain ⟨source, content, same⟩ := Option.bind_eq_some_iff.1 read
  exact ⟨language, source, named, content, (Option.some.inj same).symm⟩

theorem spliced_of_read {diagnostics : List Diagnostic} {source : Bytes}
    (read : analysis.diagnoseFile? parser files path = some diagnostics)
    (content : files.read? path = some source) :
    spliced analysis parser files path =
      Fix.applied source.length (diagnostics.filterMap Diagnostic.fix?) := by
  rw [spliced, read, content]

/-- The number that repairing a file gives back is that of the splices made. -/
theorem fixed_repairFile (sound : Sound parser) {diagnostics : List Diagnostic}
    (read : analysis.diagnoseFile? parser files path = some diagnostics) :
    (repairFile analysis parser files path diagnostics).2.1 =
      (spliced analysis parser files path).length := by
  obtain ⟨language, source, _, content, diagnosed⟩ := diagnoseFile?_eq_some read
  have all : (Fix.applied source.length (diagnostics.filterMap Diagnostic.fix?)).length =
      (diagnostics.filterMap Diagnostic.fix?).length := by
    rw [diagnosed]
    exact (Analysis.applied_fixes_perm (sound language source)).length_eq
  rw [spliced_of_read read content, all, repairFile, content]
  cases diagnostics.filterMap Diagnostic.fix? with
  | nil => rfl
  | cons fix fixes => rfl

/-- A repaired file holds its old content with the splices made. -/
theorem files_repairFile {diagnostics : List Diagnostic} {source : Bytes}
    (read : analysis.diagnoseFile? parser files path = some diagnostics)
    (content : files.read? path = some source)
    (offered : diagnostics.filterMap Diagnostic.fix? ≠ []) :
    (repairFile analysis parser files path diagnostics).1 =
      files.write path ((spliced analysis parser files path).foldl Fix.splice source) := by
  rw [spliced_of_read read content, ← Fix.applyAll_eq_foldl, repairFile, content]
  cases fixes : diagnostics.filterMap Diagnostic.fix? with
  | nil => exact absurd fixes offered
  | cons fix fixes => rfl

theorem fixed_checkFile (sound : Sound world.parser) (progress : Progress) (path : Path) :
    (checkFile world analysis true progress path).fixed =
      progress.fixed + (spliced analysis world.parser progress.files path).length := by
  rw [checkFile]
  split
  next unread => rw [spliced, unread, List.length_nil, Nat.add_zero]
  next diagnostics read => exact congrArg (progress.fixed + ·) (fixed_repairFile sound read)

/-- What a file looks like afterwards does not depend on what was found in others. -/
theorem files_checkFile (progress : Progress) (path : Path) :
    (checkFile world analysis true progress path).files =
      (checkFile world analysis true { files := progress.files } path).files := by
  rw [checkFile, checkFile]
  cases analysis.diagnoseFile? world.parser progress.files path with
  | none => rfl
  | some diagnostics => rfl

theorem fixed_foldl_checkFile (sound : Sound world.parser) (paths : List Path)
    (progress : Progress) :
    (paths.foldl (checkFile world analysis true) progress).fixed =
      progress.fixed + (splicedAlong world analysis progress.files paths).length := by
  induction paths generalizing progress with
  | nil => rfl
  | cons path rest ih =>
    rw [List.foldl_cons, ih, fixed_checkFile sound, files_checkFile, splicedAlong,
      List.length_append, Nat.add_assoc]

theorem line_mem_conclude {progress : Progress} (some_fixed : progress.fixed ≠ 0) (count : Nat) :
    world.line ("[bold blue]🔧 Applied " ++ toString progress.fixed ++ " fix(es)[/bold blue]") ∈
      (conclude world count progress).printed := by
  rw [conclude, if_neg some_fixed]
  split
  · exact List.mem_append_left _ (List.mem_append_right _ List.mem_cons_self)
  · exact List.mem_append_left _ (List.mem_append_right _ List.mem_cons_self)

theorem isDigit_of_mem_toString {count : Nat} {char : Char} (member : char ∈ (toString count).toList) :
    char.isDigit = true :=
  Nat.isDigit_of_mem_toDigits (by decide) (by decide) (Nat.toList_repr ▸ member)

/-- Icons stand for no digits. -/
theorem replaceIcons_toString (count : Nat) :
    Terminal.replaceIcons true (toString count) = toString count := by
  refine Terminal.replaceIcons_of_iconFree (fun char member listed => ?_) true
  have none_digit : (Terminal.icons.map Prod.fst).all (!Char.isDigit ·) = true := by decide
  have other := List.all_eq_true.1 none_digit char listed
  rw [isDigit_of_mem_toString member] at other
  cases other

/-- The line is handed on with the icon, or with its plain form behind a backslash. -/
theorem line_applied (world : World) (count : Nat) :
    world.line ("[bold blue]🔧 Applied " ++ toString count ++ " fix(es)[/bold blue]") =
      .text ("[bold blue]" ++ (if Terminal.showsIcons world.encoding then "🔧" else "\\[fix]") ++
        " Applied " ++ toString count ++ " fix(es)[/bold blue]") := by
  rw [World.line, World.console, Terminal.Console.withIcons]
  cases Terminal.showsIcons world.encoding with
  | true => rfl
  | false =>
    have opening : Terminal.replaceIcons true "[bold blue]🔧 Applied " =
        "[bold blue]\\[fix] Applied " := by decide +kernel
    have closing : Terminal.replaceIcons true " fix(es)[/bold blue]" = " fix(es)[/bold blue]" := by
      decide +kernel
    have written : Terminal.replaceIcons true
        ("[bold blue]🔧 Applied " ++ toString count ++ " fix(es)[/bold blue]") =
          "[bold blue]\\[fix] Applied " ++ toString count ++ " fix(es)[/bold blue]" := by
      rw [Terminal.replaceIcons_append, Terminal.replaceIcons_append, opening, closing,
        replaceIcons_toString]
    exact congrArg Printed.text written

theorem plain_applied {icon : String} (plain : Terminal.Plain icon) (count : Nat) :
    Terminal.Plain (icon ++ " Applied " ++ toString count ++ " fix(es)") := by
  have digits : (toString count).toList.any Terminal.isMark = false := by
    rw [List.any_eq_false]
    intro char member marks
    rw [Terminal.isMark_of_isDigit (isDigit_of_mem_toString member)] at marks
    cases marks
  have constant : " Applied ".toList.any Terminal.isMark = false ∧
      " fix(es)".toList.any Terminal.isMark = false := by decide
  unfold Terminal.Plain at plain ⊢
  simp only [String.toList_append, List.any_append, plain, digits, constant, Bool.or_false]

/-- What a terminal shows of the line. -/
theorem shows_applied {shows : String → String} (markup : Terminal.ShowsMarkup shows)
    (icons : Bool) (count : Nat) :
    shows ("[bold blue]" ++ (if icons then "🔧" else "\\[fix]") ++ " Applied " ++ toString count ++
        " fix(es)[/bold blue]") =
      (if icons then "🔧" else "[fix]") ++ " Applied " ++ toString count ++ " fix(es)" := by
  have style : Terminal.NamesTag "bold blue" := by decide
  cases icons with
  | true =>
    have icon : Terminal.Plain "🔧" := by decide
    have line : "[bold blue]" ++ "🔧" ++ " Applied " ++ toString count ++ " fix(es)[/bold blue]" =
        "[" ++ "bold blue" ++ "]" ++ ("🔧" ++ " Applied " ++ toString count ++ " fix(es)") ++
          "[/" ++ "bold blue" ++ "]" := by
      rw [← String.toList_inj]
      simp
    exact (congrArg shows line).trans (markup.styled _ _ style (plain_applied icon count))
  | false =>
    have tag : Terminal.NamesTag "fix" := by decide
    have bare : Terminal.Plain "" := rfl
    have line : "[bold blue]" ++ "\\[fix]" ++ " Applied " ++ toString count ++
        " fix(es)[/bold blue]" = "[" ++ "bold blue" ++ "]" ++ "\\[" ++ "fix" ++ "]" ++
          ("" ++ " Applied " ++ toString count ++ " fix(es)") ++ "[/" ++ "bold blue" ++ "]" := by
      rw [← String.toList_inj]
      simp
    have shown : "[" ++ "fix" ++ "]" ++ ("" ++ " Applied " ++ toString count ++ " fix(es)") =
        "[fix]" ++ " Applied " ++ toString count ++ " fix(es)" := by
      rw [← String.toList_inj]
      simp
    exact (congrArg shows line).trans
      ((markup.escaped _ _ _ style tag (plain_applied bare count)).trans shown)

/-- Where all paths are there, what is found is checked one file after the other. -/
theorem checkPaths_of_present {fix : Bool} {paths : List Path}
    (present : ∀ path ∈ paths, world.files.pathExists path = true) :
    checkPaths world analysis fix paths = conclude world (world.files.discover paths).length
      ((world.files.discover paths).foldl (checkFile world analysis fix)
        { files := world.files }) := by
  have none_missing : paths.find? (!world.files.pathExists ·) = none :=
    List.find?_eq_none.2 fun path member => by simp [present path member]
  rw [checkPaths, none_missing]

/-- The number that a run prints is that of the splices it made. -/
theorem line_mem_checkPaths (sound : Sound world.parser) {paths : List Path}
    (present : ∀ path ∈ paths, world.files.pathExists path = true)
    (repaired : splicedAlong world analysis world.files (world.files.discover paths) ≠ []) :
    world.line ("[bold blue]🔧 Applied " ++ toString
        (splicedAlong world analysis world.files (world.files.discover paths)).length ++
        " fix(es)[/bold blue]") ∈ (checkPaths world analysis true paths).printed := by
  have fixed := @fixed_foldl_checkFile world analysis sound (world.files.discover paths)
    { files := world.files }
  rw [Nat.zero_add] at fixed
  rw [checkPaths_of_present present, ← fixed]
  refine line_mem_conclude ?_ _
  rw [fixed]
  exact mt List.length_eq_zero_iff.1 repaired

/-- Fixes of one analysis do not conflict, whatever the rules. Each belongs to a
missing content type and goes into a literal without syntax errors: it inserts at
the end of the last entry, or replaces all of a literal that has no entry. In the
order of their ranges each fix lies before the next, and applying them replaces
all of them; the bytes that are in none of their ranges survive in order. So the
number that repairing a file gives back is that of the splices made in it, and a
run prints how many it made in all files. -/
theorem repairs_apply_all_fixes (analysis : Analysis) (world : World)
    (sound : Sound world.parser) :
    (∀ (tree : Tree) (source : Bytes) (file? : Option String), tree.Fits source →
      (∀ diagnostic ∈ analysis.diagnose (.root tree) source file?, ∀ fix,
        diagnostic.fix? = some fix →
        diagnostic.rule = Rule.jsonContentType.id ∧
        diagnostic.messageId = Message.missingContentType.id ∧
        ∃ object ∈ (Node.root tree).preorder, object.kind = "object" ∧ object.hasError = false ∧
          diagnostic.start = object.start ∧ diagnostic.stop = object.stop ∧
          object.start ≤ fix.start ∧ fix.start ≤ fix.stop ∧ fix.stop ≤ object.stop ∧
          Fix.ExtendsAt object fix) ∧
      ∀ fixes, (analysis.diagnose (.root tree) source file?).filterMap Diagnostic.fix? = fixes →
        (∃ all : List Fix, all.Perm fixes ∧ all.Pairwise Fix.Before ∧
          Fix.applyAll source fixes = Fix.replaced source 0 all) ∧
        (Fix.untouched source fixes).Sublist (Fix.applyAll source fixes)) ∧
    (∀ files path diagnostics source,
      analysis.diagnoseFile? world.parser files path = some diagnostics →
      files.read? path = some source →
      (repairFile analysis world.parser files path diagnostics).2.1 =
        (spliced analysis world.parser files path).length ∧
      (diagnostics.filterMap Diagnostic.fix? ≠ [] →
        (repairFile analysis world.parser files path diagnostics).1 =
          files.write path ((spliced analysis world.parser files path).foldl Fix.splice source))) ∧
    ∀ paths : List Path, (∀ path ∈ paths, world.files.pathExists path = true) →
      ∀ count,
        (splicedAlong world analysis world.files (world.files.discover paths)).length = count →
        count ≠ 0 →
        ∃ line, .text line ∈ (checkPaths world analysis true paths).printed ∧
          line = "[bold blue]" ++ (if Terminal.showsIcons world.encoding then "🔧" else "\\[fix]") ++
            " Applied " ++ toString count ++ " fix(es)[/bold blue]" ∧
          ∀ shows, Terminal.ShowsMarkup shows →
            shows line = (if Terminal.showsIcons world.encoding then "🔧" else "[fix]") ++
              " Applied " ++ toString count ++ " fix(es)" := by
  refine ⟨?_, ?_, ?_⟩
  · intro tree source file? fits
    have inside : ∀ fix ∈ (analysis.diagnose (.root tree) source file?).filterMap Diagnostic.fix?,
        fix.Inside source.length := fun fix => Analysis.inside_of_mem_fixes fits
    refine ⟨?_, ?_⟩
    · intro diagnostic given fix offered
      obtain ⟨rule, message, object, listed, kind, clean, opens, closes, extends_⟩ :=
        Analysis.extendsAt_of_diagnose given offered
      obtain ⟨start, width, stop⟩ := extends_.within fits listed
      exact ⟨rule, message, object, listed, kind, clean, opens, closes, start, width, stop,
        extends_⟩
    · rintro _ rfl
      refine ⟨⟨_, ?_, Fix.pairwise_applied inside, Fix.applyAll_eq_replaced inside⟩,
        Fix.untouched_sublist_applyAll inside⟩
      exact (List.reverse_perm _).trans (Analysis.applied_fixes_perm fits)
  · intro files path diagnostics source read content
    exact ⟨fixed_repairFile sound read, files_repairFile read content⟩
  · rintro paths present _ rfl repaired
    have printed := @line_mem_checkPaths world analysis sound paths present
      (mt List.length_eq_zero_iff.2 repaired)
    rw [line_applied] at printed
    exact ⟨_, printed, rfl, fun shows markup => shows_applied markup _ _⟩

/-- A parser that knows two sources and gives nothing for others. -/
def knownParser : Parser := fun _ source =>
  if source = nestedRequests.source then nestedRequests
  else if source = repairedRequests.source then repairedRequests
  else Tree.blank source

def nestedWorld : World where
  files := { files := [(["a.js"], nestedRequests.source)] }
  environment := []
  encoding := "utf-8"
  parser := knownParser
  loader := EnvironmentFile.load
  escape := Terminal.escape

theorem blank_fits (source : Bytes) : (Tree.blank source).Fits source := by
  have alone : (Node.root (Tree.blank source)).children = [] := rfl
  have only : (Node.root (Tree.blank source)).preorder = [.root (Tree.blank source)] := by
    rw [Node.preorder_eq, alone]
    rfl
  refine ⟨Nat.le_refl _, ?_, ?_, ?_, ?_⟩
  all_goals
    rw [only]
    intro node listed
    obtain rfl := List.mem_singleton.1 listed
  · exact Nat.zero_le _
  · rw [alone]
    exact nofun
  · rw [alone]
    exact List.Pairwise.nil
  · exact fun _ => alone

theorem knownParser_sound : Sound knownParser := by
  intro language source
  rw [knownParser]
  split
  next same => exact same ▸ nestedRequests_fits
  next =>
    split
    next same => exact same ▸ repairedRequests_fits
    next => exact blank_fits source

theorem repairs_apply_all_fixes_nestedWorld :
    Sound nestedWorld.parser ∧
    (∀ path ∈ [Path.mk "" ["a.js"]], nestedWorld.files.pathExists path = true) ∧
    Terminal.ShowsMarkup Terminal.shown ∧
    (∃ line, .text line ∈ (checkPaths nestedWorld {} true [⟨"", ["a.js"]⟩]).printed ∧
      line = "[bold blue]🔧 Applied 2 fix(es)[/bold blue]" ∧
      Terminal.shown line = "🔧 Applied 2 fix(es)") ∧
    ∃ diagnostic ∈ Analysis.diagnose {} (.root nestedRequests) nestedRequests.source none,
      ∃ fix, diagnostic.fix? = some fix ∧ fix.start = 17 ∧ fix.stop = 19 ∧
        ∃ object ∈ (Node.root nestedRequests).preorder, Fix.ExtendsAt object fix := by
  have present : ∀ path ∈ [Path.mk "" ["a.js"]], nestedWorld.files.pathExists path = true := by
    decide +kernel
  obtain ⟨offers, _, prints⟩ := repairs_apply_all_fixes {} nestedWorld knownParser_sound
  refine ⟨knownParser_sound, present, Terminal.showsMarkup_shown, ?_, ?_⟩
  · have sources : [Path.mk "" ["a.js"]].flatMap nestedWorld.files.sourcesAt =
        [⟨"", ["a.js"]⟩] := by decide +kernel
    have found : nestedWorld.files.discover [⟨"", ["a.js"]⟩] = [⟨"", ["a.js"]⟩] := by
      rw [FileStore.discover, sources, List.mergeSort_singleton]
      rfl
    have content : nestedWorld.files.read? ⟨"", ["a.js"]⟩ = some nestedRequests.source := by
      decide +kernel
    have named : Path.language? ⟨"", ["a.js"]⟩ = some .javascript := by decide +kernel
    have known : knownParser .javascript nestedRequests.source = nestedRequests := if_pos rfl
    have read : Analysis.diagnoseFile? {} nestedWorld.parser nestedWorld.files ⟨"", ["a.js"]⟩ =
        some (Analysis.diagnose {} (.root nestedRequests) nestedRequests.source
          (Path.mk "" ["a.js"]).toString) := by
      rw [Analysis.diagnoseFile?, named, content, ← known]
      rfl
    have count : (splicedAlong nestedWorld {} nestedWorld.files
        (nestedWorld.files.discover [⟨"", ["a.js"]⟩])).length = 2 := by
      rw [found, splicedAlong, splicedAlong, List.append_nil, spliced_of_read read content,
        (Analysis.applied_fixes_perm nestedRequests_fits).length_eq]
      decide +kernel
    obtain ⟨line, printed, handed, shows⟩ := prints _ present 2 count (by decide)
    have icons : Terminal.showsIcons nestedWorld.encoding = true := by decide +kernel
    rw [icons] at handed shows
    exact ⟨line, printed, handed, shows _ Terminal.showsMarkup_shown⟩
  · have offered : ∃ diagnostic ∈ Analysis.diagnose {} (.root nestedRequests) nestedRequests.source
        none, ∃ fix ∈ diagnostic.fix?, fix.start = 17 ∧ fix.stop = 19 := by decide +kernel
    obtain ⟨diagnostic, given, fix, offered, start, stop⟩ := offered
    obtain ⟨_, _, object, listed, _, _, _, _, _, _, _, extends_⟩ :=
      (offers nestedRequests nestedRequests.source none nestedRequests_fits).1 diagnostic given fix
        offered
    exact ⟨diagnostic, given, fix, offered, start, stop, object, listed, extends_⟩

end Command
end RequestLint
