import RequestLint.Proofs.Command.Outcome
import RequestLint.Proofs.Files.Discovery

/-! How often a file is found. Paths are told apart by how they are written, and a file can
be written in several ways: with `..` on the way to it, or from the working directory as
well as from the root. It is found twice exactly if it lies below two roots of which one
lies below the other and is not written that way. Otherwise each file is checked once. -/
namespace RequestLint

variable {store : FileStore} {roots : List Path} {a b file root below : Path}
  {place : Place} {down rest : List String}

theorem Path.join_nil (path : Path) : path.join [] = path := by
  rw [join, List.append_nil]

theorem Path.join_append (path : Path) (down rest : List String) :
    path.join (down ++ rest) = (path.join down).join rest := by
  rw [join, join, join, List.append_assoc]

theorem Path.eq_of_join_eq (same : a.join rest = b.join rest) : a = b := by
  obtain ⟨anchor, names⟩ := a
  obtain ⟨anchor', names'⟩ := b
  simpa [join] using same

namespace FileStore

/-- What is found is reached from a root by names of files. -/
theorem exists_root_of_mem_discover (named : store.WellNamed)
    (found : file ∈ store.discover roots) :
    ∃ root ∈ roots, ∃ place names, store.place? root = some place ∧
      (∀ name ∈ names, IsFileName name) ∧ file = root.join names ∧
      store.place? file = some (place ++ names) := by
  obtain ⟨_, root, given, held, rfl | ⟨_, names, _, rfl, allowed⟩⟩ :=
    (mem_discover_iff named).1 found
  · obtain ⟨place, denoted, _⟩ := isFile_iff.1 held
    refine ⟨file, given, place, [], denoted, nofun, (Path.join_nil file).symm, ?_⟩
    rw [List.append_nil, denoted]
  · have fileNames := fun name member => (allowed name member).1
    have level := level_of_isFileName fileNames
    obtain ⟨place, denoted, held⟩ := (isFile_join_iff level).1 held
    refine ⟨root, given, place, names, denoted, fileNames, rfl, ?_⟩
    rw [place?_join, denoted, Option.bind_some, follow?_of_isFileAt level held]

/-- Where one root lies at or below another and what is found is below both, the one is
written as the other, followed by the names on the way down. -/
def SpelledAlike (store : FileStore) (roots : List Path) : Prop :=
  ∀ root ∈ roots, ∀ below ∈ roots, ∀ place down, store.place? root = some place →
    store.place? below = some (place ++ down) → (∀ name ∈ down, IsFileName name) →
    ∀ rest, root.join (down ++ rest) ∈ store.discover roots →
      below.join rest ∈ store.discover roots → below = root.join down

/-- Both ways of writing a file below two roots lead to it. -/
theorem place?_join_below (denoted : store.place? root = some place)
    (denoted' : store.place? below = some (place ++ down)) (level : ".." ∉ down)
    (led : (store.place? (root.join (down ++ rest))).isSome = true) :
    store.place? (root.join (down ++ rest)) = store.place? (below.join rest) := by
  rw [place?_join, denoted, Option.bind_some, follow?_append] at led ⊢
  rw [place?_join, denoted', Option.bind_some]
  cases reached : store.follow? place down with
  | none =>
    rw [reached] at led
    cases led
  | some reached' => rw [eq_append_of_follow? level reached, Option.bind_some]

/-- Of two roots above one file, one lies at or below the other, and how they are written
decides whether the file is found once. -/
theorem nodup_places_discover_iff (named : store.WellNamed) :
    ((store.discover roots).map store.place?).Nodup ↔ store.SpelledAlike roots := by
  have distinct : (store.discover roots).Nodup := Path.nodup_eraseDups _
  rw [List.nodup_map_iff_inj_on distinct]
  constructor
  · intro differ root _ below _ place down denoted denoted' fileNames rest found found'
    have led : (store.place? (root.join (down ++ rest))).isSome = true := by
      obtain ⟨_, _, _, _, _, _, _, reached⟩ := exists_root_of_mem_discover named found
      rw [reached]
      rfl
    have one := differ _ found _ found'
      (place?_join_below denoted denoted' (level_of_isFileName fileNames) led)
    rw [Path.join_append] at one
    exact (Path.eq_of_join_eq one).symm
  · intro alike a found b found' same
    have one {root below : Path} {place : Place} {down rest : List String} (given : root ∈ roots)
        (given' : below ∈ roots) (denoted : store.place? root = some place)
        (denoted' : store.place? below = some (place ++ down))
        (fileNames : ∀ name ∈ down ++ rest, IsFileName name)
        (found : root.join (down ++ rest) ∈ store.discover roots)
        (found' : below.join rest ∈ store.discover roots) :
        root.join (down ++ rest) = below.join rest := by
      have spelled := alike root given below given' place down denoted denoted'
        (fun name member => fileNames name (List.mem_append_left _ member)) rest found found'
      rw [spelled, Path.join_append]
    obtain ⟨root, given, place, names, denoted, fileNames, rfl, reached⟩ :=
      exists_root_of_mem_discover named found
    obtain ⟨root', given', place', names', denoted', fileNames', rfl, reached'⟩ :=
      exists_root_of_mem_discover named found'
    rw [reached, reached', Option.some.injEq, List.append_eq_append_iff] at same
    obtain ⟨down, rfl, rfl⟩ | ⟨down, rfl, rfl⟩ := same
    · exact one given given' denoted denoted' fileNames found found'
    · exact (one given' given denoted' denoted fileNames' found' found).symm

/-- Sources that come in order are found in that order. -/
theorem discover_of_sorted {sources : List Path} (stood : roots.flatMap store.sourcesAt = sources)
    (sorted : sources.Pairwise fun a b => a.le b = true) :
    store.discover roots = sources.eraseDups := by
  rw [discover, stood, List.mergeSort_of_pairwise sorted]

/-- Without `..` a path spells its place. -/
theorem spelledAlike_of_level (level : ∀ root ∈ roots, ".." ∉ root.names)
    (anchored : ∀ root ∈ roots, ∀ other ∈ roots, root.anchor = other.anchor) :
    store.SpelledAlike roots := by
  intro root given below given' place down denoted denoted' _ _ _ _
  have anchor := anchored root given below given'
  have spelled := eq_append_of_follow? (level root given) denoted
  have spelled' := eq_append_of_follow? (level below given') denoted'
  have same : store.base root = store.base below := by
    rw [base, base, Path.isAbsolute, Path.isAbsolute, anchor]
  rw [spelled, same, List.append_assoc, List.append_cancel_left_eq] at spelled'
  obtain ⟨_, _⟩ := below
  rw [Path.join, spelled', anchor]

theorem spelledAlike_of_apart (apart : ∀ root ∈ roots, ∀ below ∈ roots, ∀ place down,
      store.place? root = some place → store.place? below = some (place ++ down) →
      below = root) : store.SpelledAlike roots := by
  intro root given below given' place down denoted denoted' _ _ _ _
  obtain rfl := apart root given below given' place down denoted denoted'
  rw [denoted, Option.some.injEq, List.self_eq_append_right] at denoted'
  rw [denoted', Path.join_nil]

end FileStore

namespace Command
open FileStore

/-- Roots find no file twice exactly if they are spelled alike, and then each file found is
diagnosed once and its fixes are applied once. Roots are spelled alike if they have one
anchor and no `..`, or if none lies below another, however it is written. -/
theorem files_checked_once_iff_spelledAlike {world : World} (named : world.files.WellNamed)
    (present : ∀ root ∈ roots, world.files.pathExists root = true) (analysis : Analysis)
    (fix : Bool) :
    (((world.files.discover roots).map world.files.place?).Nodup ↔
      world.files.SpelledAlike roots) ∧
    (world.files.SpelledAlike roots →
      Concludes world analysis fix (world.files.discover roots)
        (checkPaths world analysis fix roots)) ∧
    ((∀ root ∈ roots, ".." ∉ root.names) →
      (∀ root ∈ roots, ∀ other ∈ roots, root.anchor = other.anchor) →
      world.files.SpelledAlike roots) ∧
    ((∀ root ∈ roots, ∀ below ∈ roots, ∀ place down,
        world.files.place? root = some place →
        world.files.place? below = some (place ++ down) → below = root) →
      world.files.SpelledAlike roots) := by
  refine ⟨nodup_places_discover_iff named, fun alike => ?_, spelledAlike_of_level,
    spelledAlike_of_apart⟩
  refine concludes_checkPaths present fun a found b found' place denoted same => ?_
  exact List.inj_on_of_nodup_map ((nodup_places_discover_iff named).2 alike) found found'
    (denoted.trans same.symm)

/-- One file, and a directory next to it. -/
def aliasedWorld : World :=
  { nestedWorld with
    files := { files := [(["a.js"], nestedRequests.source)], directories := [["b"]] } }

theorem length_rows_checkPaths {world : World} {analysis : Analysis} {fix : Bool}
    {found : List Path}
    (present : ∀ root ∈ roots, world.files.pathExists root = true)
    (discovered : world.files.discover roots = found) :
    (checkPaths world analysis fix roots).rows.length =
      (found.foldl (checkFile world analysis fix) { files := world.files }).problems.length := by
  have plain := @rows_foldl_checkFile world analysis fix found { files := world.files } rfl
  rw [checkPaths_of_present present, discovered, (conclude_spec plain _).2.2, List.length_map,
    reportOrder, List.length_mergeSort]

theorem files_checked_once_iff_spelledAlike_aliasedWorld :
    aliasedWorld.files.WellNamed ∧
    (∀ root ∈ [".", "a.js"].map Path.ofString, aliasedWorld.files.pathExists root = true) ∧
    aliasedWorld.files.discover ([".", "a.js"].map .ofString) = [⟨"", ["a.js"]⟩] ∧
    ((aliasedWorld.files.discover ([".", "a.js"].map .ofString)).map
      aliasedWorld.files.place?).Nodup ∧
    (checkPaths aliasedWorld ⟨{}, [.jsonContentType]⟩ false
      ([".", "a.js"].map .ofString)).rows.length = 2 := by
  have named : aliasedWorld.files.WellNamed := by decide +kernel
  have present : ∀ root ∈ [".", "a.js"].map Path.ofString,
      aliasedWorld.files.pathExists root = true := by decide +kernel
  have stood : ([".", "a.js"].map Path.ofString).flatMap aliasedWorld.files.sourcesAt =
      [⟨"", ["a.js"]⟩, ⟨"", ["a.js"]⟩] := by decide +kernel
  have found : aliasedWorld.files.discover ([".", "a.js"].map .ofString) = [⟨"", ["a.js"]⟩] :=
    discover_of_sorted stood (by decide +kernel)
  obtain ⟨once, concludes, level, _⟩ :=
    files_checked_once_iff_spelledAlike named present ⟨{}, [.jsonContentType]⟩ false
  have alike := level (by decide +kernel) (by decide +kernel)
  refine ⟨named, present, found, once.2 alike, ?_⟩
  obtain ⟨ordered, same, _, rows⟩ := (concludes alike).rows
  rw [rows, List.length_map, same.length_eq, (concludes alike).untouched rfl, found]
  decide +kernel

/-- Below a directory that is left at once, the file is another one to the search. -/
theorem aliasedWorld_checked_twice :
    aliasedWorld.files.WellNamed ∧
    (∀ root ∈ ["a.js", "b/../a.js"].map Path.ofString,
      aliasedWorld.files.pathExists root = true) ∧
    (aliasedWorld.files.discover (["a.js", "b/../a.js"].map .ofString)).map
      aliasedWorld.files.place? = [some ["a.js"], some ["a.js"]] ∧
    (checkPaths aliasedWorld ⟨{}, [.jsonContentType]⟩ false
      (["a.js", "b/../a.js"].map .ofString)).rows.length = 4 := by
  have present : ∀ root ∈ ["a.js", "b/../a.js"].map Path.ofString,
      aliasedWorld.files.pathExists root = true := by decide +kernel
  have stood : (["a.js", "b/../a.js"].map Path.ofString).flatMap aliasedWorld.files.sourcesAt =
      [⟨"", ["a.js"]⟩, ⟨"", ["b", "..", "a.js"]⟩] := by decide +kernel
  have found := discover_of_sorted stood (by decide +kernel)
  refine ⟨by decide +kernel, present, ?_, ?_⟩
  · rw [found]
    decide +kernel
  · rw [length_rows_checkPaths present found]
    decide +kernel

end Command
end RequestLint
