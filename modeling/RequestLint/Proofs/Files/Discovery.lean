import RequestLint.Files.Discovery
import RequestLint.Proofs.Files.Path
import RequestLint.Proofs.Text.LetterCase

/-! Which files are found. A path that is a file stands for itself, and any other path for
the files below it that can be reached without passing an excluded name; what lies above
the path, or is written in it, excludes nothing. The files found are those that the given
paths stand for and that have the suffix of a source, each written as it was reached. -/
namespace RequestLint

def sourceSuffixes : List String :=
  [".js", ".jsx", ".mjs", ".cjs", ".ts", ".mts", ".cts", ".tsx"]

/-- The path ends in the suffix of a source, in capitals or not. -/
def Path.HasSourceSuffix (path : Path) : Prop :=
  ∃ suffix ∈ sourceSuffixes, path.suffix.toList.map Char.toLower = suffix.toList

instance (path : Path) : Decidable path.HasSourceSuffix :=
  inferInstanceAs (Decidable (∃ suffix ∈ sourceSuffixes, _))

theorem isSome_ofSuffix?_iff {suffix : String} :
    (Language.ofSuffix? suffix).isSome = true ↔ Text.lower suffix ∈ sourceSuffixes := by
  rw [Language.ofSuffix?]
  generalize Text.lower suffix = lowered
  constructor
  · intro known
    by_contra unlisted
    have outside {part : List String} (listed : part ⊆ sourceSuffixes) : lowered ∉ part :=
      fun member => unlisted (listed member)
    rw [if_neg (outside (by decide)), if_neg (outside (by decide)),
      if_neg fun same : lowered = ".tsx" => unlisted (same ▸ by decide)] at known
    cases known
  · revert lowered
    decide

theorem Path.isSource_iff {path : Path} : path.isSource = true ↔ path.HasSourceSuffix := by
  have plain : ∀ suffix ∈ sourceSuffixes, suffix.toList.all Text.isDistinctive = true := by decide
  rw [isSource, language?, isSome_ofSuffix?_iff, HasSourceSuffix]
  constructor
  · intro listed
    exact ⟨_, listed, (Text.lower_eq_iff (List.all_eq_true.1 (plain _ listed))).1 rfl⟩
  · rintro ⟨suffix, listed, same⟩
    rw [(Text.lower_eq_iff (List.all_eq_true.1 (plain suffix listed))).2 same]
    exact listed

/-- What a file or a directory can be called. -/
def IsFileName (name : String) : Prop := name ∉ ["", ".", ".."] ∧ '/' ∉ name.toList

instance (name : String) : Decidable (IsFileName name) := inferInstanceAs (Decidable (_ ∧ _))

namespace FileStore

variable {store : FileStore} {place reached : Place} {path candidate : Path} {names : List String}

/-- All files lie where files can lie. -/
def WellNamed (store : FileStore) : Prop := ∀ file ∈ store.files, ∀ name ∈ file.1, IsFileName name

instance (store : FileStore) : Decidable store.WellNamed :=
  inferInstanceAs (Decidable (∀ file ∈ store.files, _))

theorem isFileAt_iff : store.isFileAt place = true ↔ ∃ content, (place, content) ∈ store.files := by
  rw [isFileAt, List.any_eq_true]
  constructor
  · rintro ⟨⟨file, content⟩, member, same⟩
    exact ⟨content, of_decide_eq_true same ▸ member⟩
  · rintro ⟨content, member⟩
    exact ⟨_, member, decide_eq_true rfl⟩

theorem WellNamed.isFileName (named : store.WellNamed)
    (file : store.isFileAt (place ++ names) = true) : ∀ name ∈ names, IsFileName name := by
  obtain ⟨content, member⟩ := isFileAt_iff.1 file
  exact fun name below => named _ member name (List.mem_append_right _ below)

theorem follow?_append (place : Place) (first second : List String) :
    store.follow? place (first ++ second) =
      (store.follow? place first).bind (store.follow? · second) := by
  induction first generalizing place with
  | nil => rfl
  | cons name rest ih =>
    rw [List.cons_append, follow?, follow?]
    split
    · exact ih _
    · rfl

/-- Names that do not climb lead down. -/
theorem eq_append_of_follow? (level : ".." ∉ names)
    (led : store.follow? place names = some reached) : reached = place ++ names := by
  induction names generalizing place with
  | nil =>
    cases led
    exact (List.append_nil _).symm
  | cons name rest ih =>
    rw [List.mem_cons, not_or] at level
    rw [follow?, Option.ite_none_right_eq_some, if_neg (Ne.symm level.1)] at led
    rw [ih level.2 led.2, List.append_assoc, List.singleton_append]

/-- A file is reached through the directories above it. -/
theorem follow?_of_isFileAt (level : ".." ∉ names)
    (file : store.isFileAt (place ++ names) = true) :
    store.follow? place names = some (place ++ names) := by
  induction names generalizing place with
  | nil => rw [follow?, List.append_nil]
  | cons name rest ih =>
    rw [List.mem_cons, not_or] at level
    have above : store.isDirectoryAt place = true := by
      obtain ⟨content, member⟩ := isFileAt_iff.1 file
      rw [isDirectoryAt, Bool.or_eq_true, List.any_eq_true]
      refine Or.inr ⟨_, member, ?_⟩
      simp
    rw [List.append_cons] at file ⊢
    rw [follow?, if_pos above, if_neg (Ne.symm level.1)]
    exact ih level.2 file

theorem place?_join (path : Path) (names : List String) :
    store.place? (path.join names) = (store.place? path).bind (store.follow? · names) :=
  follow?_append _ _ _

theorem isFile_iff : store.isFile path = true ↔
    ∃ place, store.place? path = some place ∧ store.isFileAt place = true := by
  rw [isFile, Option.any_eq_true]

/-- Names of files lead from a path to a file where they are the rest of its place. -/
theorem isFile_join_iff (level : ".." ∉ names) : store.isFile (path.join names) = true ↔
    ∃ place, store.place? path = some place ∧ store.isFileAt (place ++ names) = true := by
  simp only [isFile_iff, place?_join, Option.bind_eq_some_iff]
  constructor
  · rintro ⟨reached, ⟨place, denoted, led⟩, file⟩
    rw [eq_append_of_follow? level led] at file
    exact ⟨place, denoted, file⟩
  · rintro ⟨place, denoted, file⟩
    exact ⟨_, ⟨place, denoted, follow?_of_isFileAt level file⟩, file⟩

theorem mem_filesBelow_iff :
    names ∈ store.filesBelow place ↔ names ≠ [] ∧ store.isFileAt (place ++ names) = true := by
  rw [filesBelow, List.mem_map]
  constructor
  · rintro ⟨⟨file, content⟩, member, rfl⟩
    obtain ⟨member, below⟩ := List.mem_filter.1 member
    simp only [Bool.and_eq_true, List.isPrefixOf_iff_prefix, decide_eq_true_eq] at below
    obtain ⟨⟨rest, rfl⟩, proper⟩ := below
    dsimp only
    rw [List.drop_left]
    refine ⟨fun empty => proper ?_, isFileAt_iff.2 ⟨content, member⟩⟩
    rw [empty, List.append_nil]
  · rintro ⟨proper, file⟩
    obtain ⟨content, member⟩ := isFileAt_iff.1 file
    refine ⟨(place ++ names, content), List.mem_filter.2 ⟨member, ?_⟩, List.drop_left⟩
    simp [proper]

theorem mem_sourcesAt_iff_place : candidate ∈ store.sourcesAt path ↔
    candidate.isSource = true ∧ ∃ place, store.place? path = some place ∧
      (store.isFileAt place = true ∧ candidate = path ∨
        store.isFileAt place = false ∧ ∃ names, names ≠ [] ∧
          store.isFileAt (place ++ names) = true ∧ (∀ name ∈ names, name ∉ excludedNames) ∧
          candidate = path.join names) := by
  rw [sourcesAt]
  cases store.place? path with
  | none => simp
  | some place =>
    dsimp only
    cases file : store.isFileAt place with
    | true =>
      rw [if_pos rfl, List.mem_filter, List.mem_singleton, and_comm]
      refine and_congr_right fun _ => ⟨fun same => ⟨place, rfl, Or.inl ⟨file, same⟩⟩, ?_⟩
      rintro ⟨_, denoted, ⟨_, same⟩ | ⟨other, _⟩⟩
      · exact same
      · cases denoted
        cases file.symm.trans other
    | false =>
      simp only [Bool.false_eq_true, if_false, List.mem_filter, List.mem_map, mem_filesBelow_iff,
        Bool.not_eq_true', List.any_eq_false, decide_eq_true_eq, Option.some.injEq]
      constructor
      · rintro ⟨⟨names, ⟨⟨proper, held⟩, allowed⟩, rfl⟩, source⟩
        exact ⟨source, place, rfl, Or.inr ⟨file, names, proper, held, allowed, rfl⟩⟩
      · rintro ⟨source, _, rfl, ⟨other, _⟩ | ⟨_, names, proper, held, allowed, rfl⟩⟩
        · cases file.symm.trans other
        · exact ⟨⟨names, ⟨⟨proper, held⟩, allowed⟩, rfl⟩, source⟩

/-- The path is this file, or it is no file and the file lies below it, with no excluded
name on the way down. -/
def StandsFor (store : FileStore) (path file : Path) : Prop :=
  store.isFile file = true ∧
    (file = path ∨ store.isFile path = false ∧ ∃ names, names ≠ [] ∧ file = path.join names ∧
      ∀ name ∈ names, IsFileName name ∧ name ∉ excludedNames)

theorem level_of_isFileName (named : ∀ name ∈ names, IsFileName name) : ".." ∉ names :=
  fun climbs => (named _ climbs).1 (by simp)

theorem mem_sourcesAt_iff (named : store.WellNamed) : candidate ∈ store.sourcesAt path ↔
    candidate.isSource = true ∧ store.StandsFor path candidate := by
  rw [mem_sourcesAt_iff_place]
  refine and_congr_right fun _ => ⟨?_, ?_⟩
  · rintro ⟨place, denoted, ⟨file, rfl⟩ | ⟨other, names, proper, held, allowed, rfl⟩⟩
    · exact ⟨isFile_iff.2 ⟨place, denoted, file⟩, Or.inl rfl⟩
    · have fileNames := named.isFileName held
      have none_here : store.isFile path = false := by
        rw [isFile, denoted, Option.any_some, other]
      refine ⟨(isFile_join_iff (level_of_isFileName fileNames)).2 ⟨place, denoted, held⟩,
        Or.inr ⟨none_here, names, proper, rfl, fun name below => ?_⟩⟩
      exact ⟨fileNames name below, allowed name below⟩
  · rintro ⟨held, rfl | ⟨other, names, proper, rfl, allowed⟩⟩
    · obtain ⟨place, denoted, file⟩ := isFile_iff.1 held
      exact ⟨place, denoted, Or.inl ⟨file, rfl⟩⟩
    · have level := level_of_isFileName fun name below => (allowed name below).1
      obtain ⟨place, denoted, held⟩ := (isFile_join_iff level).1 held
      rw [isFile, denoted, Option.any_some] at other
      exact ⟨place, denoted, Or.inr ⟨other, names, proper, held,
        fun name below => (allowed name below).2, rfl⟩⟩

/-- Sorting and dropping repetitions keep the members. -/
theorem mem_discover_iff (named : store.WellNamed) {paths : List Path} :
    candidate ∈ store.discover paths ↔
      candidate.HasSourceSuffix ∧ ∃ path ∈ paths, store.StandsFor path candidate := by
  rw [discover, List.mem_eraseDups, List.mem_mergeSort, List.mem_flatMap]
  simp only [mem_sourcesAt_iff named, Path.isSource_iff]
  constructor
  · rintro ⟨path, given, source, stands⟩
    exact ⟨source, path, given, stands⟩
  · rintro ⟨source, path, given, stands⟩
    exact ⟨path, given, source, stands⟩

theorem StandsFor.wellFormed (stands : store.StandsFor path candidate)
    (wellFormed : path.WellFormed) : candidate.WellFormed := by
  rcases stands.2 with rfl | ⟨_, names, _, rfl, allowed⟩
  · exact wellFormed
  · exact wellFormed.join fun name below => (allowed name below).1.2

theorem pairwise_before_discover (named : store.WellNamed) {paths : List Path}
    (wellFormed : ∀ path ∈ paths, path.WellFormed) :
    (store.discover paths).Pairwise Path.Before := by
  refine Path.pairwise_before_of_wellFormed fun candidate member => ?_
  obtain ⟨path, given, member⟩ := List.mem_flatMap.1 member
  exact ((mem_sourcesAt_iff named).1 member).2.wellFormed (wellFormed path given)

/-- The files found are exactly those that the given paths stand for and that end in the
suffix of a source. They are listed in order without repetition, so that they do not
depend on the order in which paths are given, nor on how often; and paths that are given
together find what each of them finds. -/
theorem discover_finds_exactly (named : store.WellNamed) (given : List String) :
    (store.discover (given.map .ofString)).Pairwise Path.Before ∧
    (∀ file, file ∈ store.discover (given.map .ofString) ↔
      file.HasSourceSuffix ∧ ∃ path ∈ given.map Path.ofString, store.StandsFor path file) ∧
    (∀ others : List String,
      (∀ path, path ∈ others.map Path.ofString ↔ path ∈ given.map Path.ofString) →
      store.discover (others.map .ofString) = store.discover (given.map .ofString)) ∧
    ∀ others : List String, ∀ file, file ∈ store.discover ((given ++ others).map .ofString) ↔
      file ∈ store.discover (given.map .ofString) ∨
        file ∈ store.discover (others.map .ofString) := by
  have ordered (texts : List String) :
      (store.discover (texts.map .ofString)).Pairwise Path.Before := by
    refine pairwise_before_discover named fun path member => ?_
    obtain ⟨text, _, rfl⟩ := List.mem_map.1 member
    exact Path.wellFormed_ofString text
  refine ⟨ordered given, fun file => mem_discover_iff named, ?_, ?_⟩
  · intro others same
    refine Path.eq_of_mem_iff (ordered others) (ordered given) fun file => ?_
    simp only [mem_discover_iff named, same]
  · intro others file
    simp only [mem_discover_iff named, List.map_append, List.mem_append, or_and_right, exists_or,
      and_or_left]

/-- A source below `src`, one in its build output, and one of a dependency. -/
def crowdedStore : FileStore where
  files :=
    [(["src", "A.JS"], []), (["src", "dist", "b.ts"], []), (["node_modules", "m", "i.js"], [])]

theorem discover_finds_exactly_crowdedStore :
    crowdedStore.WellNamed ∧
    ⟨"", ["src", "A.JS"]⟩ ∈ crowdedStore.discover (["src", "node_modules/m"].map .ofString) ∧
    ⟨"", ["node_modules", "m", "i.js"]⟩ ∈
      crowdedStore.discover (["src", "node_modules/m"].map .ofString) ∧
    ⟨"", ["src", "dist", "b.ts"]⟩ ∉
      crowdedStore.discover (["src", "node_modules/m"].map .ofString) ∧
    crowdedStore.discover (["node_modules/m", "src", "src/."].map .ofString) =
      crowdedStore.discover (["src", "node_modules/m"].map .ofString) := by
  have named : crowdedStore.WellNamed := by decide +kernel
  have read : ["src", "node_modules/m"].map Path.ofString =
      [⟨"", ["src"]⟩, ⟨"", ["node_modules", "m"]⟩] := by decide +kernel
  have read' : ["node_modules/m", "src", "src/."].map Path.ofString =
      [⟨"", ["node_modules", "m"]⟩, ⟨"", ["src"]⟩, ⟨"", ["src"]⟩] := by decide +kernel
  obtain ⟨_, members, unordered, _⟩ := discover_finds_exactly named ["src", "node_modules/m"]
  refine ⟨named, (members _).2 ⟨by decide +kernel, ?_⟩, (members _).2 ⟨by decide +kernel, ?_⟩, ?_,
    unordered _ fun path => ?_⟩
  · exact ⟨⟨"", ["src"]⟩, by rw [read]; simp,
      by decide +kernel, Or.inr ⟨by decide +kernel, ["A.JS"], by decide +kernel⟩⟩
  · exact ⟨⟨"", ["node_modules", "m"]⟩, by rw [read]; simp,
      by decide +kernel, Or.inr ⟨by decide +kernel, ["i.js"], by decide +kernel⟩⟩
  · intro found
    obtain ⟨_, path, given, _, stands⟩ := (members _).1 found
    rw [read] at given
    simp only [List.mem_cons, List.not_mem_nil, or_false] at given
    rcases given with rfl | rfl
    · simp [Path.join, excludedNames] at stands
    · simp [Path.join] at stands
  · rw [read, read']
    simp [or_comm]

end FileStore
end RequestLint
