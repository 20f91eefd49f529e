import RequestLint.Files.Store

/-! What writing a file leaves alone. A write touches the content of one place. It
makes no file and no directory, so a path denotes the same place before and after,
and every other place holds what it held. -/
namespace RequestLint.FileStore

variable {before middle after store : FileStore} {path : Path} {place : Place} {content : Bytes}

/-- The stores have the same files and directories; what the files hold may differ. -/
structure SameLayout (before after : FileStore) : Prop where
  files : after.files.map Prod.fst = before.files.map Prod.fst
  directories : after.directories = before.directories
  unreadable : after.unreadable = before.unreadable
  workingDirectory : after.workingDirectory = before.workingDirectory

/-- What the file at a place holds. -/
def contentAt (store : FileStore) (place : Place) : Option Bytes := store.files.lookup place

theorem read?_eq_some_iff : store.read? path = some content ↔
    ∃ place, store.place? path = some place ∧ place ∉ store.unreadable ∧
      store.contentAt place = some content := by
  simp only [read?, Option.bind_eq_bind, Option.bind_eq_some_iff, Option.ite_none_left_eq_some]
  rfl

/-- Where directories are depends on the places of files, and not on what they hold. -/
theorem isDirectoryAt_eq (store : FileStore) (place : Place) :
    store.isDirectoryAt place = (place.isPrefixOf store.workingDirectory ||
      store.directories.any place.isPrefixOf ||
      (store.files.map Prod.fst).any fun file => place.isPrefixOf file && place ≠ file) := by
  rw [isDirectoryAt, List.any_map]
  rfl

namespace SameLayout

theorem refl (store : FileStore) : SameLayout store store := ⟨rfl, rfl, rfl, rfl⟩

theorem trans (first : SameLayout before middle) (second : SameLayout middle after) :
    SameLayout before after where
  files := second.files.trans first.files
  directories := second.directories.trans first.directories
  unreadable := second.unreadable.trans first.unreadable
  workingDirectory := second.workingDirectory.trans first.workingDirectory

theorem isDirectoryAt (same : SameLayout before after) (place : Place) :
    after.isDirectoryAt place = before.isDirectoryAt place := by
  rw [isDirectoryAt_eq, isDirectoryAt_eq, same.files, same.directories, same.workingDirectory]

theorem follow? (same : SameLayout before after) (names : List String) (place : Place) :
    after.follow? place names = before.follow? place names := by
  induction names generalizing place with
  | nil => rfl
  | cons name rest ih => rw [FileStore.follow?, FileStore.follow?, same.isDirectoryAt, ih]

theorem base (same : SameLayout before after) (path : Path) : after.base path = before.base path := by
  rw [FileStore.base, FileStore.base, same.workingDirectory]

theorem place? (same : SameLayout before after) (path : Path) :
    after.place? path = before.place? path := by
  rw [FileStore.place?, FileStore.place?, same.base, same.follow?]

/-- A reader is shown the same name. -/
theorem display (same : SameLayout before after) (path : Path) :
    after.display path = before.display path := by
  rw [FileStore.display, FileStore.display, FileStore.resolve, FileStore.resolve, same.base,
    same.workingDirectory]

/-- What is read at a path depends on the content of its place only. -/
theorem read?_congr (same : SameLayout before after)
    (kept : ∀ place, before.place? path = some place →
      after.contentAt place = before.contentAt place) :
    after.read? path = before.read? path := by
  rw [read?, read?, same.place?, same.unreadable]
  cases denoted : before.place? path with
  | none => rfl
  | some place =>
    have held := kept place denoted
    rw [contentAt, contentAt] at held
    rw [Option.bind_eq_bind, Option.bind_some, Option.bind_some, held]

end SameLayout

theorem sameLayout_write (store : FileStore) (path : Path) (content : Bytes) :
    SameLayout store (store.write path content) := by
  rw [write]
  split
  · exact .refl store
  · refine ⟨?_, rfl, rfl, rfl⟩
    rw [List.map_map]
    rfl

/-- The place that is written holds the new content if it held any; other places hold
what they held. -/
theorem contentAt_write (denoted : store.place? path = some place) (other : Place) :
    (store.write path content).contentAt other =
      if other = place then (store.contentAt other).map fun _ => content
      else store.contentAt other := by
  rw [write, denoted, contentAt, contentAt]
  dsimp only
  induction store.files with
  | nil => simp
  | cons entry rest ih =>
    obtain ⟨file, old⟩ := entry
    rw [List.map_cons, List.lookup_cons, List.lookup_cons, ih]
    by_cases here : other = file
    · subst here
      simp only [beq_self_eq_true, Option.map_some]
      split
      · rfl
      · rfl
    · have missed : (other == file) = false := beq_false_of_ne here
      rw [missed]

theorem contentAt_write_of_ne (elsewhere : store.place? path ≠ some place) :
    (store.write path content).contentAt place = store.contentAt place := by
  cases denoted : store.place? path with
  | none => rw [write, denoted]
  | some written =>
    have apart : place ≠ written := by
      rintro rfl
      exact elsewhere denoted
    rw [contentAt_write denoted, if_neg apart]

/-- What is written can be read, if anything could. -/
theorem read?_write {old : Bytes} (held : store.read? path = some old) :
    (store.write path content).read? path = some content := by
  obtain ⟨place, denoted, readable, found⟩ := read?_eq_some_iff.1 held
  have same := sameLayout_write store path content
  refine read?_eq_some_iff.2 ⟨place, (same.place? path).trans denoted, ?_, ?_⟩
  · rw [same.unreadable]
    exact readable
  · rw [contentAt_write denoted, if_pos rfl, found]
    rfl

end RequestLint.FileStore
