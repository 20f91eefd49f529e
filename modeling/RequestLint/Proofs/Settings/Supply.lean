import RequestLint.Settings.Supply

/-! What loading a file of variables is taken to do, and that the loader here does it:
a variable that is set keeps its value, and the others get those that the file gives. -/
namespace RequestLint

/-- The loader only sets variables that were not set, to the value that the file's
`bindings` have for them, and misses none of them unless something keeps it from the rest.
Without a file it does nothing. -/
structure Environment.Loader.Supplies (loader : Environment.Loader)
    (bindings : Environment → Bytes → String → Option String) : Prop where
  absent : ∀ environment, loader environment none = (environment, none)
  added : ∀ environment content name,
    (loader environment (some content)).1.get? name = environment.get? name ∨
      environment.get? name = none ∧
        (loader environment (some content)).1.get? name = bindings environment content name
  complete : ∀ environment content, (loader environment (some content)).2 = none → ∀ name,
    (loader environment (some content)).1.get? name =
      (environment.get? name).or (bindings environment content name)

namespace Environment

variable {environment next : Environment} {file : EnvironmentFile} {name value : String}

theorem get?_unset (environment : Environment) {name other : String} (apart : other ≠ name) :
    (environment.unset name).get? other = environment.get? other := by
  induction environment with
  | nil => rfl
  | cons entry rest ih =>
    obtain ⟨key, value⟩ := entry
    rw [get?, get?, unset]
    by_cases dropped : key = name
    · have missed : (other == key) = false := beq_false_of_ne (dropped ▸ apart)
      rw [List.filter_cons_of_neg (by simpa using dropped), List.lookup_cons, missed]
      exact ih
    · rw [List.filter_cons_of_pos (by simpa using dropped), List.lookup_cons, List.lookup_cons]
      cases other == key with
      | true => rfl
      | false => exact ih

theorem get?_set (given : environment.set name value = .ok next) (other : String) :
    next.get? other = if other = name then some value else environment.get? other := by
  rw [set] at given
  split at given
  next => cases given
  next =>
    split at given
    next => cases given
    next =>
      cases given
      rw [get?, List.lookup_cons]
      split
      next same => rw [if_pos (eq_of_beq same)]
      next apart =>
        have apart : other ≠ name := ne_of_beq_false apart
        rw [if_neg apart]
        exact get?_unset environment apart

/-- A variable that is set keeps its value; one that is not may get that of the file. -/
theorem get?_supplyNames (names : List String) (environment : Environment) (name : String) :
    (supplyNames file environment names).1.get? name = environment.get? name ∨
      environment.get? name = none ∧
        (supplyNames file environment names).1.get? name = file.get? name := by
  fun_induction supplyNames file environment names with
  | case1 environment => exact .inl rfl
  | case2 environment first names value bound missing next given ih =>
    have here := get?_set given name
    by_cases same : name = first
    · subst same
      rw [if_pos rfl] at here
      refine .inr ⟨missing, ?_⟩
      obtain kept | ⟨unset, _⟩ := ih
      · rw [kept, here, bound]
      · rw [here] at unset
        cases unset
    · rw [if_neg same] at here
      rw [here] at ih
      exact ih
  | case3 environment first names value bound missing cause refused => exact .inl rfl
  | case4 environment first names skipped ih => exact ih

theorem get?_supplyNames_of_some (names : List String) {environment : Environment}
    (held : environment.get? name = some value) :
    (supplyNames file environment names).1.get? name = some value := by
  obtain kept | ⟨unset, _⟩ := @get?_supplyNames file names environment name
  · exact kept.trans held
  · cases held.symm.trans unset

/-- With nothing in the way, each of the names has its value from the file unless it was
set. -/
theorem get?_supplyNames_complete {names : List String} {environment : Environment}
    (complete : (supplyNames file environment names).2 = none) {name : String}
    (member : name ∈ names) :
    (supplyNames file environment names).1.get? name =
      (environment.get? name).or (file.get? name) := by
  fun_induction supplyNames file environment names with
  | case1 environment => cases member
  | case2 environment first names value bound missing next given ih =>
    have here := get?_set given name
    by_cases same : name = first
    · subst same
      rw [if_pos rfl] at here
      rw [missing, bound, Option.none_or, get?_supplyNames_of_some names here]
    · rw [if_neg same] at here
      rw [ih complete (List.mem_of_ne_of_mem same member), here]
  | case3 environment first names value bound missing cause refused => cases complete
  | case4 environment first names skipped ih =>
    obtain rfl | later := List.mem_cons.1 member
    · cases held : environment.get? name with
      | some value =>
        rw [get?_supplyNames_of_some names held]
        rfl
      | none =>
        have unbound : file.get? name = none := by
          rw [Option.eq_none_iff_forall_ne_some]
          exact fun value bound => skipped value held bound
        obtain kept | ⟨_, given⟩ := @get?_supplyNames file names environment name
        · rw [kept, held, unbound]
          rfl
        · rw [given, Option.none_or]
    · exact ih complete later

theorem map_fst_foldl {extend : EnvironmentFile → String × Option String → EnvironmentFile}
    (extends_ : ∀ bound entry, (extend bound entry).map Prod.fst = bound.map Prod.fst ++ [entry.1])
    (file bound : EnvironmentFile) :
    (file.foldl extend bound).map Prod.fst = bound.map Prod.fst ++ file.map Prod.fst := by
  induction file generalizing bound with
  | nil => exact (List.append_nil _).symm
  | cons entry rest ih =>
    rw [List.foldl_cons, ih, extends_, List.append_assoc]
    rfl

/-- Filling references changes no name. -/
theorem map_fst_resolve (environment : Environment) (file : EnvironmentFile) :
    (environment.resolve file).map Prod.fst = file.map Prod.fst :=
  map_fst_foldl (fun _ _ => List.map_append) file []

theorem mem_of_get? {file : EnvironmentFile} (bound : file.get? name = some value) :
    name ∈ file.map Prod.fst := by
  rw [EnvironmentFile.get?, Option.join_eq_some_iff] at bound
  obtain ⟨before, after, split, _⟩ := List.lookup_eq_some_iff.1 bound
  have member : (name, some value) ∈ file := by
    rw [← List.mem_reverse, split]
    exact List.mem_append_right _ List.mem_cons_self
  exact List.mem_map.2 ⟨_, member, rfl⟩

theorem get?_supply (environment : Environment) (file : EnvironmentFile) (name : String) :
    (environment.supply file).1.get? name = environment.get? name ∨
      environment.get? name = none ∧
        (environment.supply file).1.get? name = (environment.resolve file).get? name :=
  get?_supplyNames _ environment name

theorem get?_supply_complete (complete : (environment.supply file).2 = none) (name : String) :
    (environment.supply file).1.get? name =
      (environment.get? name).or ((environment.resolve file).get? name) := by
  by_cases member : name ∈ file.map Prod.fst
  · exact get?_supplyNames_complete complete member
  · have unbound : (environment.resolve file).get? name = none := by
      rw [Option.eq_none_iff_forall_ne_some]
      intro value bound
      rw [← map_fst_resolve environment file] at member
      exact member (mem_of_get? bound)
    obtain kept | ⟨unset, given⟩ := get?_supply environment file name
    · rw [kept, unbound, Option.or_none]
    · rw [given, unset, Option.none_or]

end Environment

namespace EnvironmentFile

/-- The value of a name in a file, with its references filled. -/
def offered (environment : Environment) (content : Bytes) (name : String) : Option String :=
  (read content).toOption.bind fun file => (environment.resolve file).get? name

theorem supplies_load : load.Supplies offered := by
  constructor
  case absent => exact fun _ => rfl
  case added =>
    intro environment content name
    rw [load, offered]
    cases read content with
    | error fault => exact .inl rfl
    | ok file => exact environment.get?_supply file name
  case complete =>
    intro environment content complete name
    rw [load] at complete ⊢
    rw [offered]
    cases given : read content with
    | error fault =>
      rw [given] at complete
      cases complete
    | ok file =>
      rw [given] at complete
      exact Environment.get?_supply_complete complete name

end EnvironmentFile
end RequestLint
