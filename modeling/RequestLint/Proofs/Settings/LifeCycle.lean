import RequestLint.Proofs.Settings.Supply
import RequestLint.Proofs.Settings.Validity

/-! The life of a session: variables are set and unset, settings are loaded from files,
held and forgotten, in any order. Loading only ever adds variables, whether or not the
result is valid. What is held stays until it is forgotten, and what is loaded after that
has a number of its own. -/
namespace RequestLint

namespace Session
open Environment Settings

variable {loader : Environment.Loader} {bindings : Environment → Bytes → String → Option String}
  {store : FileStore} {session : Session} {number : Nat}

/-- What building settings does. The environment changes only by variables that were not
set; those that the file binds are all added if nothing keeps the loader from it. The
settings are built if, besides, what the environment then holds is valid. -/
structure Built (loader : Environment.Loader)
    (bindings : Environment → Bytes → String → Option String) (content? : Option Bytes)
    (before : Session) (result : Except SettingsError Nat) (after : Session) : Prop where
  added : ∀ name, after.environment.get? name = before.environment.get? name ∨
    before.environment.get? name = none ∧
      after.environment.get? name = content?.bind (bindings before.environment · name)
  complete : (loader before.environment content?).2 = none → ∀ name,
    after.environment.get? name = (before.environment.get? name).or
      (content?.bind (bindings before.environment · name))
  succeeds : (∃ number, result = .ok number) ↔ (loader before.environment content?).2 = none ∧
    RulesValid after.environment ∧ FlagValid after.environment

/-- The environment after loading, what is held, and whether a number was used up. -/
theorem load_cases (loader : Environment.Loader) (session : Session) (store : FileStore)
    (path : Path) :
    let supplied := loader session.environment (store.content? path)
    (supplied.2 = none ∧ validate supplied.1 = .ok () ∧
      session.load loader store path = (.ok session.loads, { session with
        environment := supplied.1
        loads := session.loads + 1 })) ∨
    (¬ (supplied.2 = none ∧ validate supplied.1 = .ok ()) ∧
      ∃ cause, session.load loader store path =
        (.error cause, { session with environment := supplied.1 })) := by
  rw [load]
  obtain ⟨environment, failure?⟩ := loader session.environment (store.content? path)
  cases failure? with
  | some cause => exact .inr ⟨nofun, .environment cause, rfl⟩
  | none =>
    dsimp only [Option.elim]
    cases validate environment with
    | ok => exact .inl ⟨rfl, rfl, rfl⟩
    | error cause => exact .inr ⟨nofun, cause, rfl⟩

theorem built_load (supplies : loader.Supplies bindings) (session : Session) (store : FileStore)
    (path : Path) :
    Built loader bindings (store.content? path) session (session.load loader store path).1
      (session.load loader store path).2 := by
  have environment : (session.load loader store path).2.environment =
      (loader session.environment (store.content? path)).1 := by
    obtain ⟨_, _, loaded⟩ | ⟨_, _, failed⟩ := load_cases loader session store path
    · rw [loaded]
    · rw [failed]
  refine ⟨?_, ?_, ?_⟩
  · intro name
    rw [environment]
    cases store.content? path with
    | none => exact .inl (by rw [supplies.absent])
    | some content => exact supplies.added session.environment content name
  · intro unhindered name
    rw [environment]
    cases found : store.content? path with
    | none => rw [supplies.absent, Option.bind_none, Option.or_none]
    | some content =>
      rw [found] at unhindered
      exact supplies.complete session.environment content unhindered name
  · rw [environment, ← validate_eq_ok_iff]
    obtain ⟨supplied, valid, loaded⟩ | ⟨invalid, cause, failed⟩ :=
      load_cases loader session store path
    · rw [loaded]
      exact ⟨fun _ => ⟨supplied, valid⟩, fun _ => ⟨_, rfl⟩⟩
    · rw [failed]
      exact ⟨nofun, fun valid => absurd valid invalid⟩

theorem held_load (loader : Environment.Loader) (session : Session) (store : FileStore)
    (path : Path) :
    (session.load loader store path).2.held = session.held ∧
      session.loads ≤ (session.load loader store path).2.loads := by
  obtain ⟨_, _, loaded⟩ | ⟨_, _, failed⟩ := load_cases loader session store path
  · rw [loaded]
    exact ⟨rfl, Nat.le_succ _⟩
  · rw [failed]
    exact ⟨rfl, Nat.le_refl _⟩

theorem get_of_held (held : session.held = some number) (loader : Environment.Loader)
    (store : FileStore) : session.get loader store = (.ok number, session) := by
  rw [get, held]

/-- Getting settings when none are held loads them; only success makes them held. -/
theorem get_of_none (empty : session.held = none) (loader : Environment.Loader)
    (store : FileStore) :
    (session.get loader store).1 = (session.load loader store defaultFile).1 ∧
    (session.get loader store).2.environment =
      (session.load loader store defaultFile).2.environment ∧
    ((session.get loader store).1 = .ok session.loads ∧
        (session.get loader store).2.held = some session.loads ∧
        (session.get loader store).2.loads = session.loads + 1 ∨
      (∃ cause, (session.get loader store).1 = .error cause) ∧
        (session.get loader store).2.held = none ∧
        (session.get loader store).2.loads = session.loads) := by
  rw [get, empty]
  obtain ⟨_, _, loaded⟩ | ⟨_, cause, failed⟩ := load_cases loader session store defaultFile
  · rw [loaded]
    exact ⟨rfl, rfl, .inl ⟨rfl, rfl, rfl⟩⟩
  · rw [failed]
    exact ⟨rfl, rfl, .inr ⟨⟨cause, rfl⟩, empty, rfl⟩⟩

/-- Settings are built only in an environment that is valid. -/
theorem validate_of_get (empty : session.held = none)
    (got : (session.get loader store).1 = .ok number) :
    validate (session.get loader store).2.environment = .ok () := by
  obtain ⟨result, environment, _⟩ := get_of_none empty loader store
  rw [result] at got
  rw [environment]
  obtain ⟨_, valid, loaded⟩ | ⟨_, cause, failed⟩ := load_cases loader session store defaultFile
  · rw [loaded]
    exact valid
  · rw [failed] at got
    cases got

theorem built_get (supplies : loader.Supplies bindings) (empty : session.held = none)
    (store : FileStore) :
    Built loader bindings (store.content? defaultFile) session (session.get loader store).1
      (session.get loader store).2 := by
  obtain ⟨result, environment, _⟩ := get_of_none empty loader store
  have built := built_load supplies session store defaultFile
  rw [result]
  refine ⟨?_, ?_, ?_⟩
  · rw [environment]
    exact built.added
  · rw [environment]
    exact built.complete
  · rw [environment]
    exact built.succeeds

/-- What can be done with a session. -/
inductive Operation where
  | set (name value : String)
  | unset (name : String)
  | get
  | load (path : Path)
  | reset
  deriving DecidableEq, Repr

/-- The session after an operation. A variable that cannot be set leaves it as it is. -/
def perform (loader : Environment.Loader) (store : FileStore) (session : Session) :
    Operation → Session
  | .set name value => (session.set name value).toOption.getD session
  | .unset name => session.unset name
  | .get => (session.get loader store).2
  | .load path => (session.load loader store path).2
  | .reset => session.reset

def performAll (loader : Environment.Loader) (store : FileStore) (session : Session)
    (operations : List Operation) : Session :=
  operations.foldl (perform loader store) session

/-- The session is what operations make of a new one. -/
def Reached (loader : Environment.Loader) (store : FileStore) (session : Session) : Prop :=
  ∃ environment operations,
    session = performAll loader store { environment := environment } operations

/-- All that an operation can do to the settings that are held: forget them, load some
where there were none, or leave them alone. -/
theorem perform_cases (loader : Environment.Loader) (store : FileStore) (session : Session)
    (operation : Operation) :
    (operation = .reset ∧ (perform loader store session operation).held = none ∧
      (perform loader store session operation).loads = session.loads) ∨
    (operation = .get ∧ session.held = none ∧
      (perform loader store session operation).held = some session.loads ∧
      (perform loader store session operation).loads = session.loads + 1) ∨
    (operation ≠ .reset ∧ (perform loader store session operation).held = session.held ∧
      session.loads ≤ (perform loader store session operation).loads) := by
  cases operation with
  | set name value =>
    refine .inr (.inr ⟨nofun, ?_⟩)
    rw [perform, set]
    cases session.environment.set name value with
    | ok environment => exact ⟨rfl, Nat.le_refl _⟩
    | error cause => exact ⟨rfl, Nat.le_refl _⟩
  | unset name => exact .inr (.inr ⟨nofun, rfl, Nat.le_refl _⟩)
  | get =>
    rw [perform]
    cases held : session.held with
    | some number =>
      rw [get_of_held held]
      exact .inr (.inr ⟨nofun, held, Nat.le_refl _⟩)
    | none =>
      obtain ⟨_, _, ⟨_, gained, loads⟩ | ⟨_, still, loads⟩⟩ := get_of_none held loader store
      · exact .inr (.inl ⟨rfl, rfl, gained, loads⟩)
      · exact .inr (.inr ⟨nofun, still, Nat.le_of_eq loads.symm⟩)
  | load path => exact .inr (.inr ⟨nofun, held_load loader session store path⟩)
  | reset => exact .inl ⟨rfl, rfl, rfl⟩

theorem loads_performAll (loader : Environment.Loader) (store : FileStore) (session : Session)
    (operations : List Operation) :
    session.loads ≤ (performAll loader store session operations).loads := by
  induction operations generalizing session with
  | nil => exact Nat.le_refl _
  | cons operation rest ih =>
    refine Nat.le_trans ?_ (ih (perform loader store session operation))
    obtain ⟨_, _, loads⟩ | ⟨_, _, _, loads⟩ | ⟨_, _, loads⟩ :=
      perform_cases loader store session operation
    · exact Nat.le_of_eq loads.symm
    · exact loads ▸ Nat.le_succ _
    · exact loads

/-- What is held stays as long as it is not forgotten. -/
theorem held_performAll (held : session.held = some number) {operations : List Operation}
    (kept : .reset ∉ operations) : (performAll loader store session operations).held = some number := by
  induction operations generalizing session with
  | nil => exact held
  | cons operation rest ih =>
    rw [List.mem_cons, not_or] at kept
    refine @ih (perform loader store session operation) ?_ kept.2
    obtain ⟨forgets, _⟩ | ⟨_, empty, _⟩ | ⟨_, same, _⟩ := perform_cases loader store session operation
    · exact absurd forgets.symm kept.1
    · cases held.symm.trans empty
    · exact same.trans held

/-- Without getting settings, none come to be held. -/
theorem none_performAll (empty : session.held = none) {operations : List Operation}
    (idle : .get ∉ operations) : (performAll loader store session operations).held = none := by
  induction operations generalizing session with
  | nil => exact empty
  | cons operation rest ih =>
    rw [List.mem_cons, not_or] at idle
    refine @ih (perform loader store session operation) ?_ idle.2
    obtain ⟨_, none, _⟩ | ⟨gets, _⟩ | ⟨_, same, _⟩ := perform_cases loader store session operation
    · exact none
    · exact absurd gets.symm idle.1
    · exact same.trans empty

/-- All that is held was loaded, and not as one of the first `bound`. -/
structure HeldFrom (bound : Nat) (session : Session) : Prop where
  loads : bound ≤ session.loads
  held : ∀ number, session.held = some number → bound ≤ number ∧ number < session.loads

theorem heldFrom_of_none {bound : Nat} (loads : bound ≤ session.loads)
    (empty : session.held = none) : HeldFrom bound session :=
  ⟨loads, fun _ held => nomatch empty.symm.trans held⟩

theorem HeldFrom.perform {bound : Nat} (from_ : HeldFrom bound session) (operation : Operation) :
    HeldFrom bound (perform loader store session operation) := by
  obtain ⟨_, empty, loads⟩ | ⟨_, _, gained, loads⟩ | ⟨_, same, loads⟩ :=
    perform_cases loader store session operation
  · exact heldFrom_of_none (loads ▸ from_.loads) empty
  · refine ⟨loads ▸ Nat.le_succ_of_le from_.loads, fun number held => ?_⟩
    cases gained.symm.trans held
    exact ⟨from_.loads, loads ▸ Nat.lt_succ_self _⟩
  · refine ⟨Nat.le_trans from_.loads loads, fun number held => ?_⟩
    obtain ⟨later, loaded⟩ := from_.held number (same ▸ held)
    exact ⟨later, Nat.lt_of_lt_of_le loaded loads⟩

theorem HeldFrom.performAll {bound : Nat} (from_ : HeldFrom bound session)
    (operations : List Operation) : HeldFrom bound (performAll loader store session operations) := by
  induction operations generalizing session with
  | nil => exact from_
  | cons operation rest ih => exact ih (from_.perform operation)

theorem Reached.heldFrom (reached : Reached loader store session) : HeldFrom 0 session := by
  obtain ⟨environment, operations, rfl⟩ := reached
  exact (heldFrom_of_none (Nat.zero_le _) rfl).performAll operations

/-- Settings that were got are then held, with a number below those still to come. -/
theorem HeldFrom.get {bound : Nat} (from_ : HeldFrom bound session)
    (got : (session.get loader store).1 = .ok number) :
    bound ≤ number ∧ (session.get loader store).2.held = some number ∧
      number < (session.get loader store).2.loads := by
  cases held : session.held with
  | some kept =>
    rw [get_of_held held] at got ⊢
    obtain rfl := Except.ok.inj got
    obtain ⟨later, loaded⟩ := from_.held kept held
    exact ⟨later, held, loaded⟩
  | none =>
    obtain ⟨_, _, ⟨result, gained, loads⟩ | ⟨⟨cause, failed⟩, _⟩⟩ := get_of_none held loader store
    · cases result.symm.trans got
      exact ⟨from_.loads, gained, loads ▸ Nat.lt_succ_self _⟩
    · cases failed.symm.trans got

/-- Numbers got on both sides of a `reset` differ; without one they are the same. -/
theorem same_number_iff (reached : Reached loader store session)
    (got : (session.get loader store).1 = .ok number) (between : List Operation) {number' : Nat}
    (again : ((performAll loader store (session.get loader store).2 between).get loader store).1 =
      .ok number') :
    number = number' ↔ .reset ∉ between := by
  obtain ⟨_, held, loaded⟩ := reached.heldFrom.get got
  constructor
  · rintro rfl forgotten
    obtain ⟨first, rest, rfl⟩ := List.append_of_mem forgotten
    have started := loads_performAll loader store (session.get loader store).2 first
    have emptied : HeldFrom (performAll loader store (session.get loader store).2 first).loads
        (performAll loader store (session.get loader store).2 first).reset :=
      heldFrom_of_none (Nat.le_refl _) rfl
    rw [performAll, List.foldl_append] at again
    have later := ((emptied.performAll rest).get again).1
    omega
  · intro kept
    rw [get_of_held (held_performAll held kept)] at again
    exact Except.ok.inj again

theorem held_of_failed_get {cause : SettingsError}
    (failed : (session.get loader store).1 = .error cause) :
    (session.get loader store).2.held = none := by
  cases held : session.held with
  | some kept =>
    rw [get_of_held held] at failed
    cases failed
  | none =>
    obtain ⟨_, _, ⟨result, _⟩ | ⟨_, empty, _⟩⟩ := get_of_none held loader store
    · cases result.symm.trans failed
    · exact empty

/-- The variables that settings are read from. -/
def variableNames : List String :=
  ["FETCHLINT_TARGET", "FETCHLINT_REQUIRE_QUERY_BUILDER", "FETCHLINT_RULES"]

theorem read_congr {environment other : Environment}
    (same : ∀ name ∈ variableNames, environment.get? name = other.get? name) :
    readTarget environment = readTarget other ∧ readFlag environment = readFlag other ∧
      readRules environment = readRules other ∧ Settings.read environment = Settings.read other := by
  have target : readTarget environment = readTarget other := by
    rw [readTarget, readTarget, same "FETCHLINT_TARGET" (by decide)]
  have flag : readFlag environment = readFlag other := by
    rw [readFlag, readFlag, same "FETCHLINT_REQUIRE_QUERY_BUILDER" (by decide)]
  have rules : readRules environment = readRules other := by
    rw [readRules, readRules, same "FETCHLINT_RULES" (by decide)]
  refine ⟨target, flag, rules, ?_⟩
  rw [Settings.read, Settings.read, target, flag, rules]

theorem ok_of_toOption {result : Except SettingsError Nat} (given : result.toOption = some number) :
    result = .ok number := by
  cases result with
  | ok => exact congrArg _ (Option.some.inj given)
  | error cause => cases given

/-- The life of a session, whatever has been done with it and whatever loads its files.
Settings are built by `load`, and by `get` when none are held. If they cannot be got, none
are held, and the next `get` builds them again. Two settings that were got are the same
exactly when they were not forgotten in between, and up to then a `get` changes nothing and
loads no file. What settings say is read from the environment as it is, whatever was loaded
and when. -/
theorem settings_life_cycle {loader : Environment.Loader}
    {bindings : Environment → Bytes → String → Option String}
    (supplies : loader.Supplies bindings) {store : FileStore} {session : Session}
    (reached : Reached loader store session) :
    (∀ path, Built loader bindings (store.content? path) session
      (session.load loader store path).1 (session.load loader store path).2) ∧
    (session.held = none → Built loader bindings (store.content? defaultFile) session
      (session.get loader store).1 (session.get loader store).2) ∧
    (∀ cause, (session.get loader store).1 = .error cause →
      (session.get loader store).2.held = none ∧
      ∀ between, .get ∉ between →
        let later := performAll loader store (session.get loader store).2 between
        later.held = none ∧
          (later.get loader store).1 = (later.load loader store defaultFile).1 ∧
          (later.get loader store).2.environment =
            (later.load loader store defaultFile).2.environment) ∧
    (∀ number, (session.get loader store).1 = .ok number → ∀ between,
      let later := performAll loader store (session.get loader store).2 between
      (∀ number', (later.get loader store).1 = .ok number' →
        (number = number' ↔ .reset ∉ between)) ∧
      (.reset ∉ between → ∀ loader' store', later.get loader' store' = (.ok number, later))) ∧
    ∀ other : Session, (∀ name ∈ variableNames,
        session.environment.get? name = other.environment.get? name) →
      readTarget session.environment = readTarget other.environment ∧
      readFlag session.environment = readFlag other.environment ∧
      readRules session.environment = readRules other.environment ∧
      Settings.read session.environment = Settings.read other.environment := by
  refine ⟨built_load supplies session store, fun empty => built_get supplies empty store, ?_, ?_,
    fun other => read_congr⟩
  · intro cause failed
    have empty := held_of_failed_get failed
    refine ⟨empty, fun between idle => ?_⟩
    have still := @none_performAll loader store _ empty between idle
    obtain ⟨result, environment, _⟩ := get_of_none still loader store
    exact ⟨still, result, environment⟩
  · intro number got between
    refine ⟨fun number' again => same_number_iff reached got between again,
      fun kept loader' store' => ?_⟩
    exact get_of_held (held_performAll (reached.heldFrom.get got).2.1 kept) loader' store'

/-- A default file that names the request function. -/
def namingStore : FileStore :=
  { files := [([".env"], Utf8.encode "FETCHLINT_TARGET=request\n")] }

/-- A session with that file, after some operations. -/
def performNaming (session : Session) (operations : List Operation) : Session :=
  performAll EnvironmentFile.load namingStore session operations

/-- What `get` gives with that file. -/
def getNaming (session : Session) : Except SettingsError Nat × Session :=
  session.get EnvironmentFile.load namingStore

/-- An unknown rule is named. -/
def misnamed : Session :=
  performNaming { environment := [] } [.set "FETCHLINT_RULES" "require-time"]

/-- The rule is named rightly after the settings could not be got. -/
def mended : Session := performNaming misnamed.getNaming.2 [.set "FETCHLINT_RULES" "require-timeout, "]

theorem settings_life_cycle_mended :
    Environment.Loader.Supplies EnvironmentFile.load EnvironmentFile.offered ∧
    Reached EnvironmentFile.load namingStore misnamed ∧
    Reached EnvironmentFile.load namingStore mended ∧
    Built EnvironmentFile.load EnvironmentFile.offered (namingStore.content? defaultFile)
      misnamed misnamed.getNaming.1 misnamed.getNaming.2 ∧
    (∃ cause, misnamed.getNaming.1 = .error cause) ∧
    misnamed.getNaming.2.environment.get? "FETCHLINT_TARGET" = some "request" ∧
    mended.held = none ∧ mended.getNaming.1 = .ok 0 ∧
    (performNaming mended.getNaming.2 [.unset "FETCHLINT_TARGET", .reset]).getNaming.1 = .ok 1 ∧
    (performNaming mended.getNaming.2 [.unset "FETCHLINT_TARGET"]).get (fun _ _ => ([], none)) {} =
      (.ok 0, performNaming mended.getNaming.2 [.unset "FETCHLINT_TARGET"]) := by
  have reached : Reached EnvironmentFile.load namingStore misnamed := ⟨[], _, rfl⟩
  have mending : Reached EnvironmentFile.load namingStore mended :=
    ⟨[], [.set "FETCHLINT_RULES" "require-time", .get,
      .set "FETCHLINT_RULES" "require-timeout, "], rfl⟩
  have failed : ∃ cause, misnamed.getNaming.1 = .error cause := by
    have refused : misnamed.getNaming.1.toOption = none := by decide +kernel
    cases result : misnamed.getNaming.1 with
    | error cause => exact ⟨cause, rfl⟩
    | ok number =>
      rw [result] at refused
      cases refused
  have first : mended.getNaming.1 = .ok 0 := ok_of_toOption (by decide +kernel)
  have supplies := EnvironmentFile.supplies_load
  obtain ⟨_, built, retried, _⟩ := settings_life_cycle supplies reached
  obtain ⟨_, _, _, held, _⟩ := settings_life_cycle supplies mending
  obtain ⟨cause, refused⟩ := failed
  refine ⟨supplies, reached, mending, built (by decide +kernel), ⟨cause, refused⟩,
    by decide +kernel, ?_, first, ok_of_toOption (by decide +kernel), ?_⟩
  · exact ((retried cause refused).2 _ (by decide)).1
  · exact (held 0 first [.unset "FETCHLINT_TARGET"]).2 (by decide) _ {}

end Session
end RequestLint
