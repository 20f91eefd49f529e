import RequestLint.Files.Store
import RequestLint.Rule
import RequestLint.Settings.Environment
import RequestLint.Text.Blank
import RequestLint.Text.Quoted

/-! Settings from the environment. Loading them has missing variables supplied from
a file and checks the result; reading them always looks at the environment as
it is then. A session keeps the settings it has loaded until it is told to
forget them. -/
namespace RequestLint

structure Settings where
  target : String
  requireQueryBuilder : Bool
  rules? : Option (List String)
  deriving DecidableEq, Repr

inductive SettingsError where
  | environment (cause : EnvironmentError)
  | unknownRules (ids : List String)
  | notBoolean (value : String)
  deriving DecidableEq, Repr

def SettingsError.message : SettingsError → String
  | environment cause => cause.message
  | unknownRules ids => "FETCHLINT_RULES contains unknown rule(s): " ++ String.intercalate ", " ids
  | notBoolean value =>
    "FETCHLINT_REQUIRE_QUERY_BUILDER must be a boolean, got: " ++ Text.quote value

namespace Settings

def trueWords : List String := ["1", "true", "yes", "on"]
def falseWords : List String := ["0", "false", "no", "off"]

def readTarget (environment : Environment) : String :=
  (environment.get? "FETCHLINT_TARGET").getD "fetch"

def readFlag (environment : Environment) : Except SettingsError Bool :=
  let word := Text.lower (Text.trim ((environment.get? "FETCHLINT_REQUIRE_QUERY_BUILDER").getD "true"))
  if word ∈ trueWords then .ok true
  else if word ∈ falseWords then .ok false
  else .error (.notBoolean word)

/-- The rules that the environment names; naming none enables all. -/
def readRules (environment : Environment) : Option (List String) :=
  let raw := (environment.get? "FETCHLINT_RULES").getD ""
  let items := (Text.split (· = ',') raw.toList).map fun item => Text.trim (.ofList item)
  match items.filter (· ≠ "") with
  | [] => none
  | rules => some rules

def read (environment : Environment) : Except SettingsError Settings := do
  return ⟨readTarget environment, ← readFlag environment, readRules environment⟩

/-- Checks what is read: first that the rules are known, then the flag. -/
def validate (environment : Environment) : Except SettingsError Unit :=
  match ((readRules environment).getD []).filter (!Rule.isKnown ·) with
  | [] => (readFlag environment).map fun _ => ()
  | unknown => .error (.unknownRules unknown)

def options (settings : Settings) : Options := ⟨settings.requireQueryBuilder, settings.target⟩

end Settings

/-- `held` is the number of the settings that are kept, and `loads` how many were
loaded so far. -/
structure Session where
  environment : Environment
  held : Option Nat := none
  loads : Nat := 0

namespace Session

/-- Loads settings from a file. What the file supplies stays in the environment
even if the settings turn out invalid. -/
def load (session : Session) (loader : Environment.Loader) (store : FileStore) (path : Path) :
    Except SettingsError Nat × Session :=
  let (environment, failure?) := loader session.environment (store.content? path)
  let session := { session with environment := environment }
  match failure?.elim (Settings.validate environment) (.error ∘ .environment) with
  | .ok _ => (.ok session.loads, { session with loads := session.loads + 1 })
  | .error cause => (.error cause, session)

/-- The file in the working directory that is read by default. -/
def defaultFile : Path := ⟨"", [".env"]⟩

/-- The settings that are held, or else newly loaded ones, which are then held. -/
def get (session : Session) (loader : Environment.Loader) (store : FileStore) :
    Except SettingsError Nat × Session :=
  match session.held with
  | some number => (.ok number, session)
  | none =>
    match session.load loader store defaultFile with
    | (.ok number, loaded) => (.ok number, { loaded with held := some number })
    | (.error cause, failed) => (.error cause, failed)

def reset (session : Session) : Session := { session with held := none }

def set (session : Session) (name value : String) : Except SettingsError Session :=
  match session.environment.set name value with
  | .ok environment => .ok { session with environment := environment }
  | .error cause => .error (.environment cause)

def unset (session : Session) (name : String) : Session :=
  { session with environment := session.environment.unset name }

end Session
end RequestLint
