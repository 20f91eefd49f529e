import RequestLint.Text.Utf8.Fault

/-! Environment variables, and what is asked of the library that loads more of them
from a file. -/
namespace RequestLint

/-- Names with values. The first entry of a name counts. -/
abbrev Environment := List (String × String)

/-- Why a variable cannot be set, or a file of variables not be read. -/
inductive EnvironmentError where
  | undecodable (fault : Utf8.Fault)
  | nullCharacter
  | equalsInName
  deriving DecidableEq, Repr

def EnvironmentError.message : EnvironmentError → String
  | undecodable fault => fault.message
  | nullCharacter => "embedded null byte"
  | equalsInName => "illegal environment variable name"

namespace Environment

def get? (environment : Environment) (name : String) : Option String := environment.lookup name

def unset (environment : Environment) (name : String) : Environment :=
  environment.filter (·.1 ≠ name)

/-- Sets a variable. An equals sign divides names from values, and a null
character ends them, so neither can be part of a name. -/
def set (environment : Environment) (name value : String) : Except EnvironmentError Environment :=
  if '\x00' ∈ name.toList ++ value.toList then .error .nullCharacter
  else if '=' ∈ name.toList then .error .equalsInName
  else .ok ((name, value) :: environment.unset name)

/-- Loads variables from the content of a file, if the file is there: the environment
afterwards, and what kept the loader from the rest. -/
abbrev Loader := Environment → Option Bytes → Environment × Option EnvironmentError

end Environment
end RequestLint
