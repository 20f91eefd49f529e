import RequestLint.Settings.Environment
import RequestLint.Settings.EnvironmentFile
import RequestLint.Settings.Reference

/-! A loader of environment files. A variable that is set keeps its value; the others
that a file binds are set one after the other, their references filled. -/
namespace RequestLint

namespace Environment

/-- What a name stands for in a file after the bindings so far. -/
def meaning (environment : Environment) (bound : EnvironmentFile) (name : String) : Option String :=
  (environment.get? name).or ((bound.reverse.lookup name).map (·.getD ""))

/-- The bindings with their references filled, each after those before it. -/
def resolve (environment : Environment) (file : EnvironmentFile) : EnvironmentFile :=
  file.foldl
    (fun bound (name, value?) =>
      let fill := fun value : String =>
        String.ofList ((ValuePart.ofText value.toList).flatMap (·.fill (environment.meaning bound)))
      bound ++ [(name, value?.map fill)])
    []

/-- Sets those of the names that a file binds and the environment lacks, up to
the first that cannot be set. -/
def supplyNames (file : EnvironmentFile) :
    Environment → List String → Environment × Option EnvironmentError
  | environment, [] => (environment, none)
  | environment, name :: names =>
    match environment.get? name, file.get? name with
    | none, some value =>
      match environment.set name value with
      | .ok next => supplyNames file next names
      | .error cause => (environment, some cause)
    | _, _ => supplyNames file environment names

/-- Sets what a file binds and the environment lacks. -/
def supply (environment : Environment) (file : EnvironmentFile) :
    Environment × Option EnvironmentError :=
  supplyNames (environment.resolve file) environment (file.map Prod.fst)

end Environment

/-- Without a file there is nothing to load. -/
def EnvironmentFile.load : Environment.Loader := fun environment content? =>
  match content? with
  | none => (environment, none)
  | some content =>
    match read content with
    | .error fault => (environment, some (.undecodable fault))
    | .ok file => environment.supply file

end RequestLint
