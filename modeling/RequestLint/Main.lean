import RequestLint.Command.Arguments
import RequestLint.Command.Display
import RequestLint.Settings.Supply
import RequestLint.Syntax.Outline

/-! The command line program. It takes a picture of the files that its arguments
name, runs the command on that picture, prints what the command shows and
writes back the files it changed. No grammar is built in: the tree of a source
is read from the outline beside it, `name.js.outline` for `name.js`, and a
source without an outline has no calls. -/
namespace RequestLint.Main

/-- The files at or below a place, with their content. -/
partial def gather (name : String) (place : Place) : IO (List (Place × Bytes)) := do
  let here := (← IO.currentDir) / name
  if ← here.isDir then
    let inner ← (← here.readDir).toList.mapM fun item =>
      gather (name ++ "/" ++ item.fileName) (place ++ [item.fileName])
    return inner.flatten
  else if ← here.pathExists then
    return [(place, (← IO.FS.readBinFile here).toList)]
  else
    return []

/-- The sources with an outline beside them, as a parser. -/
def parser (files : List (Place × Bytes)) : Parser := fun language source =>
  let tree? := files.findSome? fun (place, content) => do
    let name ← place.getLast?
    let known ← Language.ofSuffix? (Path.suffixOf name)
    let outline ← files.lookup (place.dropLast ++ [name ++ ".outline"])
    if known = language ∧ content = source then
      Tree.ofOutlineText? source (Utf8.decodeLossy outline)
    else none
  tree?.getD (Tree.blank source)

/-- The encoding that the locale of the environment names. -/
def localeEncoding : IO (Option String) := do
  for name in ["LC_ALL", "LC_CTYPE", "LANG"] do
    if let some locale ← IO.getEnv name then
      if locale ≠ "" then return (locale.splitOn ".")[1]?
  return none

def settingNames : List String :=
  ["FETCHLINT_TARGET", "FETCHLINT_REQUIRE_QUERY_BUILDER", "FETCHLINT_RULES"]

/-- The variables that values of the default file refer to. -/
def referredNames (store : FileStore) : List String :=
  match (store.content? Session.defaultFile).map EnvironmentFile.read with
  | some (.ok file) =>
    (file.filterMap Prod.snd).flatMap fun value =>
      (ValuePart.ofText value.toList).filterMap ValuePart.name?
  | _ => []

def usage : String := "usage: fetchlint [--version] check PATH... [OPTION...] | rules"

end RequestLint.Main

open RequestLint in
def main (words : List String) : IO UInt32 := do
  let store : FileStore := { workingDirectory := (Path.ofString (← IO.currentDir).toString).names }
  let names : List String := ".env" :: words
  let files ← names.mapM fun name => Main.gather name (store.resolve (.ofString name))
  let directories ← names.filterMapM fun (name : String) => do
    return if ← ((← IO.currentDir) / name).isDir then some (store.resolve (.ofString name)) else none
  let store := { store with files := files.flatten.eraseDups, directories := directories }
  let environment ← (Main.settingNames ++ Main.referredNames store).filterMapM fun name => do
    return (← IO.getEnv name).map (name, ·)
  let encoding := Terminal.encoding (← Main.localeEncoding) (some "utf-8")
  let world : Command.World :=
    { files := store, environment, encoding, parser := Main.parser store.files,
      loader := EnvironmentFile.load, escape := Terminal.escape }
  let outcome := Command.run Command.Request.read world words
  for handed in outcome.printed do
    IO.print handed.shown.layout
  if outcome.exit = 2 ∧ outcome.printed = [] then
    IO.eprintln Main.usage
  for (place, content) in store.changes outcome.files do
    IO.FS.writeBinFile ("/" ++ String.intercalate "/" place) (ByteArray.mk content.toArray)
  return UInt32.ofNat outcome.exit
