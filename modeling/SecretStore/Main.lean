import Std.Time.DateTime.Timestamp
import SecretStore.CommandLine.Run

/-!
The program. It copies what stands at the paths it needs into a tree, carries
out its command line there, and writes back what has changed.
-/

namespace SecretStore.Program

def systemName (path : Text) : String :=
  String.ofList path.shown

def entryAt (path : Text) : IO (Option FileEntry) := do
  try
    return some (.file (← IO.FS.readBinFile (systemName path)).toList)
  catch
    | .noFileOrDirectory .. => return none
    | .inappropriateType .. => return some .directory
    | e => throw e

def addPath (t : FileTree) (p : FilePath) : IO FileTree := do
  let mut tree := t
  let mut here := Location.start p
  let mut way : FilePath := { p with parts := [] }
  for part in p.parts do
    here := here.enter part
    way := way.join part
    match ← entryAt way.text with
    | some e => tree := tree.put here e
    | none => break
  return tree

def pathOf (place : Location) : FilePath :=
  if place.head? = some (Text.ofString "/") then ⟨"/", place.drop 1⟩ else ⟨"", place⟩

def writeBack (before after : FileTree) : IO Unit :=
  after.entries.forM fun (place, e) => do
    if before.entry? place != some e then
      let path := systemName (pathOf place).text
      match e with
      | .directory => IO.FS.createDirAll path
      | .file content => IO.FS.writeBinFile path ⟨content.toArray⟩

def environment : IO (List Overrides.Variable) := do
  let bytes := (← IO.FS.readBinFile "/proc/self/environ").toList
  let texts := Text.splitOn (.char '\x00') (Text.Utf8.decodeEscaped bytes)
  return texts.filterMap fun cs => match cs.span (· != .char '=') with
    | (name, .char '=' :: text) => some (⟨name⟩, ⟨text⟩)
    | _ => none

def logTime (m : Moment) : String :=
  String.ofList (m.date.text ++ ' ' :: Text.padded 2 m.clock.hour ++ ':' ::
    Text.padded 2 m.clock.minute ++ ':' :: Text.padded 2 m.clock.second ++ ',' ::
    Text.padded 3 (m.clock.micro / 1000))

def addNeeded (env : List Overrides.Variable) (words : List Text) : IO FileTree := do
  match CommandLine.Invocation.read words with
  | .error _ => return {}
  | .ok i =>
    let files ← match i.configPath with
      | some path => addPath {} path
      | none => pure {}
    match Settings.load Stack.standard.exhausts files i.configPath env with
    | .ok settings => addPath files (.ofText settings.storage.path)
    | .error _ => return files

def exitCode : CommandLine.Ending → Nat
  | .returned code => code.toNat
  | .refused code => code
  | .aborted _ => 1

def start (words : List String) : IO UInt32 := do
  let env ← environment
  let words := words.map Text.ofString
  let files ← addNeeded env words
  let nanoseconds := (← Std.Time.Timestamp.now).toNanosecondsSinceUnixEpoch.val
  let seals := (← IO.getRandomBytes 16).toList.foldl (fun n b => 256 * n + b.toNat) 0
  let world : World := { files, clock := nanoseconds / 1000, sealed := seals }
  let style : CommandLine.LogStyle := ⟨logTime world.now, ""⟩
  let (outcome, after) := CommandLine.run Token.standardIterations style env words world
  writeBack files after.files
  IO.print (systemName outcome.output)
  IO.eprint (systemName outcome.errorOutput)
  if let .aborted why := outcome.ending then IO.eprintln (why.kind ++ ": " ++ why.message)
  return UInt32.ofNat (exitCode outcome.ending)

end SecretStore.Program

def main (words : List String) : IO UInt32 :=
  SecretStore.Program.start words
