import SecretStore.Keyring.Script
import SecretStore.Store.Sealed

/-!
A script that has a sealed file to itself. It runs to its end unless the file
breaks it off; what it did to the world until then stays done.
-/

namespace SecretStore

/-- How a script ends, the entries that it and the store logged, and the world
that it leaves. -/
def Script.runSealed {α : Type} (file : SealedFile) :
    Script α → World → Except Crash (Except KeyringError α) × List LogEntry × World
  | .done result, w => (.ok result, [], w)
  | .log entry next, w =>
    let (result, entries, w) := next.runSealed file w
    (result, entry :: entries, w)
  | .query q next, w => match file.query w.files q with
    | .ok records => (next (.ok records)).runSealed file w
    | .error (.reported e) => (next (.error e)).runSealed file w
    | .error (.crashed why) => (.error why, [], w)
  | .write change next, w => match file.write w change with
    | (.error (.crashed why), entries, w) => (.error why, entries, w)
    | (.error (.reported e), entries, w) =>
      let (result, more, w) := (next (.error e)).runSealed file w
      (result, entries ++ more, w)
    | (.ok (), entries, w) =>
      let (result, more, w) := (next (.ok ())).runSealed file w
      (result, entries ++ more, w)

end SecretStore
