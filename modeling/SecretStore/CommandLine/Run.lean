import SecretStore.CommandLine.Invocation
import SecretStore.Keyring.Open
import SecretStore.Keyring.Sealed
import SecretStore.Settings.Load

/-!
Carrying out a command line: the settings are loaded, the keyring is opened,
and the command is one operation on it. A missing key, a configuration that is
refused and a failure of the store have their exit codes and a line of error
output. Anything else that goes wrong breaks the run off. The output is UTF-8,
so a line with a surrogate in it does, and the lines before it stay printed.
-/

namespace SecretStore.CommandLine

inductive ExitCode
  | success
  | keyNotFound
  | invalidConfiguration
  | storeFailure
deriving DecidableEq, Repr

def ExitCode.toNat : ExitCode → Nat
  | .success => 0
  | .keyNotFound => 1
  | .invalidConfiguration => 2
  | .storeFailure => 3

inductive Abort
  | load (why : LoadFault)
  | store (why : Crash)
  | noSecret
  | unencodable (why : Text.Unencodable)

namespace Abort

def kind : Abort → String
  | .load why => why.kind
  | .store why => why.kind
  | .noSecret => "AttributeError"
  | .unencodable _ => "UnicodeEncodeError"

def message : Abort → String
  | .load why => why.message
  | .store why => why.message
  | .noSecret => "'list' object has no attribute 'encode'"
  | .unencodable why => why.message

end Abort

inductive Ending
  | returned (code : ExitCode)
  /-- The command line was not accepted, or asked for help. -/
  | refused (code : Nat)
  | aborted (why : Abort)

structure Outcome where
  output : Text
  errorOutput : Text
  ending : Ending

/-- How log entries are shown: the time in front of each, and the lines behind
the entry of a store failure. -/
structure LogStyle where
  time : String
  details : String

def LogStyle.line (style : LogStyle) (e : LogEntry) : Text :=
  style.time ++ " [" ++ e.level.name ++ "] " ++ e.logger ++ ": " ++ e.message ++ "\n"

/-- The entries that are shown: all of them, or those that matter anyway. -/
def shown (verbose : Bool) (entries : List LogEntry) : List LogEntry :=
  entries.filter fun e => verbose || e.level == .warning

def LogStyle.lines (style : LogStyle) (verbose : Bool) (entries : List LogEntry) : Text :=
  Text.join ((shown verbose entries).map style.line)

def exitCode : KeyringError → ExitCode
  | .keyNotFound _ _ => .keyNotFound
  | .misconfigured _ | .invalid _ => .invalidConfiguration
  | .store _ _ | .lostUpdate _ => .storeFailure

/-- The error output for an error; a store failure is logged as well. -/
def errorText (style : LogStyle) (verbose : Bool) (e : KeyringError) : Text :=
  match exitCode e with
  | .storeFailure =>
    (if verbose then style.line ⟨.debug, "sealed_keyring", "Store error"⟩ ++ style.details
      else ("" : Text)) ++ "error: " ++ e.message ++ "\n"
  | .invalidConfiguration => "error: invalid configuration: " ++ e.message ++ "\n"
  | _ => "error: " ++ e.message ++ "\n"

def print : List Text → Text × Ending
  | [] => ("", .returned .success)
  | line :: rest => match Text.encode line with
    | .error why => ("", .aborted (.unencodable why))
    | .ok _ => (line ++ "\n" ++ (print rest).1, (print rest).2)

def conclude (style : LogStyle) (verbose : Bool) (entries : List LogEntry) :
    Except KeyringError (List Text) → Outcome
  | .ok lines => ⟨(print lines).1, style.lines verbose entries, (print lines).2⟩
  | .error e =>
    ⟨"", style.lines verbose entries ++ errorText style verbose e, .returned (exitCode e)⟩

def abort (style : LogStyle) (verbose : Bool) (entries : List LogEntry) (why : Abort) : Outcome :=
  ⟨"", style.lines verbose entries, .aborted why⟩

def secretText (item : Item) : Text :=
  Text.ofChars (Text.Utf8.decodeLossy item.data)

def metadataLines (m : Metadata) : List Text :=
  ["label: " ++ m.item.label, "description: " ++ m.item.description,
    "modified: " ++ (m.modified.map Moment.text).getD "-"]

def keyLine : Json → Text
  | .str s => s
  | j => j.literal

def operandValue : Operand → Value
  | some s => .text s
  | none => .list []

def setScript (k : Keyring) (key : Text) (data : Bytes) (label description : Operand)
    (noSync : Bool) : Script (List Text) :=
  let fields := [(Value.text "key", Value.text key), (.text "data", .bytes data),
    (.text "label", operandValue label), (.text "description", operandValue description),
    (.text "allow_sync", .bool !noSync)]
  match Item.ofEntries fields with
  | .ok item => (k.set item).mapResult fun r => r.map fun () => []
  | .error why => .done (.error (.invalid why))

/-- What a command does with a keyring, and the lines that it prints; nothing if
the secret to be set has no bytes. -/
def Command.script (k : Keyring) : Command → Except Abort (Script (List Text))
  | .get key => .ok ((k.get key).mapResult fun r => r.map fun item => [secretText item])
  | .metadata key => .ok ((k.getMetadata key).mapResult fun r => r.map metadataLines)
  | .set _ none _ _ _ => .error .noSecret
  | .set key (some secret) label description noSync => match Text.encode secret with
    | .error why => .error (.unencodable why)
    | .ok data => .ok (setScript k key data label description noSync)
  | .remove key => .ok ((k.remove key).mapResult fun r => r.map fun () => [])
  | .list => .ok (k.keys.mapResult fun r => r.map fun keys => keys.map keyLine)

/-- The configuration file to read, if a name is given and is not empty. -/
def Invocation.configPath (i : Invocation) : Option FilePath :=
  ((i.config.join).filter (· != Text.ofString "")).map FilePath.ofText

def Invocation.run (iterations : Nat) (style : LogStyle) (env : List Overrides.Variable)
    (i : Invocation) (w : World) : Outcome × World :=
  match Settings.load w.stack.exhausts w.files i.configPath env with
  | .error (.invalid why) => (conclude style i.verbose [] (.error (.invalid why)), w)
  | .error why => (abort style i.verbose [] (.load why), w)
  | .ok settings => match Keyring.ofSettings id iterations w.stack.json settings none with
    | .error (.misconfigured why) =>
      (conclude style i.verbose [] (.error (.misconfigured why)), w)
    | .error (.passphrase why) => (abort style i.verbose [] (.unencodable why), w)
    | .ok (keyring, file, opened) => match i.command.script keyring with
      | .error why => (abort style i.verbose [opened] why, w)
      | .ok script =>
        match script.runSealed file w with
        | (.ok result, entries, w) =>
          (conclude style i.verbose (opened :: entries) result, w)
        | (.error why, entries, w) =>
          (abort style i.verbose (opened :: entries) (.store why), w)

def Refusal.outcome (r : Refusal) : Outcome :=
  ⟨r.output, r.errorOutput, .refused r.code⟩

def run (iterations : Nat) (style : LogStyle) (env : List Overrides.Variable)
    (words : List Text) (w : World) : Outcome × World :=
  match Invocation.read words with
  | .error r => (r.outcome, w)
  | .ok i => i.run iterations style env w

end SecretStore.CommandLine
