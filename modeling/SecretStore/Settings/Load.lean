import SecretStore.Files.Tree
import SecretStore.Settings.Merge
import SecretStore.Settings.Overrides
import SecretStore.Text.Lines
import SecretStore.Text.Undecodable
import SecretStore.Validation.Fields
import SecretStore.Yaml.Document

/-!
Loading settings: the defaults, over them a configuration file, and over both
the environment. A file that is missing, or that holds no mapping, says
nothing. The result is checked once, as a whole.
-/

namespace SecretStore

inductive LoadFault
  | file (why : FileError)
  | undecodable (why : Text.Undecodable)
  | yaml (why : Yaml.Fault)
  | tooDeep
  | overrides (why : Overrides.Fault)
  /-- A section whose name is no text. -/
  | sectionName
  | overflow (why : Span.Overflow)
  | invalid (why : Rejection)

def LoadFault.ofUnset : Unset → LoadFault
  | .overflow why => .overflow why
  | .rejected why => .invalid why

namespace Settings

/-- The text of a configuration file. A character that the end cuts off is
looked at by itself. -/
def decodeFile (bs : Bytes) : Except Text.Undecodable (List Char) :=
  match Text.Utf8.decode bs with
  | .ok cs => .ok (Text.normalLines cs)
  | .error fault =>
    if fault.reason == .unexpectedEnd then
      .error (.ofUtf8 (bs.drop fault.start) { fault with start := 0 })
    else .error (.ofUtf8 bs fault)

/-- The sections that a configuration file has; a text for which there is no room
on the stack is not read at all. -/
def fileEntries (exhausts : List Char → Bool) (files : FileTree) (path : Option FilePath) :
    Except LoadFault (List (Value × Value)) := do
  match path with
  | none => return []
  | some path =>
    if ← (files.isThere path).mapError .file then
      let bs ← (files.read path).mapError .file
      let text ← (decodeFile bs).mapError .undecodable
      if exhausts text then throw .tooDeep
      match ← (Yaml.read text).mapError .yaml with
      | .mapping entries => return entries
      | _ => return []
    else return []

def isText : Value → Bool
  | .text _ => true
  | _ => false

def load (exhausts : List Char → Bool) (files : FileTree) (path : Option FilePath)
    (env : List Overrides.Variable) : Except LoadFault Settings := do
  let lower ← fileEntries exhausts files path
  let upper ← (Overrides.collect env).mapError .overrides
  let entries := Value.mergeEntries lower upper
  if entries.all fun e => isText e.1 then (Settings.ofEntries entries).mapError .ofUnset
  else throw .sectionName

end Settings

namespace LoadFault

def kind : LoadFault → String
  | .file why => why.reason.kind
  | .undecodable _ => "UnicodeDecodeError"
  | .yaml why => why.kind
  | .tooDeep => "RecursionError"
  | .overrides why => why.kind
  | .sectionName => "TypeError"
  | .overflow _ => "OverflowError"
  | .invalid _ => "ValidationError"

def message : LoadFault → String
  | .file why => why.message
  | .undecodable why => why.message
  | .yaml why => why.message
  | .tooDeep => "maximum recursion depth exceeded"
  | .overrides why => why.message
  | .sectionName => "keywords must be strings"
  | .overflow why => why.message
  | .invalid why => why.message

end LoadFault

end SecretStore
