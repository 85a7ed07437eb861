import SecretStore.Text.LowerCase
import SecretStore.Value

/-!
Settings from the environment. The name of a variable behind the common start
is lower-cased and cut at double underscores into the way to its text in a
nest of mappings. A variable that leads through the text of another one cannot
be placed.
-/

namespace SecretStore.Overrides

abbrev Variable := Text × Text

def commonStart : Text := "SEALED_KEYRING_"

/-- Why a variable cannot be placed: a text stands where its mapping should be,
or further up. -/
inductive Fault
  | textInPlaceOfMapping
  | textOnTheWay
deriving DecidableEq, Repr

def Fault.kind : Fault → String
  | .textInPlaceOfMapping => "TypeError"
  | .textOnTheWay => "AttributeError"

def Fault.message : Fault → String
  | .textInPlaceOfMapping => "'str' object does not support item assignment"
  | .textOnTheWay => "'str' object has no attribute 'setdefault'"

def splitUnderscores : List CodePoint → List (List CodePoint)
  | [] => [[]]
  | .char '_' :: .char '_' :: rest => [] :: splitUnderscores rest
  | c :: rest => match splitUnderscores rest with
    | [] => [[c]]
    | piece :: pieces => (c :: piece) :: pieces

def path? (name : Text) : Option (List Text) :=
  if commonStart.points.isPrefixOf name.points then
    let rest : Text := ⟨name.points.drop commonStart.points.length⟩
    some ((splitUnderscores (Text.lowerCase rest).points).map Text.mk)
  else none

def place (text : Text) : List Text → List (Value × Value) →
    Except Fault (List (Value × Value))
  | [], entries => .ok entries
  | [name], entries => .ok (Value.insert (.text name) (.text text) entries)
  | name :: next :: rest, entries =>
    match Value.lookup (.text name) entries with
    | none => do
      let inner ← place text (next :: rest) []
      return Value.insert (.text name) (.mapping inner) entries
    | some (.mapping inner) => do
      let inner ← place text (next :: rest) inner
      return Value.insert (.text name) (.mapping inner) entries
    | some _ => .error (if rest.isEmpty then .textInPlaceOfMapping else .textOnTheWay)

def addVariable (entries : List (Value × Value)) (v : Variable) :
    Except Fault (List (Value × Value)) :=
  match path? v.1 with
  | none => .ok entries
  | some path => place v.2 path entries

def collect (env : List Variable) : Except Fault (List (Value × Value)) :=
  env.foldlM addVariable []

end SecretStore.Overrides
