import SecretStore.Json
import SecretStore.Number.Shortest
import SecretStore.Text.Quoted
import SecretStore.Text.Utf16

/-!
JSON text in ASCII: a blank after each comma and colon, and every code point
that is not a printable ASCII one escaped, those past U+FFFF as two surrogates.
An integer of more than 4300 digits has no text.
-/

namespace SecretStore.Json

def unitEscape (n : Nat) : List Char :=
  '\\' :: 'u' :: Text.hexDigits 4 n

def escapeChar (c : Char) : List Char :=
  if c == '"' then ['\\', '"']
  else if c == '\\' then ['\\', '\\']
  else if c == '\n' then ['\\', 'n']
  else if c == '\r' then ['\\', 'r']
  else if c == '\t' then ['\\', 't']
  else if c == '\x08' then ['\\', 'b']
  else if c == '\x0c' then ['\\', 'f']
  else if ' ' ≤ c && c ≤ '~' then [c]
  else (Text.Utf16.units c).flatMap unitEscape

def escapePoint : CodePoint → List Char
  | .char c => escapeChar c
  | .surrogate n => unitEscape (0xd800 + n)

def renderString (s : Text) : List Char :=
  '"' :: s.points.flatMap escapePoint ++ ['"']

def renderInt (n : Int) : List Char :=
  if n < 0 then '-' :: Text.decimal n.natAbs else Text.decimal n.natAbs

mutual

def render : Json → List Char
  | .null => ['n', 'u', 'l', 'l']
  | .bool true => ['t', 'r', 'u', 'e']
  | .bool false => ['f', 'a', 'l', 's', 'e']
  | .int n => renderInt n
  | .float x => (x.textWith "Infinity" "NaN").toList
  | .str s => renderString s
  | .arr items => '[' :: renderItems items ++ [']']
  | .obj fields => '{' :: renderFields fields ++ ['}']

def renderItems : List Json → List Char
  | [] => []
  | [item] => render item
  | item :: rest => render item ++ ',' :: ' ' :: renderItems rest

def renderFields : List (Text × Json) → List Char
  | [] => []
  | [(name, value)] => renderString name ++ ':' :: ' ' :: render value
  | (name, value) :: rest =>
    renderString name ++ ':' :: ' ' :: render value ++ ',' :: ' ' :: renderFields rest

end

def text (j : Json) : String :=
  String.ofList (render j)

def isShort (n : Nat) : Bool :=
  (Text.decimal n).length ≤ digitLimit

mutual

/-- Whether every integer in a value has at most 4300 digits. -/
def isWritable : Json → Bool
  | .int n => isShort n.natAbs
  | .arr items => areWritable items
  | .obj fields => fieldsWritable fields
  | _ => true

def areWritable : List Json → Bool
  | [] => true
  | item :: rest => isWritable item && areWritable rest

def fieldsWritable : List (Text × Json) → Bool
  | [] => true
  | (_, value) :: rest => isWritable value && fieldsWritable rest

end

def insertSorted (field : Text × Json) : List (Text × Json) → List (Text × Json)
  | [] => [field]
  | other :: rest =>
    if field.1 < other.1 then field :: other :: rest else other :: insertSorted field rest

mutual

def sorted : Json → Json
  | .arr items => .arr (sortedItems items)
  | .obj fields => .obj (sortedFields fields)
  | j => j

def sortedItems : List Json → List Json
  | [] => []
  | item :: rest => sorted item :: sortedItems rest

def sortedFields : List (Text × Json) → List (Text × Json)
  | [] => []
  | (name, value) :: rest => insertSorted (name, sorted value) (sortedFields rest)

end

end SecretStore.Json
