import SecretStore.Bytes
import SecretStore.Json
import SecretStore.Number.Shortest
import SecretStore.Text.Quoted
import SecretStore.Time.Moment

/-!
Values of a configuration: what a configuration file, an environment or a
caller gives before it is checked. A mapping keeps the order of its entries,
and two keys that name the same thing are one.
-/

namespace SecretStore

inductive Value
  | null
  | bool (b : Bool)
  | int (n : Int)
  | float (x : Binary64)
  | text (s : Text)
  | bytes (bs : Bytes)
  | date (d : Date)
  | moment (m : Moment)
  | list (items : List Value)
  | tuple (items : List Value)
  | set (items : List Value)
  | mapping (entries : List (Value × Value))
deriving Inhabited

namespace Value

mutual

def ofJson : Json → Value
  | .null => .null
  | .bool b => .bool b
  | .int n => .int n
  | .float x => .float x
  | .str s => .text s
  | .arr items => .list (ofJsonItems items)
  | .obj fields => .mapping (ofJsonFields fields)

def ofJsonItems : List Json → List Value
  | [] => []
  | item :: rest => ofJson item :: ofJsonItems rest

def ofJsonFields : List (Text × Json) → List (Value × Value)
  | [] => []
  | (name, value) :: rest => (.text name, ofJson value) :: ofJsonFields rest

end

def kind : Value → String
  | .null => "NoneType"
  | .bool _ => "bool"
  | .int _ => "int"
  | .float _ => "float"
  | .text _ => "str"
  | .bytes _ => "bytes"
  | .date _ => "date"
  | .moment _ => "datetime"
  | .list _ => "list"
  | .tuple _ => "tuple"
  | .set _ => "set"
  | .mapping _ => "dict"

mutual

def literal : Value → String
  | .null => "None"
  | .bool true => "True"
  | .bool false => "False"
  | .int n => String.ofList (Span.intText n)
  | .float x => x.text
  | .text s => Text.quoted s
  | .bytes bs => Text.quotedBytes bs
  | .date d => Moment.dateLiteral d
  | .moment m => m.literal
  | .list items => "[" ++ literals items ++ "]"
  | .tuple [] => "()"
  | .tuple [item] => "(" ++ literal item ++ ",)"
  | .tuple items => "(" ++ literals items ++ ")"
  | .set [] => "set()"
  | .set items => "\x7b" ++ literals items ++ "\x7d"
  | .mapping entries => "\x7b" ++ entryLiterals entries ++ "\x7d"

def literals : List Value → String
  | [] => ""
  | [item] => literal item
  | item :: rest => literal item ++ ", " ++ literals rest

def entryLiterals : List (Value × Value) → String
  | [] => ""
  | [(key, value)] => literal key ++ ": " ++ literal value
  | (key, value) :: rest => literal key ++ ": " ++ literal value ++ ", " ++ entryLiterals rest

end

def number? : Value → Option (Int ⊕ Binary64)
  | .bool b => some (.inl (if b then 1 else 0))
  | .int n => some (.inl n)
  | .float x => match x.toInt? with
    | some n => some (.inl n)
    | none => some (.inr x)
  | _ => none

/-- Whether two keys of a mapping are the same. Lists, sets and mappings are no keys. -/
def sameKey (a b : Value) : Bool :=
  match a, b with
  | .null, .null => true
  | .text s, .text t => s == t
  | .bytes s, .bytes t => s == t
  | .date d, .date e => d == e
  | .moment m, .moment n => m.same n
  | _, _ => match a.number?, b.number? with
    | some x, some y => x == y
    | _, _ => false

theorem sameKey_text (s t : Text) : sameKey (.text s) (.text t) = (s == t) := rfl

def isKey : Value → Bool
  | .list _ | .set _ | .mapping _ => false
  | _ => true

def lookup (key : Value) : List (Value × Value) → Option Value
  | [] => none
  | (k, v) :: rest => if k.sameKey key then some v else lookup key rest

/-- Sets the entry of a key: an old one keeps its place and the key it was
first written with, a new one goes to the end. -/
def insert (key value : Value) : List (Value × Value) → List (Value × Value)
  | [] => [(key, value)]
  | (k, v) :: rest =>
    if k.sameKey key then (k, value) :: rest else (k, v) :: insert key value rest

def field? (name : Text) : Value → Option Value
  | .mapping entries => lookup (.text name) entries
  | _ => none

end Value

def Json.literal (j : Json) : String :=
  (Value.ofJson j).literal

def Json.kind (j : Json) : String :=
  (Value.ofJson j).kind

end SecretStore
