import SecretStore.Number.Binary64
import SecretStore.Text

/-!
JSON values. Integers are exact and of any size, other numbers are doubles,
and an object keeps the order of its fields, each name once.
-/

namespace SecretStore

inductive Json
  | null
  | bool (b : Bool)
  | int (n : Int)
  | float (x : Binary64)
  | str (s : Text)
  | arr (items : List Json)
  | obj (fields : List (Text × Json))
deriving Repr, Inhabited

namespace Json

def digitLimit : Nat := 4300

/-- Sets a field: an old one keeps its place, a new one goes to the end. -/
def setField (name : Text) (value : Json) : List (Text × Json) → List (Text × Json)
  | [] => [(name, value)]
  | (n, v) :: rest =>
    if n = name then (n, value) :: rest else (n, v) :: setField name value rest

/-- The fields of an object from all that were written; the last of a name counts. -/
def ofFields (written : List (Text × Json)) : List (Text × Json) :=
  written.foldl (fun fields field => setField field.1 field.2 fields) []

def lookup (name : Text) : List (Text × Json) → Option Json
  | [] => none
  | (n, v) :: rest => if n = name then some v else lookup name rest

def field? (name : Text) : Json → Option Json
  | .obj fields => lookup name fields
  | _ => none

def str? : Json → Option Text
  | .str s => some s
  | _ => none

/-- Numbers that have one value have one key: 1, 1.0 and true are the same. -/
def number? : Json → Option (Int ⊕ Binary64)
  | .bool b => some (.inl (if b then 1 else 0))
  | .int n => some (.inl n)
  | .float x => match x.toInt? with
    | some n => some (.inl n)
    | none => some (.inr x)
  | _ => none

/-- Whether two values that hold no others name the same thing in a table.
Numbers are compared by value, and NaN names the same thing as itself. -/
def sameKey (a b : Json) : Bool :=
  match a, b with
  | .null, .null => true
  | .str s, .str t => s == t
  | _, _ => match a.number?, b.number? with
    | some x, some y => x == y
    | _, _ => false

def isKey : Json → Bool
  | .arr _ | .obj _ => false
  | _ => true

end Json

end SecretStore
