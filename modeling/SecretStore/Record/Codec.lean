import SecretStore.Record
import SecretStore.Text.Base64
import SecretStore.Time.Stamp
import SecretStore.Value

/-!
Records as JSON objects: the secret in base64, the policy by the name of its
constraint and the number of its flags, and dates as text. Reading checks the
policy, the class, the secret and the dates, in this order, and keeps the other
fields as they are. Names of fields that are unknown are passed over.
-/

namespace SecretStore

namespace Constraint

def ofJson? : Json → Option Constraint
  | .str s => ofNativeName? s
  | _ => none

end Constraint

namespace Flags

/-- The numbers of the flags that have a name: none, one factor, or both combinators. -/
def named : List Nat :=
  [0, combinators.bits] ++ Factor.all.map fun f => 1 <<< f.bit

/-- An integer is a set of flags; a number of another kind only if it has a name. -/
def ofJson? : Json → Option Flags
  | .int n => some (.ofInt n)
  | .bool b => some ⟨if b then 1 else 0⟩
  | .float x => (named.find? fun (n : Nat) => x.toInt? == some (n : Int)).map Flags.mk
  | _ => none

end Flags

inductive PolicyFault
  | constraint (given : Json)
  | flags (given : Json)

def PolicyFault.message : PolicyFault → String
  | .constraint given => given.literal ++ " is not a valid ProtectionConstraint"
  | .flags given => given.literal ++ " is not a valid AccessControlFlags"

/-- A policy from a constraint and flags; the constraint is checked first. -/
def AccessPolicy.ofJson (constraint flags : Json) : Except PolicyFault AccessPolicy :=
  match Constraint.ofJson? constraint with
  | none => .error (.constraint constraint)
  | some c => match Flags.ofJson? flags with
    | none => .error (.flags flags)
    | some f => .ok ⟨c, f⟩

namespace Record

inductive Fault
  | notObject (given : Json)
  | missing (name : String)
  | policyNotObject (given : Json)
  | policy (why : PolicyFault)
  | class (given : Json)
  | dataNotText (given : Json)
  | dataNotAscii
  | base64 (why : Text.Base64.Fault)
  | dateNotText
  | date (given : Text) (why : Stamp.Fault)

namespace Fault

def kind : Fault → String
  | notObject _ => "AttributeError"
  | missing _ => "KeyError"
  | policyNotObject _ => "TypeError"
  | policy _ => "ValueError"
  | .class _ => "ValueError"
  | dataNotText _ => "TypeError"
  | dataNotAscii => "ValueError"
  | base64 _ => "Error"
  | dateNotText => "TypeError"
  | date _ _ => "ValueError"

def detail : Fault → String
  | notObject given => Text.quoted given.kind ++ " object has no attribute 'get'"
  | missing name => name
  | policyNotObject given => match given with
    | .arr _ => "list indices must be integers or slices, not str"
    | .str _ => "string indices must be integers, not 'str'"
    | _ => Text.quoted given.kind ++ " object is not subscriptable"
  | policy why => why.message
  | .class given => given.literal ++ " is not a valid SecClass"
  | dataNotText given =>
    "argument should be a bytes-like object or ASCII string, not " ++ Text.quoted given.kind
  | dataNotAscii => "string argument should contain only ASCII characters"
  | base64 why => why.message
  | dateNotText => "fromisoformat: argument must be str"
  | date given why => why.message given

def message : Fault → String
  | missing name => Text.quoted name
  | fault => fault.detail

def literal (fault : Fault) : String :=
  fault.kind ++ "(" ++ Text.quoted fault.detail ++ ")"

end Fault

def field (name : String) (fields : List (Text × Json)) : Except Fault Json :=
  match Json.lookup name fields with
  | some v => .ok v
  | none => .error (.missing name)

def readPolicy : Json → Except Fault (Option AccessPolicy)
  | .null => .ok none
  | .obj fields => do
    let constraint ← field "protection_constraint" fields
    match Constraint.ofJson? constraint with
    | none => .error (.policy (.constraint constraint))
    | some c =>
      let flags ← field "control_flags" fields
      match Flags.ofJson? flags with
      | none => .error (.policy (.flags flags))
      | some f => return some ⟨c, f⟩
  | given => .error (.policyNotObject given)

def readClass : Json → Except Fault Unit
  | .str s => if s = ("genp" : String) then .ok () else .error (.class (.str s))
  | given => .error (.class given)

def readData : Json → Except Fault Bytes
  | .str s =>
    if s.shown.all (·.toNat < 128) then
      match Text.Base64.decode s.shown with
      | .ok bs => .ok bs
      | .error why => .error (.base64 why)
    else .error .dataNotAscii
  | given => .error (.dataNotText given)

def readDate : Json → Except Fault (Option Moment)
  | .null => .ok none
  | .str s => match Stamp.read s with
    | .ok m => .ok (some m)
    | .error why => .error (.date s why)
  | _ => .error .dateNotText

def ofJson : Json → Except Fault Record
  | .obj fields => do
    let optional (name : String) (fallback : Json) : Json :=
      (Json.lookup name fields).getD fallback
    let policy ← readPolicy (optional "access_policy" .null)
    readClass (← field "class" fields)
    let service ← field "service" fields
    let account ← field "account" fields
    let data ← readData (← field "data" fields)
    let created ← readDate (optional "created" .null)
    let modified ← readDate (optional "modified" .null)
    return {
      service, account, policy, data, created, modified
      label := optional "label" (.str "")
      description := optional "description" (.str "")
      synchronizable := optional "synchronizable" (.bool false) }
  | given => .error (.notObject given)

def policyToJson : Option AccessPolicy → Json
  | none => .null
  | some p =>
    .obj [("protection_constraint", .str p.constraint.nativeName),
      ("control_flags", .int p.flags.bits)]

def dateToJson : Option Moment → Json
  | none => .null
  | some m => .str m.text

def fields (r : Record) : List (Text × Json) :=
  [("class", .str "genp"), ("service", r.service), ("account", r.account),
    ("label", r.label), ("description", r.description),
    ("data", .str (String.ofList (Text.Base64.encode r.data))),
    ("access_policy", policyToJson r.policy), ("synchronizable", r.synchronizable),
    ("created", dateToJson r.created), ("modified", dateToJson r.modified)]

def toJson (r : Record) : Json :=
  .obj r.fields

end Record

end SecretStore
