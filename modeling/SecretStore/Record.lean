import SecretStore.Bytes
import SecretStore.Json
import SecretStore.Policy.Access
import SecretStore.Time.Moment

/-!
Records as a store keeps them, the queries that select them, and what can be
asked of a store. A record that was restored from a file may have values of
any kind in its fields; they are kept as they are. A query names a service and
perhaps an account, and says how much of each record it wants.
-/

namespace SecretStore

structure Record where
  service : Json
  account : Json
  label : Json := .str ("" : String)
  description : Json := .str ("" : String)
  data : Bytes := []
  policy : Option AccessPolicy := none
  synchronizable : Json := .bool false
  created : Option Moment := none
  modified : Option Moment := none
deriving Inhabited

inductive MatchLimit
  | one
  | all
deriving DecidableEq, Repr

def MatchLimit.name : MatchLimit → String
  | .one => "one"
  | .all => "all"

structure Query where
  service : Text
  account : Option Text := none
  limit : MatchLimit := .one
  attributes : Bool := false
  data : Bool := false
  reference : Bool := false
  reuse : Option Span := none
deriving DecidableEq, Repr

/-- New values for fields of a record; a field without one is left alone. -/
structure Patch where
  data : Option Bytes := none
  label : Option Text := none
  description : Option Text := none
  policy : Option AccessPolicy := none
deriving DecidableEq, Repr

inductive Write
  | add (record : Record)
  | update (query : Query) (patch : Patch)
  | delete (query : Query)

namespace Record

def isText (s : Text) : Json → Bool
  | .str t => t == s
  | _ => false

def meets (r : Record) (q : Query) : Bool :=
  isText q.service r.service && q.account.all fun account => isText account r.account

def project (r : Record) (q : Query) : Record :=
  let shown : Record :=
    if q.attributes || q.reference then r else { service := r.service, account := r.account }
  { shown with data := if q.data then r.data else [] }

def sameIdentity (r s : Record) : Bool :=
  r.service.sameKey s.service && r.account.sameKey s.account

def patched (r : Record) (p : Patch) (now : Moment) : Record :=
  { r with
    data := p.data.getD r.data
    label := (p.label.map Json.str).getD r.label
    description := (p.description.map Json.str).getD r.description
    policy := p.policy.or r.policy
    modified := some now }

theorem sameKey_text (j : Json) (s : Text) : j.sameKey (.str s) = isText s j := by
  cases j with
  | float x =>
    simp only [Json.sameKey, Json.number?, isText]
    cases x.toInt? <;> rfl
  | _ => rfl

theorem meets_patched (r : Record) (p : Patch) (now : Moment) (q : Query) :
    (r.patched p now).meets q = r.meets q := rfl

end Record

end SecretStore
