import SecretStore.Keyring.Error
import SecretStore.Record
import SecretStore.Value

/-!
The table of records behind a store: one record for a service and account, in
the order in which they were added. Adding over a record is refused, and a
query, an update or a deletion that finds nothing says so. A record is stamped
with the time when it is added, and again when it is updated.
-/

namespace SecretStore

/-- Records in the order of their addition. -/
abbrev Table := List Record

namespace Table

def holds (t : Table) (r : Record) : Bool :=
  t.any (·.sameIdentity r)

/-- The table of a list of records: of two with one identity the later counts,
at the place of the earlier. -/
def put (r : Record) : Table → Table
  | [] => [r]
  | s :: rest => if s.sameIdentity r then r :: rest else s :: put r rest

def ofRecords (rs : List Record) : Table :=
  rs.foldl (fun t r => put r t) []

private def accountLiteral : Option Text → String
  | none => "None"
  | some account => Text.quoted account

def notFound (q : Query) : NativeError :=
  ⟨.notFound, "no item for service=" ++ Text.quoted q.service ++ ", account=" ++
    accountLiteral q.account⟩

def duplicate (r : Record) : NativeError :=
  ⟨.duplicate, "item already exists for service=" ++ r.service.literal ++ ", account=" ++
    r.account.literal⟩

def found (t : Table) (q : Query) : List Record :=
  (t.filter (·.meets q)).map (·.project q)

def query (t : Table) (q : Query) : Except NativeError (List Record) :=
  match t.found q with
  | [] => .error (notFound q)
  | r :: rest => .ok (match q.limit with
    | .one => [r]
    | .all => r :: rest)

def write (now : Moment) (t : Table) : Write → Except NativeError Table
  | .add r =>
    if t.holds r then .error (duplicate r)
    else .ok (t ++ [{ r with created := some now, modified := some now }])
  | .update q p =>
    if t.any (·.meets q) then
      .ok (t.map fun r => if r.meets q then r.patched p now else r)
    else .error (notFound q)
  | .delete q =>
    if t.any (·.meets q) then .ok (t.filter fun r => !r.meets q)
    else .error (notFound q)

end Table

def Write.isStamped : Write → Bool
  | .add _ | .update _ _ => true
  | .delete _ => false

end SecretStore
