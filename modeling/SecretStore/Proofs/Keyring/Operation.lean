import SecretStore.Keyring.Basic
import SecretStore.Table

/-!
The operations of keyrings as data, and a table as the store that answers
them. A request is an operation of some keyring, so one run can mix keyrings
of any services, policies and settings. A table answers while the clock shows
one moment; a request makes at most one change that is stamped, so one moment
is all that it can read.
-/

namespace SecretStore

inductive Operation
  | get (key : Text)
  | metadata (key : Text)
  | set (item : Item)
  | remove (key : Text)
  | keys

def Operation.key? : Operation → Option Text
  | .get key | .metadata key | .remove key => some key
  | .set item => some item.key
  | .keys => none

inductive Answer
  | item (item : Item)
  | metadata (m : Metadata)
  | done
  | keys (keys : List Json)

abbrev Outcome := Except KeyringError Answer

structure Request where
  keyring : Keyring
  operation : Operation

namespace Request

def script (r : Request) : Script Answer :=
  match r.operation with
  | .get key => (r.keyring.get key).mapResult fun a => a.map .item
  | .metadata key => (r.keyring.getMetadata key).mapResult fun a => a.map .metadata
  | .set item => (r.keyring.set item).mapResult fun a => a.map fun _ => .done
  | .remove key => (r.keyring.remove key).mapResult fun a => a.map fun _ => .done
  | .keys => r.keyring.keys.mapResult fun a => a.map .keys

end Request

theorem Record.sameIdentity_recordOf (r : Record) (k : Keyring) (item : Item) :
    r.sameIdentity (k.recordOf item) =
      r.meets { service := k.service, account := some item.key } := by
  rw [sameIdentity, Keyring.recordOf, sameKey_text, sameKey_text]
  rfl

namespace Table

def store (now : Moment) : Script.Store Table where
  query t q := (t.query q, t)
  write t w := match t.write now w with
    | .ok t' => (.ok (), t')
    | .error e => (.error e, t)

theorem store_query (now : Moment) (t : Table) (q : Query) :
    (store now).query t q = (t.query q, t) := rfl

theorem store_write_ok {now : Moment} {t t' : Table} {w : Write} (h : t.write now w = .ok t') :
    (store now).write t w = (.ok (), t') := by
  simp only [store, h]

theorem store_write_error {now : Moment} {t : Table} {w : Write} {e : NativeError}
    (h : t.write now w = .error e) : (store now).write t w = (.error e, t) := by
  simp only [store, h]

def hasKey (t : Table) (service key : Text) : Bool :=
  t.any fun r => r.meets { service, account := some key }

theorem holds_recordOf (t : Table) (k : Keyring) (item : Item) :
    t.holds (k.recordOf item) = t.hasKey k.service item.key := by
  simp only [holds, hasKey, Record.sameIdentity_recordOf]

theorem query_missing {t : Table} {q : Query} (h : t.any (fun r => r.meets q) = false) :
    t.query q = .error (notFound q) := by
  have none_left : t.filter (fun r => r.meets q) = [] := by
    rw [List.filter_eq_nil_iff]
    intro r member meets
    exact Bool.false_ne_true (h.symm.trans (List.any_eq_true.mpr ⟨r, member, meets⟩))
  rw [query, found, none_left]
  rfl

theorem query_there {t : Table} {q : Query} (h : t.any (fun r => r.meets q) = true) :
    ∃ r rest, t.query q = .ok (r :: rest) := by
  obtain ⟨r, member, meets⟩ := List.any_eq_true.mp h
  have kept : r.project q ∈ t.found q :=
    List.mem_map_of_mem (List.mem_filter.mpr ⟨member, meets⟩)
  rw [query]
  cases found_eq : t.found q with
  | nil =>
    rw [found_eq] at kept
    cases kept
  | cons first rest =>
    cases q.limit with
    | one => exact ⟨first, [], rfl⟩
    | all => exact ⟨first, rest, rfl⟩

def perform (now : Moment) (r : Request) (t : Table) : Outcome × Table :=
  let (outcome, _, t') := r.script.run (store now) t
  (outcome, t')

theorem perform_get_answered (now : Moment) {k : Keyring} {key : Text} {t : Table} {r : Record}
    {rest : List Record} (answered : t.query (k.itemQuery key true false) = .ok (r :: rest)) :
    perform now ⟨k, .get key⟩ t = ((Keyring.itemOf key r).map .item, t) := by
  simp only [perform, Request.script, Keyring.get, Keyring.queryOne, Keyring.debug,
    Script.run_mapResult, Script.run_log, Script.run_query, store_query, answered]
  rfl

theorem perform_remove_deleted {now : Moment} {k : Keyring} {key : Text} {t t' : Table}
    (deleted : t.write now (.delete { service := k.service, account := some key }) = .ok t') :
    perform now ⟨k, .remove key⟩ t = (.ok .done, t') := by
  simp only [perform, Request.script, Keyring.remove, Keyring.debug, Script.run_mapResult,
    Script.run_log, Script.run_write, store_write_ok deleted]
  rfl

/-- What setting an item amounts to: a new record behind all others, or a new
secret and a new date for the one that is there. -/
def upsert (now : Moment) (k : Keyring) (item : Item) (t : Table) : Table :=
  if t.hasKey k.service item.key then
    t.map fun r =>
      if r.meets { service := k.service, account := some item.key } then
        { r with data := item.data, modified := some now }
      else r
  else t ++ [{ k.recordOf item with created := some now, modified := some now }]

theorem write_add_absent {t : Table} {k : Keyring} {item : Item} (now : Moment)
    (absent : t.hasKey k.service item.key = false) :
    t.write now (.add (k.recordOf item)) = .ok (t.upsert now k item) := by
  simp only [write, holds_recordOf, upsert, absent, Bool.false_eq_true, if_false]

theorem write_add_present {t : Table} {k : Keyring} {item : Item} (now : Moment)
    (present : t.hasKey k.service item.key = true) :
    t.write now (.add (k.recordOf item)) = .error (duplicate (k.recordOf item)) := by
  simp only [write, holds_recordOf, present, if_true]

theorem write_update_absent {t : Table} {q : Query} (now : Moment) (p : Patch)
    (absent : t.any (fun r => r.meets q) = false) :
    t.write now (.update q p) = .error (notFound q) := by
  simp only [write, absent, Bool.false_eq_true, if_false]

theorem write_delete_absent {t : Table} {q : Query} (now : Moment)
    (absent : t.any (fun r => r.meets q) = false) :
    t.write now (.delete q) = .error (notFound q) := by
  simp only [write, absent, Bool.false_eq_true, if_false]

theorem write_delete_present {t : Table} {q : Query} (now : Moment)
    (there : t.any (fun r => r.meets q) = true) :
    t.write now (.delete q) = .ok (t.filter fun r => !r.meets q) := by
  simp only [write, there, if_true]

theorem write_update_present {t : Table} {k : Keyring} {item : Item} (now : Moment)
    (present : t.hasKey k.service item.key = true) :
    t.write now (.update (k.itemQuery item.key false false) { data := some item.data }) =
      .ok (t.upsert now k item) := by
  have there : t.any (fun r => r.meets (k.itemQuery item.key false false)) = true := present
  rw [write, if_pos there, upsert, if_pos present]
  rfl

/-- Alone on any table, setting an item is the one change that the calls of a
store can only make together. -/
theorem perform_set (now : Moment) (k : Keyring) (item : Item) (t : Table) :
    perform now ⟨k, .set item⟩ t = (.ok .done, t.upsert now k item) := by
  simp only [perform, Request.script, Keyring.set, Keyring.debug, Script.run_mapResult,
    Script.run_log, Script.run_write]
  cases present : t.hasKey k.service item.key with
  | false =>
    rw [store_write_ok (write_add_absent now present)]
    rfl
  | true =>
    rw [store_write_error (write_add_present now present)]
    obtain ⟨r, rest, found⟩ := query_there (q := k.itemQuery item.key false false) present
    simp only [duplicate, Keyring.replaceData, Keyring.debug, Script.run_log, Script.run_query,
      store_query, found, Keyring.overwrite, Script.run_write,
      store_write_ok (write_update_present now present)]
    rfl

end Table

def serial {σ : Type} (perform : Moment → Request → σ → Outcome × σ) :
    List (Moment × Request) → σ → List Outcome × σ
  | [], s => ([], s)
  | (now, r) :: rest, s =>
    let (outcome, s) := perform now r s
    let (outcomes, s) := serial perform rest s
    (outcome :: outcomes, s)

theorem serial_cons {σ : Type} (perform : Moment → Request → σ → Outcome × σ) (now : Moment)
    (r : Request) (rest : List (Moment × Request)) (s : σ) :
    serial perform ((now, r) :: rest) s =
      ((perform now r s).1 :: (serial perform rest (perform now r s).2).1,
        (serial perform rest (perform now r s).2).2) := rfl

theorem serial_append {σ : Type} (perform : Moment → Request → σ → Outcome × σ)
    (first rest : List (Moment × Request)) (s : σ) :
    serial perform (first ++ rest) s =
      ((serial perform first s).1 ++ (serial perform rest (serial perform first s).2).1,
        (serial perform rest (serial perform first s).2).2) := by
  induction first generalizing s with
  | nil => rfl
  | cons step first ih =>
    obtain ⟨now, r⟩ := step
    rw [List.cons_append, serial_cons, serial_cons, ih]
    rfl

end SecretStore
