import SecretStore.Proofs.Vault

/-!
A table that keyrings alone write to is a vault: every native call of a
keyring, made on the table of a vault, answers from the entry at one place and
leaves the table of the changed vault. Runs of requests, one at a time, then
have the answers of the abstract store.
-/

namespace SecretStore

/-- The record that a table keeps for an entry. -/
def Entry.record (p : Place) (e : Entry) : Record where
  service := .str p.service
  account := .str p.key
  label := .str e.label
  description := .str e.description
  data := e.data
  policy := some e.policy
  synchronizable := .bool e.synchronizable
  created := some e.created
  modified := some e.modified

namespace Vault

def table (v : Vault) : Table :=
  v.entries.map fun e => e.2.record e.1

theorem record_meets (p : Place) (e : Entry) (q : Query) :
    (e.record p).meets q =
      (p.service == q.service && q.account.all fun account => p.key == account) := rfl

theorem record_meets_place {p : Place} {q : Query} {key : Text} (e : Entry)
    (h : q.account = some key) :
    (e.record p).meets q = decide (p = ⟨q.service, key⟩) := by
  rw [record_meets, h, Option.all_some, Bool.eq_iff_iff]
  simp [Place.ext_iff]

theorem filter_place {l : List (Place × Entry)} (distinct : (l.map Prod.fst).Nodup) (p : Place) :
    (l.filter fun e => e.1 = p) = ((l.lookup p).map fun e => (p, e)).toList := by
  induction l with
  | nil => rfl
  | cons first rest ih =>
    obtain ⟨q, e⟩ := first
    rw [List.map_cons, List.nodup_cons] at distinct
    have tail := ih distinct.2
    by_cases same : q = p
    · subst same
      have none_left : rest.lookup q = none := by
        rw [List.lookup_eq_none_iff]
        intro other member
        have apart : q ≠ other.1 := fun eq =>
          distinct.1 (List.mem_map.mpr ⟨other, member, eq.symm⟩)
        simpa using apart
      rw [none_left] at tail
      simp [tail]
    · have differ : (p == q) = false := by simpa using Ne.symm same
      simp [List.lookup_cons, differ, same, tail]

theorem found_place (v : Vault) {q : Query} {key : Text} (h : q.account = some key) :
    v.table.found q = ((v.find? ⟨q.service, key⟩).map fun e =>
      (e.record ⟨q.service, key⟩).project q).toList := by
  have chosen : (v.table.filter fun r => r.meets q) =
      (v.entries.filter fun e => e.1 = ⟨q.service, key⟩).map fun e => e.2.record e.1 := by
    rw [table, List.filter_map]
    congr 1
    exact List.filter_congr fun e _ => record_meets_place e.2 h
  rw [Table.found, chosen, filter_place v.distinct, find?]
  cases v.entries.lookup ⟨q.service, key⟩ <;> rfl

theorem any_place (v : Vault) {q : Query} {key : Text} (h : q.account = some key) :
    v.table.any (fun r => r.meets q) = (v.find? ⟨q.service, key⟩).isSome := by
  rw [Bool.eq_iff_iff, List.any_eq_true, Option.isSome_iff_exists, ← mem_places, places,
    List.mem_map, table]
  constructor
  · rintro ⟨r, member, meets⟩
    obtain ⟨e, he, rfl⟩ := List.mem_map.mp member
    rw [record_meets_place e.2 h, decide_eq_true_eq] at meets
    exact ⟨e, he, meets⟩
  · rintro ⟨e, he, same⟩
    refine ⟨e.2.record e.1, List.mem_map_of_mem (f := fun e => e.2.record e.1) he, ?_⟩
    rw [record_meets_place e.2 h, same]
    exact decide_eq_true rfl

theorem query_absent {v : Vault} {q : Query} {key : Text} (h : q.account = some key)
    (absent : v.find? ⟨q.service, key⟩ = none) :
    v.table.query q = .error (Table.notFound q) := by
  rw [Table.query, v.found_place h, absent]
  rfl

theorem query_present {v : Vault} {q : Query} {key : Text} {e : Entry}
    (h : q.account = some key) (present : v.find? ⟨q.service, key⟩ = some e) :
    v.table.query q = .ok [(e.record ⟨q.service, key⟩).project q] := by
  rw [Table.query, v.found_place h, present]
  cases q.limit <;> rfl

theorem hasKey_table (v : Vault) (service key : Text) :
    v.table.hasKey service key = (v.find? ⟨service, key⟩).isSome :=
  v.any_place (q := { service, account := some key }) rfl

theorem upsert_table (v : Vault) (now : Moment) (k : Keyring) (item : Item) :
    v.table.upsert now k item = (v.set k item now).table := by
  rw [Table.upsert, hasKey_table]
  cases h : v.find? ⟨k.service, item.key⟩ with
  | none =>
    rw [set_absent now (find?_eq_none.mp h)]
    simp only [table, append, List.map_append]
    rfl
  | some e =>
    rw [set_present now h, Option.isSome_some, if_pos rfl]
    simp only [table, modify, List.map_map]
    refine List.map_congr_left fun other _ => ?_
    have meets := record_meets_place (p := other.1) other.2
      (q := { service := k.service, account := some item.key }) rfl
    simp only [Function.comp_apply, meets, decide_eq_true_eq]
    split <;> rfl

theorem write_delete_absent {v : Vault} {q : Query} {key : Text} (now : Moment)
    (h : q.account = some key) (absent : v.find? ⟨q.service, key⟩ = none) :
    v.table.write now (.delete q) = .error (Table.notFound q) := by
  rw [Table.write, v.any_place h, absent]
  rfl

theorem write_delete_present {v : Vault} {q : Query} {key : Text} {e : Entry} (now : Moment)
    (h : q.account = some key) (present : v.find? ⟨q.service, key⟩ = some e) :
    v.table.write now (.delete q) = .ok (v.erase ⟨q.service, key⟩).table := by
  rw [Table.write, v.any_place h, present, Option.isSome_some, if_pos rfl]
  congr 1
  simp only [table, erase, List.filter_map]
  congr 1
  refine List.filter_congr fun other _ => ?_
  simp [record_meets_place other.2 h]

theorem found_service (v : Vault) (k : Keyring) :
    (v.table.found k.serviceQuery).map (·.account) = (v.keysOf k.service).map .str := by
  have chosen : (v.table.filter fun r => r.meets k.serviceQuery) =
      (v.entries.filter fun e => e.1.service = k.service).map fun e => e.2.record e.1 := by
    rw [table, List.filter_map]
    congr 1
    refine List.filter_congr fun e _ => ?_
    rw [Bool.eq_iff_iff]
    simp [record_meets, Keyring.serviceQuery]
  rw [Table.found, chosen, keysOf, places, List.filter_map]
  simp only [List.map_map]
  rfl

theorem query_service (v : Vault) (k : Keyring) :
    (v.keysOf k.service = [] ∧
      v.table.query k.serviceQuery = .error (Table.notFound k.serviceQuery)) ∨
    ∃ records, v.table.query k.serviceQuery = .ok records ∧
      records.map (·.account) = (v.keysOf k.service).map .str := by
  have accounts := v.found_service k
  rw [Table.query]
  cases h : v.table.found k.serviceQuery with
  | nil =>
    rw [h] at accounts
    exact .inl ⟨List.map_eq_nil_iff.mp accounts.symm, rfl⟩
  | cons record rest =>
    rw [h] at accounts
    exact .inr ⟨record :: rest, rfl, accounts⟩

theorem perform_table (now : Moment) (r : Request) (v : Vault) :
    Table.perform now r v.table = ((v.perform now r).1, (v.perform now r).2.table) := by
  obtain ⟨k, operation⟩ := r
  cases operation with
  | get key =>
    cases h : v.find? ⟨k.service, key⟩ with
    | none =>
      simp only [Table.perform, Request.script, perform, Keyring.get, Keyring.queryOne,
        Keyring.debug, Script.run_mapResult, Script.run_log, Script.run_query, Table.store_query, h]
      rw [query_absent (q := k.itemQuery key true false) rfl h]
      rfl
    | some e =>
      rw [Table.perform_get_answered now (query_present rfl h)]
      simp only [perform, h]
      rfl
  | metadata key =>
    simp only [Table.perform, Request.script, perform, Keyring.getMetadata, Keyring.queryOne,
      Keyring.debug, Script.run_mapResult, Script.run_log, Script.run_query, Table.store_query]
    cases h : v.find? ⟨k.service, key⟩ with
    | none =>
      rw [query_absent (q := k.itemQuery key false true) rfl h]
      rfl
    | some e =>
      rw [query_present (q := k.itemQuery key false true) rfl h]
      rfl
  | set item =>
    rw [Table.perform_set, upsert_table]
    rfl
  | remove key =>
    cases h : v.find? ⟨k.service, key⟩ with
    | none =>
      have absent := write_delete_absent (q := { service := k.service, account := some key })
        now rfl h
      simp only [Table.perform, Request.script, perform, Keyring.remove, Keyring.debug,
        Script.run_mapResult, Script.run_log, Script.run_write, h]
      rw [Table.store_write_error absent]
      rfl
    | some e =>
      rw [Table.perform_remove_deleted (write_delete_present now rfl h)]
      simp only [perform, h]
  | keys =>
    simp only [Table.perform, Request.script, perform, Keyring.keys, Keyring.debug,
      Script.run_mapResult, Script.run_log, Script.run_query, Table.store_query]
    rcases query_service v k with ⟨none_there, failed⟩ | ⟨records, answered, accounts⟩
    · rw [failed, none_there]
      rfl
    · rw [answered, ← accounts]
      rfl

theorem serial_table (steps : List (Moment × Request)) (v : Vault) :
    serial Table.perform steps v.table =
      ((serial perform steps v).1, (serial perform steps v).2.table) := by
  induction steps generalizing v with
  | nil => rfl
  | cons step rest ih =>
    obtain ⟨now, r⟩ := step
    rw [serial_cons, serial_cons, perform_table now r v, ih]

end Vault

/-- Whatever keyrings do, one request at a time, on a table that starts empty:
their outcomes are those of the abstract store, and the table at the end holds
exactly its entries, in their order and with all their fields. -/
theorem keyrings_refine_vault (steps : List (Moment × Request)) :
    serial Table.perform steps [] =
      ((serial Vault.perform steps .empty).1, (serial Vault.perform steps .empty).2.table) :=
  Vault.serial_table steps .empty

end SecretStore
