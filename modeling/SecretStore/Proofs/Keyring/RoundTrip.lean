import SecretStore.Proofs.Keyring.Operation

/-!
An item that is set under a new key is what the keyring gives back, in its key, its secret
and its words. Whether it may be synchronized goes into the record together with the setting
of the keyring, and is not read from there; an item that is given back is one that may be.
Where that was so, removing the item and setting it again restores its record but for the
dates.
-/

namespace SecretStore

theorem Keyring.meets_recordOf (k : Keyring) (item : Item) (created modified : Option Moment) :
    ({ k.recordOf item with created, modified } : Record).meets
      { service := k.service, account := some item.key } = true := by
  simp [Record.meets, Record.isText, recordOf]

namespace Table

variable {k : Keyring} {t before after : Table} {service key label description : Text}
  {r : Record} {q : Query}

theorem query_only (only : t.filter (fun r => r.meets q) = [r]) :
    t.query q = .ok [r.project q] := by
  rw [query, found, only]
  cases q.limit <;> rfl

theorem perform_get_only (now : Moment)
    (only : t.filter (fun r => r.meets { service := k.service, account := some key }) = [r])
    (label_eq : r.label = .str label) (description_eq : r.description = .str description) :
    perform now ⟨k, .get key⟩ t =
      (.ok (.item { key, data := r.data, label, description }), t) := by
  rw [perform_get_answered now (query_only (q := k.itemQuery key true false) only),
    Keyring.itemOf_text key (r := r.project (k.itemQuery key true false)) label_eq description_eq]
  rfl

theorem upsert_absent (now : Moment) {item : Item} (absent : t.hasKey k.service item.key = false) :
    t.upsert now k item =
      t ++ [{ k.recordOf item with created := some now, modified := some now }] := by
  rw [upsert, absent, if_neg Bool.false_ne_true]

theorem filter_alone (absent : (before ++ after).hasKey service key = false)
    (meets : r.meets { service, account := some key } = true) :
    (before ++ r :: after).filter (fun r => r.meets { service, account := some key }) = [r] ∧
      (before ++ r :: after).filter (fun r => !r.meets { service, account := some key }) =
        before ++ after := by
  have others := List.any_eq_false.mp absent
  rw [List.forall_mem_append] at others
  obtain ⟨first, last⟩ := others
  constructor
  · rw [List.filter_append, List.filter_cons, if_pos meets, List.filter_eq_nil_iff.mpr first,
      List.filter_eq_nil_iff.mpr last, List.nil_append]
  · rw [List.filter_append, List.filter_cons, meets, Bool.not_true, if_neg Bool.false_ne_true,
      List.filter_eq_self.mpr fun r member => by simpa using first r member,
      List.filter_eq_self.mpr fun r member => by simpa using last r member]

theorem perform_get_made (now : Moment) {item : Item} (created modified : Option Moment)
    (absent : (before ++ after).hasKey k.service item.key = false) :
    let made := before ++ { k.recordOf item with created, modified } :: after
    perform now ⟨k, .get item.key⟩ made =
      (.ok (.item { item with allowSync := true }), made) := by
  have only := (filter_alone absent (k.meets_recordOf item created modified)).1
  exact perform_get_only now only rfl rfl

theorem perform_remove_made (now : Moment) {item : Item} (created modified : Option Moment)
    (absent : (before ++ after).hasKey k.service item.key = false) :
    perform now ⟨k, .remove item.key⟩
        (before ++ { k.recordOf item with created, modified } :: after) =
      (.ok .done, before ++ after) := by
  have meets := k.meets_recordOf item created modified
  have present : (before ++ { k.recordOf item with created, modified } :: after).hasKey
      k.service item.key = true :=
    List.any_eq_true.mpr ⟨_, List.mem_append_right before List.mem_cons_self, meets⟩
  rw [perform_remove_deleted (write_delete_present now present), (filter_alone absent meets).2]

end Table

theorem Keyring.recordOf_allowed {k : Keyring} {item : Item}
    (allowed : k.synchronizable = true → item.allowSync = true) :
    k.recordOf { item with allowSync := true } = k.recordOf item := by
  have same : (k.synchronizable && true) = (k.synchronizable && item.allowSync) := by
    cases syncs : k.synchronizable with
    | false => rfl
    | true => rw [allowed syncs]
  simp only [recordOf, same]

/-- On any table without a record of its key, setting an item adds one, and the keyring
gives the item back: its key, secret, label and description, and the whole item if it may
be synchronized. And wherever such a record stands, of an item that may be synchronized if
the keyring does that, removing it and setting the item that was given back makes the
record anew, behind the others, with no field but the dates changed. -/
theorem items_come_back (k : Keyring) :
    (∀ (t : Table) (item : Item) (now later : Moment), t.hasKey k.service item.key = false →
      let stored := t ++ [{ k.recordOf item with created := some now, modified := some now }]
      ∃ got : Item, Table.perform now ⟨k, .set item⟩ t = (.ok .done, stored) ∧
        Table.perform later ⟨k, .get item.key⟩ stored = (.ok (.item got), stored) ∧
        got.key = item.key ∧ got.data = item.data ∧ got.label = item.label ∧
        got.description = item.description ∧ (item.allowSync = true → got = item)) ∧
    ∀ (before after : Table) (item : Item) (created modified : Option Moment)
      (first second third : Moment), (before ++ after).hasKey k.service item.key = false →
      (k.synchronizable = true → item.allowSync = true) →
      let r : Record := { k.recordOf item with created, modified }
      ∃ got : Item, serial Table.perform [(first, ⟨k, .get item.key⟩),
          (second, ⟨k, .remove item.key⟩), (third, ⟨k, .set got⟩)] (before ++ r :: after) =
        ([.ok (.item got), .ok .done, .ok .done],
          before ++ after ++ [{ r with created := some third, modified := some third }]) := by
  refine ⟨fun t item now later absent => ?_,
    fun before after item created modified first second third absent allowed => ?_⟩
  · refine ⟨{ item with allowSync := true }, ?_, ?_, rfl, rfl, rfl, rfl, fun allows => ?_⟩
    · rw [Table.perform_set, Table.upsert_absent now absent]
    · have alone : (t ++ []).hasKey k.service item.key = false := by rwa [List.append_nil]
      exact Table.perform_get_made later _ _ alone
    · rw [← allows]
  -- the item that was given back has the key of the one that was set
  · have absent' : (before ++ after).hasKey k.service { item with allowSync := true }.key = false :=
      absent
    refine ⟨{ item with allowSync := true }, ?_⟩
    rw [serial_cons, Table.perform_get_made first created modified absent, serial_cons,
      Table.perform_remove_made second created modified absent, serial_cons, Table.perform_set,
      Table.upsert_absent third absent', Keyring.recordOf_allowed allowed]
    rfl

/-- An item that may be synchronized, beside a record of another key. -/
theorem items_come_back_beside :
    let k : Keyring := ⟨"s", ⟨.standard, .empty⟩, .zero, true⟩
    let item : Item := { key := "a", data := [7], label := "l" }
    let other : Record := k.recordOf { key := "b" }
    let r : Record := k.recordOf item
    Table.hasKey [other] k.service item.key = false ∧
      (k.synchronizable = true → item.allowSync = true) ∧
      (∃ got : Item, item.allowSync = true ∧ got = item ∧
        (Table.perform default ⟨k, .get item.key⟩
          (Table.perform default ⟨k, .set item⟩ [other]).2).1 = .ok (.item got)) ∧
      ∃ got : Item, serial Table.perform [(default, ⟨k, .get item.key⟩),
          (default, ⟨k, .remove item.key⟩), (default, ⟨k, .set got⟩)] [r, other] =
        ([.ok (.item got), .ok .done, .ok .done],
          [other, { r with created := some default, modified := some default }]) := by
  intro k item other r
  have absent : Table.hasKey [other] k.service item.key = false := rfl
  obtain ⟨got, set, given, -, -, -, -, back⟩ :=
    (items_come_back k).1 [other] item default default absent
  refine ⟨absent, fun _ => rfl, ⟨got, rfl, back rfl, ?_⟩,
    (items_come_back k).2 [] [other] item none none default default default absent fun _ => rfl⟩
  rw [set, given]

/-- An item that opts out is given back as one that may be synchronized, whether or not
the keyring synchronizes. Where it does, removing the item and setting it as it was given
back marks its record, which was not marked. -/
theorem optOut_is_not_given_back :
    let k (synchronizable : Bool) : Keyring := ⟨"s", ⟨.standard, .empty⟩, .zero, synchronizable⟩
    let item : Item := { key := "a", allowSync := false }
    let got : Item := { key := "a", allowSync := true }
    let record (mark : Bool) : Record :=
      { (k false).recordOf item with
        synchronizable := .bool mark, created := some default, modified := some default }
    let setAndGet (k : Keyring) :=
      serial Table.perform [(default, ⟨k, .set item⟩), (default, ⟨k, .get "a"⟩)] []
    got ≠ item ∧
      setAndGet (k false) = ([.ok .done, .ok (.item got)], [record false]) ∧
      setAndGet (k true) = ([.ok .done, .ok (.item got)], [record false]) ∧
      serial Table.perform [(default, ⟨k true, .remove "a"⟩), (default, ⟨k true, .set got⟩)]
        [record false] = ([.ok .done, .ok .done], [record true]) :=
  ⟨by decide, rfl, rfl, rfl⟩

end SecretStore
