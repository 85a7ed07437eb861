import SecretStore.Proofs.Keyring.Serial

/-!
The synchronizing marker of records. A keyring that synchronizes marks a record as it
makes it, after the wish of the item that it is made from. Setting an item over a record
replaces the secret and leaves the marker, so it is the first item set under a key, since
the key was last removed, whose wish counts.
-/

namespace SecretStore

/-- The item that the record of a key was made from, after one more operation. -/
def Operation.maker (key : Text) (made : Option Item) : Operation → Option Item
  | .set item => if item.key = key then made.or (some item) else made
  | .remove other => if other = key then none else made
  | .get _ | .metadata _ | .keys => made

/-- The item that the record of a key was made from: the first that was set under it
since it was last removed. -/
def maker? (key : Text) (operations : List Operation) : Option Item :=
  operations.foldl (Operation.maker key) none

namespace Vault

variable {k : Keyring} {v : Vault}

/-- The entries of a vault are of one service, and marked after the items they were made from. -/
structure Marked (k : Keyring) (made : Text → Option Item) (v : Vault) : Prop where
  own : ∀ p ∈ v.places, p.service = k.service
  marks : ∀ key, (v.find? ⟨k.service, key⟩).map Entry.synchronizable =
    (made key).map Item.allowSync

theorem Marked.empty (k : Keyring) : Marked k (fun _ => none) .empty :=
  ⟨nofun, fun _ => rfl⟩

theorem Marked.set {made : Text → Option Item} (marked : Marked k made v)
    (syncs : k.synchronizable = true) (now : Moment) (item : Item) :
    Marked k (fun key => (Operation.set item).maker key (made key)) (v.set k item now) := by
  have before := marked.marks item.key
  cases there : v.find? ⟨k.service, item.key⟩ with
  | none =>
    rw [there] at before
    have unmade : made item.key = none := Option.map_eq_none_iff.mp before.symm
    rw [set_absent now (find?_eq_none.mp there)]
    refine ⟨?_, fun key => ?_⟩
    · intro p member
      rw [places, append, List.map_append, List.mem_append] at member
      rcases member with old | new
      · exact marked.own p old
      · rw [List.map_singleton, List.mem_singleton] at new
        rw [new]
    · rw [find?_append, Operation.maker]
      by_cases same : item.key = key
      · subst same
        simp [unmade, Entry.ofItem, syncs]
      · rw [if_neg (Place.ne_of_key _ same), if_neg same, marked.marks]
  | some e =>
    rw [there] at before
    obtain ⟨maker, kept, wish⟩ := Option.map_eq_some_iff.mp before.symm
    rw [set_present now there]
    refine ⟨?_, fun key => ?_⟩
    · rw [places_modify]
      exact marked.own
    · rw [find?_modify, Operation.maker]
      by_cases same : item.key = key
      · subst same
        simp [there, kept, wish, Entry.rewritten]
      · rw [if_neg (Place.ne_of_key _ same), if_neg same, marked.marks]

theorem Marked.erase {made : Text → Option Item} (marked : Marked k made v) (key : Text) :
    Marked k (fun other => (Operation.remove key).maker other (made other))
      (v.erase ⟨k.service, key⟩) := by
  refine ⟨?_, fun other => ?_⟩
  · intro p member
    obtain ⟨e, left, same⟩ := List.mem_map.mp member
    exact marked.own p (List.mem_map.mpr ⟨e, (List.mem_filter.mp left).1, same⟩)
  · rw [find?_erase, Operation.maker]
    by_cases same : key = other
    · subst same
      simp
    · rw [if_neg (Place.ne_of_key _ same), if_neg same, marked.marks]

theorem Marked.perform {made : Text → Option Item} (marked : Marked k made v)
    (syncs : k.synchronizable = true) (now : Moment) (operation : Operation) :
    Marked k (fun key => operation.maker key (made key)) (v.perform now ⟨k, operation⟩).2 := by
  cases operation with
  | set item => exact marked.set syncs now item
  | remove key =>
    have erased := marked.erase key
    rw [Vault.perform]
    dsimp only
    cases there : v.find? ⟨k.service, key⟩ with
    | some e => exact erased
    | none =>
      -- nothing was made, so nothing is taken back
      have unmade : made key = none := by
        have before := marked.marks key
        rw [there] at before
        exact Option.map_eq_none_iff.mp before.symm
      refine ⟨marked.own, fun other => ?_⟩
      rw [Operation.maker]
      by_cases same : key = other
      · subst same
        rw [if_pos rfl, there]
        rfl
      · rw [if_neg same, marked.marks]
  | get key | metadata key =>
    rw [Vault.perform]
    dsimp only
    cases v.find? ⟨k.service, key⟩ <;> exact ⟨marked.own, marked.marks⟩
  | keys => exact ⟨marked.own, marked.marks⟩

theorem mem_table {r : Record} : r ∈ v.table ↔ ∃ p e, v.find? p = some e ∧ r = e.record p := by
  rw [table, List.mem_map]
  constructor
  · rintro ⟨⟨p, e⟩, member, rfl⟩
    have found : (p, e) ∈ v.entries.filter fun entry => entry.1 = p :=
      List.mem_filter.mpr ⟨member, decide_eq_true rfl⟩
    rw [filter_place v.distinct, Option.mem_toList] at found
    obtain ⟨_, there, same⟩ := Option.map_eq_some_iff.mp found
    cases same
    exact ⟨p, e, there, rfl⟩
  · rintro ⟨p, e, there, rfl⟩
    have found : (p, e) ∈ v.entries.filter fun entry => entry.1 = p := by
      rw [filter_place v.distinct]
      exact Option.mem_toList.mpr (Option.map_eq_some_iff.mpr ⟨e, there, rfl⟩)
    exact ⟨(p, e), (List.mem_filter.mp found).1, rfl⟩

end Vault

def Keyring.requests (k : Keyring) (steps : List (Moment × Operation)) : List (Moment × Request) :=
  steps.map fun step => (step.1, ⟨k, step.2⟩)

theorem Vault.Marked.serial {k : Keyring} {made : Text → Option Item} {v : Vault}
    (marked : Marked k made v) (syncs : k.synchronizable = true)
    (steps : List (Moment × Operation)) :
    Marked k (fun key => (steps.map Prod.snd).foldl (Operation.maker key) (made key))
      (serial Vault.perform (k.requests steps) v).2 := by
  induction steps generalizing made v with
  | nil => exact marked
  | cons step rest ih => exact ih (marked.perform syncs step.1 step.2)

theorem Table.sets_succeed (k : Keyring) (steps : List (Moment × Operation)) (t : Table) :
    ∀ step ∈ steps.zip (serial Table.perform (k.requests steps) t).1,
      ∀ item, step.1.2 = .set item → step.2 = .ok .done := by
  induction steps generalizing t with
  | nil => exact List.forall_mem_nil _
  | cons step rest ih =>
    refine List.forall_mem_cons.mpr ⟨fun item sets => ?_, ih _⟩
    obtain ⟨now, operation⟩ := step
    cases sets
    exact congrArg Prod.fst (perform_set now k item t)

/-- Whatever a keyring that synchronizes does, on a table that starts empty: a record
is marked after the wish of the first item that was set under its key since the key
was last removed. Later items succeed in replacing the secret, and their wish is not
heard. -/
theorem markers_follow_first_items {k : Keyring} (syncs : k.synchronizable = true)
    (steps : List (Moment × Operation)) :
    let operations := steps.map Prod.snd
    let ran := serial Table.perform (k.requests steps) []
    (∀ r ∈ ran.2, ∃ key item, r.service = .str k.service ∧ r.account = .str key ∧
      maker? key operations = some item ∧ r.synchronizable = .bool item.allowSync) ∧
    (∀ key item, maker? key operations = some item → ∃ r ∈ ran.2, r.account = .str key) ∧
    ∀ step ∈ steps.zip ran.1, ∀ item, step.1.2 = .set item → step.2 = .ok .done := by
  intro operations ran
  have marked := (Vault.Marked.empty k).serial syncs steps
  have left : ran.2 = (serial Vault.perform (k.requests steps) .empty).2.table :=
    congrArg Prod.snd (Vault.serial_table (k.requests steps) .empty)
  refine ⟨?_, ?_, Table.sets_succeed k steps []⟩
  · intro r member
    rw [left] at member
    obtain ⟨⟨service, key⟩, e, there, rfl⟩ := Vault.mem_table.mp member
    have own : service = k.service := marked.own _ (Vault.mem_places.mpr ⟨e, there⟩)
    subst own
    have marks := marked.marks key
    rw [there] at marks
    obtain ⟨item, made, wish⟩ := Option.map_eq_some_iff.mp marks.symm
    exact ⟨key, item, rfl, rfl, made, congrArg Json.bool wish.symm⟩
  · intro key item made
    have made' : operations.foldl (Operation.maker key) none = some item := made
    have marks := marked.marks key
    rw [made'] at marks
    obtain ⟨e, there, -⟩ := Option.map_eq_some_iff.mp marks
    exact ⟨e.record ⟨k.service, key⟩, left ▸ Vault.mem_table.mpr ⟨_, e, there, rfl⟩, rfl⟩

/-- A key that was removed is made anew by an item that opts out, and a later one that
does not is too late. -/
theorem markers_follow_first_items_removed :
    let k : Keyring := ⟨"s", ⟨.standard, .empty⟩, .zero, true⟩
    let item (allowSync : Bool) : Item := { key := "a", allowSync }
    let operations := [Operation.set (item true), .remove "a", .set (item false), .set (item true)]
    k.synchronizable = true ∧ ∃ r ∈ (serial Table.perform
      (k.requests (operations.map fun operation => (default, operation))) []).2,
      r.account = .str "a" ∧ r.synchronizable = .bool false := by
  intro k item operations
  obtain ⟨marks, made, -⟩ := markers_follow_first_items (k := k) rfl
    (operations.map fun operation => (default, operation))
  obtain ⟨r, member, account⟩ := made "a" (item false) rfl
  obtain ⟨key, maker, -, same, maker_eq, mark⟩ := marks r member
  cases account.symm.trans same
  cases maker_eq
  exact ⟨rfl, r, member, account, mark⟩

/-- An item that opts out and is set over a record, with success, leaves the record
marked. -/
theorem marker_outlives_optOut :
    let k : Keyring := ⟨"s", ⟨.standard, .empty⟩, .zero, true⟩
    let item (allowSync : Bool) : Item := { key := "a", allowSync }
    let ran := serial Table.perform
      (k.requests [(default, .set (item true)), (default, .set (item false))]) []
    ran.1 = [.ok .done, .ok .done] ∧
      ∃ r ∈ ran.2, r.account = .str "a" ∧ r.synchronizable = .bool true :=
  ⟨rfl, _, List.mem_cons_self .., rfl, rfl⟩

end SecretStore
