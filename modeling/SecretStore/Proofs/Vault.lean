import SecretStore.Proofs.Keyring.Operation

/-!
The abstract store of keyrings: one entry for each service and key, in the
order in which the entries were made. It knows no queries and no records; a
request is a look at one place, one change there, or a list of keys. A vault
is the contents of exactly one table.
-/

namespace SecretStore

@[ext] structure Place where
  service : Text
  key : Text
deriving DecidableEq, Repr

theorem Place.ne_of_key (service : Text) {key other : Text} (apart : key ≠ other) :
    Place.mk service other ≠ ⟨service, key⟩ :=
  fun same => apart (congrArg Place.key same).symm

structure Entry where
  data : Bytes
  label : Text
  description : Text
  policy : AccessPolicy
  synchronizable : Bool
  created : Moment
  modified : Moment
deriving DecidableEq, Repr

/-- An entry with a new secret; its words, its policy and its first date stay. -/
def Entry.rewritten (e : Entry) (data : Bytes) (now : Moment) : Entry :=
  { e with data, modified := now }

def Entry.ofItem (k : Keyring) (item : Item) (now : Moment) : Entry :=
  ⟨item.data, item.label, item.description, k.policy, k.synchronizable && item.allowSync, now, now⟩

structure Vault where
  entries : List (Place × Entry)
  distinct : (entries.map Prod.fst).Nodup

namespace Vault

def empty : Vault := ⟨[], .nil⟩

def places (v : Vault) : List Place :=
  v.entries.map Prod.fst

def find? (v : Vault) (p : Place) : Option Entry :=
  v.entries.lookup p

def modify (v : Vault) (p : Place) (f : Entry → Entry) : Vault where
  entries := v.entries.map fun e => if e.1 = p then (e.1, f e.2) else e
  distinct := by
    have same : (v.entries.map fun e => if e.1 = p then (e.1, f e.2) else e).map Prod.fst =
        v.entries.map Prod.fst := by
      rw [List.map_map]
      refine List.map_congr_left fun e _ => ?_
      by_cases h : e.1 = p <;> simp [h]
    rw [same]
    exact v.distinct

def append (v : Vault) (p : Place) (e : Entry) (absent : p ∉ v.places) : Vault where
  entries := v.entries ++ [(p, e)]
  distinct := by
    rw [List.map_append, List.nodup_append]
    refine ⟨v.distinct, by simp, ?_⟩
    rintro a ha b hb rfl
    simp only [List.map_cons, List.map_nil, List.mem_singleton] at hb
    exact absent (hb ▸ ha)

def erase (v : Vault) (p : Place) : Vault where
  entries := v.entries.filter fun e => e.1 ≠ p
  distinct := v.distinct.sublist (List.filter_sublist.map _)

def keysOf (v : Vault) (service : Text) : List Text :=
  (v.places.filter fun p => p.service = service).map Place.key

/-- Appends an entry for the item, or replaces the secret and the second date
of the one that is there. -/
def set (v : Vault) (k : Keyring) (item : Item) (now : Moment) : Vault :=
  let p : Place := ⟨k.service, item.key⟩
  if absent : p ∉ v.places then v.append p (.ofItem k item now) absent
  else v.modify p fun e => e.rewritten item.data now

def perform (now : Moment) (r : Request) (v : Vault) : Outcome × Vault :=
  let k := r.keyring
  let missing (key : Text) : Outcome := .error (.keyNotFound k.service key)
  match r.operation with
  | .get key => match v.find? ⟨k.service, key⟩ with
    | none => (missing key, v)
    | some e => (.ok (.item ⟨key, e.data, e.label, e.description, true⟩), v)
  | .metadata key => match v.find? ⟨k.service, key⟩ with
    | none => (missing key, v)
    | some e =>
      (.ok (.metadata ⟨⟨key, [], e.label, e.description, true⟩, some e.modified⟩), v)
  | .set item => (.ok .done, v.set k item now)
  | .remove key => match v.find? ⟨k.service, key⟩ with
    | none => (missing key, v)
    | some _ => (.ok .done, v.erase ⟨k.service, key⟩)
  | .keys => (.ok (.keys ((v.keysOf k.service).map .str)), v)

theorem find?_eq_none {v : Vault} {p : Place} : v.find? p = none ↔ p ∉ v.places := by
  rw [find?, places, List.lookup_eq_none_iff, List.mem_map]
  constructor
  · rintro h ⟨e, he, rfl⟩
    simpa using h e he
  · intro h e he
    have other : p ≠ e.1 := fun same => h ⟨e, he, same.symm⟩
    simpa using other

theorem mem_places {v : Vault} {p : Place} : p ∈ v.places ↔ ∃ e, v.find? p = some e := by
  rw [← Option.ne_none_iff_exists', Ne, find?_eq_none, Decidable.not_not]

theorem set_absent {v : Vault} {k : Keyring} {item : Item} (now : Moment)
    (absent : ⟨k.service, item.key⟩ ∉ v.places) :
    v.set k item now = v.append ⟨k.service, item.key⟩ (.ofItem k item now) absent :=
  dif_pos absent

theorem set_present {v : Vault} {k : Keyring} {item : Item} {e : Entry} (now : Moment)
    (present : v.find? ⟨k.service, item.key⟩ = some e) :
    v.set k item now = v.modify ⟨k.service, item.key⟩ fun e => e.rewritten item.data now :=
  dif_neg (Decidable.not_not.mpr (mem_places.mpr ⟨e, present⟩))

section Changed

variable {v : Vault} {p other : Place} {service : Text}

theorem find?_append {e : Entry} (absent : p ∉ v.places) (other : Place) :
    (v.append p e absent).find? other = if other = p then some e else v.find? other := by
  simp only [find?, append, List.lookup_append]
  by_cases same : other = p
  · have none_there : v.entries.lookup p = none := find?_eq_none.mpr absent
    simp [same, none_there]
  · have differ : (other == p) = false := by simpa using same
    simp [same, differ, List.lookup_cons]

theorem find?_modify (v : Vault) (p : Place) (f : Entry → Entry) (other : Place) :
    (v.modify p f).find? other = if other = p then (v.find? p).map f else v.find? other := by
  simp only [find?, modify]
  induction v.entries with
  | nil => simp
  | cons first rest ih =>
    obtain ⟨q, e⟩ := first
    rw [List.map_cons]
    by_cases here : q = p <;> by_cases there : other = q
    · subst here there
      simp
    · subst here
      have differ : (other == q) = false := by simpa using there
      rw [if_pos rfl, List.lookup_cons, differ, ih, if_neg there, if_neg there, List.lookup_cons,
        differ]
    · subst there
      simp [here]
    · have differ : (other == q) = false := by simpa using there
      have apart : (p == q) = false := by simpa using Ne.symm here
      rw [if_neg here, List.lookup_cons, differ, ih, List.lookup_cons, List.lookup_cons, differ,
        apart]

theorem find?_erase (v : Vault) (p other : Place) :
    (v.erase p).find? other = if other = p then none else v.find? other := by
  simp only [find?, erase]
  induction v.entries with
  | nil => simp
  | cons first rest ih =>
    obtain ⟨q, e⟩ := first
    by_cases here : q = p
    · subst here
      rw [List.filter_cons_of_neg (by simp), ih]
      by_cases same : other = q
      · rw [if_pos same, if_pos same]
      · have differ : (other == q) = false := by simpa using same
        rw [if_neg same, if_neg same, List.lookup_cons, differ]
    · rw [List.filter_cons_of_pos (by simpa using here), List.lookup_cons, List.lookup_cons, ih]
      by_cases there : other = q
      · subst there
        simp [here]
      · have differ : (other == q) = false := by simpa using there
        rw [differ]

theorem places_modify (v : Vault) (p : Place) (f : Entry → Entry) :
    (v.modify p f).places = v.places := by
  rw [places, places, modify, List.map_map]
  refine List.map_congr_left fun e _ => ?_
  by_cases h : e.1 = p <;> simp [h]

theorem mem_keysOf {key : Text} : key ∈ v.keysOf service ↔ ⟨service, key⟩ ∈ v.places := by
  rw [keysOf, List.mem_map]
  constructor
  · rintro ⟨⟨_, _⟩, member, rfl⟩
    obtain ⟨there, same⟩ := List.mem_filter.mp member
    cases of_decide_eq_true same
    exact there
  · exact fun there => ⟨_, List.mem_filter.mpr ⟨there, decide_eq_true rfl⟩, rfl⟩

theorem keysOf_append {key : Text} {e : Entry} (absent : ⟨service, key⟩ ∉ v.places) :
    (v.append ⟨service, key⟩ e absent).keysOf service = v.keysOf service ++ [key] := by
  simp [keysOf, places, append]

theorem keysOf_modify (v : Vault) (p : Place) (f : Entry → Entry) (service : Text) :
    (v.modify p f).keysOf service = v.keysOf service := by
  rw [keysOf, places_modify, keysOf]

theorem keysOf_erase (v : Vault) (service key : Text) :
    (v.erase ⟨service, key⟩).keysOf service = (v.keysOf service).filter (· ≠ key) := by
  have left : (v.erase ⟨service, key⟩).places = v.places.filter (· ≠ ⟨service, key⟩) := by
    rw [places, erase, places, List.filter_map]
    rfl
  rw [keysOf, left, keysOf, List.filter_map, List.filter_filter, List.filter_filter]
  congr 1
  refine List.filter_congr fun p _ => ?_
  rw [Bool.eq_iff_iff]
  simp only [Function.comp_apply, Bool.and_eq_true, decide_eq_true_eq, ne_eq, Place.ext_iff]
  constructor
  · exact fun ⟨same, apart⟩ => ⟨fun named => apart ⟨same, named⟩, same⟩
  · exact fun ⟨apart, same⟩ => ⟨same, fun both => apart both.2⟩

end Changed

end Vault

end SecretStore
