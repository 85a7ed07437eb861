import SecretStore.Proofs.Json.Bytes
import SecretStore.Proofs.Record.Short
import SecretStore.Stack
import SecretStore.Store.Document

/-!
Tables survive their documents. A table that a store makes of well typed
records stays storable whatever is asked of it, and the records of the document
of such a table are the table, in its order and with the halves of surrogate
pairs joined.
-/

namespace SecretStore

namespace Json

mutual

theorem isWritable_plain : ∀ (j : Json), j.IsPlain → j.isWritable = true
  | .null, _ | .bool _, _ | .str _, _ => rfl
  | .float _, plain => plain.elim
  | .int _, plain => plain
  | .arr items, plain => areWritable_plain items plain
  | .obj fields, plain => fieldsWritable_plain fields plain.2

theorem areWritable_plain : ∀ (items : List Json), ArePlain items → areWritable items = true
  | [], _ => rfl
  | item :: rest, plain =>
    Bool.and_eq_true_iff.mpr ⟨isWritable_plain item plain.1, areWritable_plain rest plain.2⟩

theorem fieldsWritable_plain : ∀ (fields : List (Text × Json)), FieldsPlain fields →
    fieldsWritable fields = true
  | [], _ => rfl
  | (_, value) :: rest, plain =>
    Bool.and_eq_true_iff.mpr ⟨isWritable_plain value plain.2.1, fieldsWritable_plain rest plain.2.2⟩

end

end Json

namespace Record

theorem WellTyped.depth {r : Record} (typed : r.WellTyped) : r.toJson.depth ≤ 2 := by
  obtain ⟨⟨service, hservice⟩, ⟨account, haccount⟩, ⟨label, hlabel⟩,
    ⟨description, hdescription⟩, ⟨synchronizable, hsynchronizable⟩, -⟩ := typed
  refine depth_toJson_le_iff.mpr ?_
  simp [hservice, haccount, hlabel, hdescription, hsynchronizable, Json.depth]

end Record

namespace Document

theorem arePlain_records {t : Table} (typed : ∀ r ∈ t, r.WellTyped) :
    Json.ArePlain (t.map Record.toJson) := by
  induction t with
  | nil => trivial
  | cons r rest ih =>
    exact ⟨r.isPlain_toJson (typed r (List.mem_cons_self ..)),
      ih fun r' member => typed r' (List.mem_cons_of_mem _ member)⟩

theorem isPlain_toJson {t : Table} (typed : ∀ r ∈ t, r.WellTyped) : (toJson t).IsPlain :=
  ⟨by simp, Text.unpaired_ofString _, rfl, Text.unpaired_ofString _, arePlain_records typed,
    trivial⟩

theorem depth_toJson {t : Table} (typed : ∀ r ∈ t, r.WellTyped) : (toJson t).depth ≤ 4 :=
  depth_toJson_le fun r member => (typed r member).depth

theorem readRecords_sorted {t : Table} (storable : ∀ r ∈ t, r.Storable) :
    readRecords (Json.sortedItems (t.map Record.toJson)) = .ok t := by
  induction t with
  | nil => rfl
  | cons r rest ih =>
    have first := Record.ofJson_sorted (storable r (List.mem_cons_self ..))
    have others := ih fun r' member => storable r' (List.mem_cons_of_mem _ member)
    simp only [List.map_cons, Json.sortedItems, readRecords, first, others]

theorem joined_toJson (t : Table) : (toJson t).joined = toJson (t.map Record.joined) := by
  have records : Json.joinedItems (t.map Record.toJson) =
      (t.map Record.joined).map Record.toJson := by
    induction t with
    | nil => rfl
    | cons r rest ih => exact congrArg₂ List.cons r.joined_toJson ih
  simp only [toJson, Json.joined, Json.joinedFields, records]

theorem decode_encode {t : Table} (storable : ∀ r ∈ t, r.Storable) (levels : Levels) :
    decode levels.count (encode t) = .ok (t.map Record.joined) := by
  have plain := isPlain_toJson fun r member => (storable r member).toWellTyped
  have distinct : (List.map Prod.fst ([("version", .int formatVersion),
      ("records", .arr ((t.map Record.joined).map Record.toJson))] :
        List (Text × Json))).Nodup := by simp
  have fits : (toJson t).sorted.depth ≤ levels.count := by
    rw [Json.depth_sorted]
    exact Nat.le_trans (depth_toJson fun r member => (storable r member).toWellTyped) levels.enough
  have joined : ∀ r ∈ t.map Record.joined, r.Storable := by
    intro r' member
    obtain ⟨r, old, rfl⟩ := List.mem_map.mp member
    exact (storable r old).joined
  have records : ofJson (toJson (t.map Record.joined)).sorted = .ok (t.map Record.joined) := by
    rw [toJson, Json.sorted, ofJson]
    simp only [Json.lookup_sortedFields distinct]
    exact readRecords_sorted joined
  rw [decode, encode, Json.ofBytes_render (Json.isPlain_sorted _ plain) fits]
  simp only [Json.joined_sorted, joined_toJson, records, Except.mapError]

end Document

namespace Table

theorem mem_put {r s : Record} {t : Table} (member : s ∈ put r t) : s = r ∨ s ∈ t := by
  induction t with
  | nil => exact .inl (List.mem_singleton.mp member)
  | cons first rest ih =>
    rw [put] at member
    split at member
    · rcases List.mem_cons.mp member with new | old
      · exact .inl new
      · exact .inr (List.mem_cons_of_mem _ old)
    · rcases List.mem_cons.mp member with same | later
      · exact .inr (same ▸ List.mem_cons_self ..)
      · exact (ih later).imp_right (List.mem_cons_of_mem _)

theorem mem_ofRecords {r : Record} {rs : List Record} (member : r ∈ ofRecords rs) : r ∈ rs := by
  have folded : ∀ t : Table, r ∈ rs.foldl (fun t r => put r t) t → r ∈ t ∨ r ∈ rs := by
    clear member
    induction rs with
    | nil => exact fun t => .inl
    | cons s rest ih =>
      intro t member
      rcases ih _ member with held | later
      · rcases mem_put held with rfl | old
        · exact .inr (List.mem_cons_self ..)
        · exact .inl old
      · exact .inr (List.mem_cons_of_mem _ later)
  exact (folded [] member).resolve_left nofun

theorem put_fresh {t : Table} {r : Record} (fresh : ∀ s ∈ t, s.sameIdentity r = false) :
    put r t = t ++ [r] := by
  induction t with
  | nil => rfl
  | cons s rest ih =>
    rw [put, fresh s (List.mem_cons_self ..),
      ih fun s' member => fresh s' (List.mem_cons_of_mem _ member)]
    rfl

theorem ofRecords_distinct {t : Table}
    (distinct : t.Pairwise fun r s => r.sameIdentity s = false) : ofRecords t = t := by
  have kept (before : Table) :
      (before ++ t).Pairwise (fun r s => r.sameIdentity s = false) →
      t.foldl (fun t r => put r t) before = before ++ t := by
    clear distinct
    intro distinct
    induction t generalizing before with
    | nil => exact (List.append_nil _).symm
    | cons r rest ih =>
      have fresh : ∀ s ∈ before, s.sameIdentity r = false := fun s member =>
        (List.pairwise_append.mp distinct).2.2 s member r (List.mem_cons_self ..)
      rw [List.foldl_cons, put_fresh fresh, ih, List.append_assoc, List.singleton_append]
      rwa [List.append_assoc, List.singleton_append]
  exact kept [] distinct

theorem sameIdentity_iff {r s : Record} (service : ∃ x, s.service = .str x)
    (account : ∃ x, s.account = .str x) :
    r.sameIdentity s = true ↔ r.service = s.service ∧ r.account = s.account := by
  have text {j : Json} {x : Text} : Record.isText x j = true ↔ j = .str x := by
    cases j <;> simp [Record.isText]
  obtain ⟨x, hservice⟩ := service
  obtain ⟨y, haccount⟩ := account
  rw [Record.sameIdentity, hservice, haccount, Record.sameKey_text, Record.sameKey_text,
    Bool.and_eq_true, text, text]

theorem distinct_put {r : Record} (service : ∃ x, r.service = .str x)
    (account : ∃ x, r.account = .str x) {t : Table}
    (distinct : t.Pairwise fun r s => r.sameIdentity s = false) :
    (put r t).Pairwise fun r s => r.sameIdentity s = false := by
  induction t with
  | nil => exact List.pairwise_singleton _ _
  | cons s rest ih =>
    obtain ⟨first, others⟩ := List.pairwise_cons.mp distinct
    rw [put]
    split
    · next same =>
      obtain ⟨services, accounts⟩ := (sameIdentity_iff service account).mp same
      refine List.pairwise_cons.mpr ⟨fun s' member => ?_, others⟩
      rw [← first s' member, Record.sameIdentity, Record.sameIdentity, services, accounts]
    · next apart =>
      refine List.pairwise_cons.mpr ⟨fun s' member => ?_, ih others⟩
      rcases mem_put member with rfl | old
      · exact Bool.eq_false_iff.mpr apart
      · exact first s' old

theorem distinct_ofRecords {rs : List Record}
    (texts : ∀ r ∈ rs, (∃ x, r.service = .str x) ∧ ∃ x, r.account = .str x) :
    (ofRecords rs).Pairwise fun r s => r.sameIdentity s = false := by
  have folded : ∀ t : Table, t.Pairwise (fun r s => r.sameIdentity s = false) →
      (rs.foldl (fun t r => put r t) t).Pairwise fun r s => r.sameIdentity s = false := by
    induction rs with
    | nil => exact fun t distinct => distinct
    | cons r rest ih =>
      rw [List.forall_mem_cons] at texts
      exact fun t distinct => ih texts.2 _ (distinct_put texts.1.1 texts.1.2 distinct)
  exact folded [] .nil

theorem ofRecords_map {f : Record → Record}
    (same : ∀ r s : Record, (f r).sameIdentity (f s) = r.sameIdentity s) (rs : List Record) :
    ofRecords (rs.map f) = (ofRecords rs).map f := by
  have put_map (r : Record) (t : Table) : put (f r) (t.map f) = (put r t).map f := by
    induction t with
    | nil => rfl
    | cons s rest ih =>
      rw [List.map_cons, put, put, same, ih]
      split <;> rfl
  rw [ofRecords, ofRecords, List.foldl_map]
  have folded (t : Table) : rs.foldl (fun t r => put (f r) t) (t.map f) =
      (rs.foldl (fun t r => put r t) t).map f := by
    induction rs generalizing t with
    | nil => rfl
    | cons r rest ih => rw [List.foldl_cons, List.foldl_cons, put_map, ih]
  exact folded []

/-- A table of storable records, one for each service and account. -/
structure Storable (t : Table) : Prop where
  records : ∀ r ∈ t, r.Storable
  distinct : t.Pairwise fun r s => r.sameIdentity s = false

end Table

/-- A change whose new values are of the kinds that they are meant to be, with flags of at
most 4300 digits. -/
def Write.WellTyped : Write → Prop
  | .add r => r.WellTyped
  | .update _ p => ∀ policy ∈ p.policy, Json.isShort policy.flags.bits
  | .delete _ => True

namespace Record

theorem Storable.stamped {r : Record} (typed : r.WellTyped) {now : Moment}
    (legible : Stamp.Legible now) :
    ({ r with created := some now, modified := some now } : Record).Storable where
  toWellTyped := ⟨typed.service, typed.account, typed.label, typed.description,
    typed.synchronizable, typed.flags⟩
  created_legible := by
    rintro m ⟨⟩
    exact legible
  modified_legible := by
    rintro m ⟨⟩
    exact legible

theorem Storable.patched {r : Record} (storable : r.Storable) {p : Patch} {now : Moment}
    (flags : ∀ policy ∈ p.policy, Json.isShort policy.flags.bits) (legible : Stamp.Legible now) :
    (r.patched p now).Storable where
  service := storable.service
  account := storable.account
  label := by
    cases label : p.label with
    | none => simpa [Record.patched, label] using storable.label
    | some s => exact ⟨s, by simp [Record.patched, label]⟩
  description := by
    cases description : p.description with
    | none => simpa [Record.patched, description] using storable.description
    | some s => exact ⟨s, by simp [Record.patched, description]⟩
  synchronizable := storable.synchronizable
  flags := by
    cases policy : p.policy with
    | none => simpa [Record.patched, policy] using storable.flags
    | some new => simpa [Record.patched, policy] using flags
  created_legible := storable.created_legible
  modified_legible := by
    rintro m ⟨⟩
    exact legible

end Record

namespace Table

variable {t : Table}

theorem Storable.empty : Storable [] :=
  ⟨nofun, .nil⟩

theorem Storable.append (storable : t.Storable) {r : Record} (kept : r.Storable)
    (fresh : t.holds r = false) : Storable (t ++ [r]) where
  records := by
    intro s member
    rcases List.mem_append.mp member with old | new
    · exact storable.records s old
    · rw [List.mem_singleton.mp new]
      exact kept
  distinct := by
    refine List.pairwise_append.mpr ⟨storable.distinct, List.pairwise_singleton _ _, ?_⟩
    intro s member r' new
    rw [List.mem_singleton.mp new]
    exact Bool.eq_false_iff.mpr (List.any_eq_false.mp fresh s member)

theorem Storable.map (storable : t.Storable) {f : Record → Record}
    (kept : ∀ r ∈ t, (f r).Storable)
    (same : ∀ r s : Record, (f r).sameIdentity (f s) = r.sameIdentity s) : Storable (t.map f) where
  records := by
    intro s member
    obtain ⟨r, old, rfl⟩ := List.mem_map.mp member
    exact kept r old
  distinct := by
    refine List.pairwise_map.mpr (storable.distinct.imp fun {r s} apart => ?_)
    rw [same, apart]

theorem Storable.filter (storable : t.Storable) (p : Record → Bool) : Storable (t.filter p) :=
  ⟨fun r member => storable.records r (List.mem_filter.mp member).1, storable.distinct.filter _⟩

def reread (t : Table) : Table :=
  ofRecords (t.map Record.joined)

theorem Storable.reread (storable : t.Storable) : t.reread.Storable := by
  have joined : ∀ r ∈ t.map Record.joined, r.Storable := by
    intro r' member
    obtain ⟨r, old, rfl⟩ := List.mem_map.mp member
    exact (storable.records r old).joined
  exact ⟨fun r member => joined r (mem_ofRecords member),
    distinct_ofRecords fun r member => ⟨(joined r member).service, (joined r member).account⟩⟩

theorem Storable.write {t' : Table} (storable : t.Storable) {c : Write} (typed : c.WellTyped)
    {now : Moment} (legible : Stamp.Legible now) (changed : t.write now c = .ok t') :
    t'.Storable := by
  cases c with
  | add r =>
    rw [Table.write] at changed
    split at changed
    · cases changed
    · next absent =>
      cases changed
      exact storable.append (.stamped typed legible) (Bool.eq_false_iff.mpr absent)
  | update q p =>
    rw [Table.write] at changed
    split at changed
    · cases changed
      refine storable.map (fun r member => ?_) (fun r s => ?_)
      · split
        · exact (storable.records r member).patched typed legible
        · exact storable.records r member
      · split <;> split <;> rfl
    · cases changed
  | delete q =>
    rw [Table.write] at changed
    split at changed
    · cases changed
      exact storable.filter _
    · cases changed

/-- A storable table in whose texts there is nothing to join. -/
structure Lasting (t : Table) : Prop extends t.Storable where
  joined : ∀ r ∈ t, r.joined = r

theorem Lasting.reread_eq (lasting : t.Lasting) : t.reread = t := by
  rw [reread, List.map_congr_left lasting.joined, List.map_id',
    ofRecords_distinct lasting.distinct]

theorem Lasting.empty : Lasting [] :=
  ⟨.empty, nofun⟩

end Table

end SecretStore
