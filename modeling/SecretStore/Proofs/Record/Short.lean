import SecretStore.Proofs.Record.Codec
import SecretStore.Store.Document

/-!
Records that were read can be written. The flags of a policy are no longer than
the number that they were read from, and the other fields are kept as they are,
so what is written also nests no deeper than what was read.
-/

namespace SecretStore

namespace Json

theorem isWithin_of_lookup {levels : Nat} {name : Text} {value : Json} :
    ∀ {fields : List (Text × Json)}, FieldsWithin levels fields →
      lookup name fields = some value → value.IsWithin levels
  | (n, v) :: rest, all, found => by
    obtain ⟨first, others⟩ := fieldsWithin_cons.mp all
    rw [lookup] at found
    split at found
    · cases found
      exact first
    · exact isWithin_of_lookup others found

theorem itemsWithin_iff {levels : Nat} {items : List Json} :
    ItemsWithin levels items ↔ ∀ item ∈ items, item.IsWithin levels := by
  induction items with
  | nil => simp [ItemsWithin, areWritable, itemsDepth]
  | cons item rest ih =>
    rw [List.forall_mem_cons, ← ih]
    simp only [ItemsWithin, IsWithin, areWritable, itemsDepth, Bool.and_eq_true, Nat.max_le]
    tauto

theorem fieldsWithin_of_obj {levels : Nat} {fields : List (Text × Json)}
    (within : (obj fields).IsWithin (levels + 1)) : FieldsWithin levels fields :=
  ⟨within.1, Nat.le_of_succ_le_succ within.2⟩

theorem IsWithin.mono {levels more : Nat} {j : Json} (within : j.IsWithin levels)
    (le : levels ≤ more) : j.IsWithin more :=
  ⟨within.1, Nat.le_trans within.2 le⟩

end Json

namespace Flags

theorem bits_ofInt_le (n : Int) : (ofInt n).bits ≤ max n.natAbs 0x100000000 := by
  rw [ofInt]
  split
  · dsimp only
    split
    · exact Nat.le_trans (Nat.sub_le _ _) (Nat.le_max_right _ _)
    · next large =>
      -- the power of two past a magnitude is at most twice the magnitude
      have power : 2 ^ Nat.log2 n.natAbs ≤ n.natAbs := Nat.log2_self_le (by omega)
      have double : 1 <<< (Nat.log2 n.natAbs + 1) = 2 * 2 ^ Nat.log2 n.natAbs := by
        rw [Nat.one_shiftLeft, Nat.pow_succ']
      rw [double]
      omega
  · exact Nat.le_max_left _ _

theorem isShort_ofJson {j : Json} {flags : Flags} (writes : j.isWritable = true)
    (read : ofJson? j = some flags) : Json.isShort flags.bits = true := by
  cases j with
  | int n =>
    cases read
    have wide : Json.isShort 0x100000000 = true := by decide
    rcases Nat.le_total n.natAbs 0x100000000 with small | large
    · exact Json.isShort_of_le wide ((bits_ofInt_le n).trans (Nat.max_le.mpr ⟨small, le_rfl⟩))
    · exact Json.isShort_of_le writes ((bits_ofInt_le n).trans (Nat.max_le.mpr ⟨le_rfl, large⟩))
  | bool b =>
    cases read
    cases b <;> decide
  | float x =>
    obtain ⟨n, found, rfl⟩ := Option.map_eq_some_iff.mp read
    have all : named.all Json.isShort = true := by decide
    exact List.all_eq_true.mp all n (List.mem_of_find?_eq_some found)
  | _ => cases read

end Flags

namespace Record

theorem isWritable_policyToJson (p : Option AccessPolicy) :
    (policyToJson p).isWritable = p.all fun p => Json.isShort p.flags.bits := by
  cases p with
  | none => rfl
  | some p => simp [policyToJson, Json.isWritable, Json.fieldsWritable]

theorem isWritable_dateToJson (date : Option Moment) : (dateToJson date).isWritable = true := by
  cases date <;> rfl

theorem isWritable_toJson (r : Record) : r.toJson.isWritable =
    (r.service.isWritable && (r.account.isWritable && (r.label.isWritable &&
      (r.description.isWritable && (r.policy.all (fun p => Json.isShort p.flags.bits) &&
        r.synchronizable.isWritable))))) := by
  simp [toJson, fields, Json.isWritable, Json.fieldsWritable, isWritable_policyToJson,
    isWritable_dateToJson]

theorem depth_policyToJson (p : Option AccessPolicy) : (policyToJson p).depth ≤ 1 := by
  cases p with
  | none => exact Nat.zero_le _
  | some p => exact Nat.le_refl _

theorem depth_dateToJson (date : Option Moment) : (dateToJson date).depth = 0 := by
  cases date <;> rfl

/-- A record opens an object; in it, the policy opens another, and so may the other fields. -/
theorem depth_toJson_le_iff {r : Record} {levels : Nat} : r.toJson.depth ≤ levels + 2 ↔
    r.service.depth ≤ levels + 1 ∧ r.account.depth ≤ levels + 1 ∧ r.label.depth ≤ levels + 1 ∧
      r.description.depth ≤ levels + 1 ∧ r.synchronizable.depth ≤ levels + 1 := by
  have policy := depth_policyToJson r.policy
  rw [toJson, fields]
  simp only [Json.depth, Json.fieldsDepth, depth_dateToJson]
  omega

theorem isWithin_toJson {r : Record} {levels : Nat} : r.toJson.IsWithin (levels + 2) ↔
    r.service.IsWithin (levels + 1) ∧ r.account.IsWithin (levels + 1) ∧
      r.label.IsWithin (levels + 1) ∧ r.description.IsWithin (levels + 1) ∧
      r.synchronizable.IsWithin (levels + 1) ∧
      (r.policy.all fun p => Json.isShort p.flags.bits) = true := by
  simp only [Json.IsWithin, isWritable_toJson, depth_toJson_le_iff, Bool.and_eq_true]
  tauto

theorem isWithin_patched {r : Record} {p : Patch} {levels : Nat}
    (within : r.toJson.IsWithin (levels + 2)) (keeps : p.policy = none) (now : Moment) :
    (r.patched p now).toJson.IsWithin (levels + 2) := by
  have text (given : Option Text) {old : Json} (plain : old.IsWithin (levels + 1)) :
      ((given.map Json.str).getD old).IsWithin (levels + 1) := by
    cases given with
    | none => exact plain
    | some s => exact ⟨rfl, Nat.zero_le _⟩
  obtain ⟨service, account, label, description, synchronizable, policy⟩ :=
    isWithin_toJson.mp within
  refine isWithin_toJson.mpr
    ⟨service, account, text p.label label, text p.description description, synchronizable, ?_⟩
  rw [patched, keeps]
  exact policy

theorem isShort_readPolicy {levels : Nat} {j : Json} {p : Option AccessPolicy}
    (within : j.IsWithin levels) (read : readPolicy j = .ok p) :
    (p.all fun p => Json.isShort p.flags.bits) = true := by
  cases j with
  | null =>
    cases read
    rfl
  | obj fields =>
    have inside : Json.FieldsWithin levels fields :=
      ⟨within.1, Nat.le_trans (Nat.le_succ _) within.2⟩
    obtain ⟨constraint, -, read⟩ := exists_of_bind read
    split at read
    · cases read
    · obtain ⟨flags, found, read⟩ := exists_of_bind read
      split at read
      · cases read
      · next there =>
        cases read
        exact Flags.isShort_ofJson
          (Json.isWithin_of_lookup inside (field_eq_ok_iff.mp found)).1 there
  | _ => cases read

theorem isWithin_ofJson {levels : Nat} {j : Json} {r : Record} (within : j.IsWithin (levels + 2))
    (read : ofJson j = .ok r) : r.toJson.IsWithin (levels + 2) := by
  obtain ⟨fields, rfl, reads⟩ := reads_of_ofJson read
  have inside := Json.fieldsWithin_of_obj within
  have optional (name : Text) {fallback : Json} (plain : fallback.IsWithin (levels + 1)) :
      ((Json.lookup name fields).getD fallback).IsWithin (levels + 1) := by
    cases found : Json.lookup name fields with
    | none => exact plain
    | some value => exact Json.isWithin_of_lookup inside found
  rw [isWithin_toJson, reads.label, reads.description, reads.synchronizable]
  exact ⟨Json.isWithin_of_lookup inside reads.service, Json.isWithin_of_lookup inside reads.account,
    optional "label" ⟨rfl, Nat.zero_le _⟩, optional "description" ⟨rfl, Nat.zero_le _⟩,
    optional "synchronizable" ⟨rfl, Nat.zero_le _⟩,
    isShort_readPolicy (optional "access_policy" ⟨rfl, Nat.zero_le _⟩) reads.policy⟩

end Record

namespace Document

theorem isWritable_toJson (t : Table) :
    (toJson t).isWritable = t.all fun r => r.toJson.isWritable := by
  have version : Json.isShort formatVersion.natAbs = true := by decide
  have records : Json.areWritable (t.map Record.toJson) = t.all fun r => r.toJson.isWritable := by
    induction t with
    | nil => rfl
    | cons r rest ih => rw [List.map_cons, Json.areWritable, ih, List.all_cons]
  simp [toJson, Json.isWritable, Json.fieldsWritable, records, version]

theorem depth_toJson_le {t : Table} {levels : Nat} (each : ∀ r ∈ t, r.toJson.depth ≤ levels) :
    (toJson t).depth ≤ levels + 2 := by
  have records : Json.itemsDepth (t.map Record.toJson) ≤ levels := by
    induction t with
    | nil => exact Nat.zero_le _
    | cons r rest ih =>
      rw [List.forall_mem_cons] at each
      exact Nat.max_le.mpr ⟨each.1, ih each.2⟩
  simp only [toJson, Json.depth, Json.fieldsDepth]
  omega

theorem isWithin_members {levels : Nat} {j : Json} {items : List Json}
    (within : j.IsWithin (levels + 1)) (read : members j = .ok items) :
    ∀ item ∈ items, item.IsWithin levels := by
  cases j with
  | arr others =>
    cases read
    exact Json.itemsWithin_iff.mp ⟨within.1, Nat.le_of_succ_le_succ within.2⟩
  | obj fields =>
    cases read
    intro item member
    obtain ⟨field, -, rfl⟩ := List.mem_map.mp member
    exact ⟨rfl, Nat.zero_le _⟩
  | str text =>
    cases read
    intro item member
    obtain ⟨c, -, rfl⟩ := List.mem_map.mp member
    exact ⟨rfl, Nat.zero_le _⟩
  | _ => cases read

theorem isWithin_readRecords {levels : Nat} {items : List Json} {rs : List Record}
    (within : ∀ item ∈ items, item.IsWithin (levels + 2)) (read : readRecords items = .ok rs) :
    ∀ r ∈ rs, r.toJson.IsWithin (levels + 2) := by
  induction items generalizing rs with
  | nil =>
    cases read
    nofun
  | cons item rest ih =>
    rw [List.forall_mem_cons] at within
    rw [readRecords] at read
    split at read
    · cases read
    · next r first =>
      split at read
      · cases read
      · next others inner =>
        cases read
        rw [List.forall_mem_cons]
        exact ⟨Record.isWithin_ofJson within.1 first, ih within.2 inner⟩

theorem isWithin_decode {levels : Nat} {bs : Bytes} {rs : List Record}
    (read : decode (levels + 4) bs = .ok rs) : ∀ r ∈ rs, r.toJson.IsWithin (levels + 2) := by
  rw [decode] at read
  split at read
  · cases read
  · cases read
  · next j whole =>
    have within := Json.isWithin_ofBytes whole
    cases records_read : ofJson j with
    | error why => simp [records_read, Except.mapError] at read
    | ok records =>
      simp only [records_read, Except.mapError, Except.ok.injEq] at read
      subst read
      cases j with
      | obj fields =>
        have records : ((Json.lookup "records" fields).getD (.arr [])).IsWithin (levels + 3) := by
          cases found : Json.lookup "records" fields with
          | none => exact ⟨rfl, Nat.succ_le_succ (Nat.zero_le _)⟩
          | some value => exact Json.isWithin_of_lookup (Json.fieldsWithin_of_obj within) found
        rw [ofJson] at records_read
        split at records_read
        · cases records_read
        · next items inner =>
          exact isWithin_readRecords (isWithin_members records inner) records_read
      | _ => cases records_read

end Document

end SecretStore
