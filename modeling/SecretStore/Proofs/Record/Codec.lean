import SecretStore.Proofs.Json.Short
import SecretStore.Proofs.Json.Sorted
import SecretStore.Proofs.Text.Base64
import SecretStore.Proofs.Time.Stamp
import SecretStore.Record.Codec

/-!
Records survive JSON. Every field is read by its name, so neither the order of
the fields nor that of the policy's matters. What is read from an object that
was written by other means is a record that survives as well: its dates have
been read, so they can be written down, and its other fields need nothing. In
the text of the object no more than the halves of surrogate pairs are joined.
-/

namespace SecretStore

theorem Constraint.ofJson_nativeName (c : Constraint) :
    Constraint.ofJson? (.str c.nativeName) = some c := by
  cases c <;> decide

theorem Flags.ofJson_bits (flags : Flags) : Flags.ofJson? (.int flags.bits) = some flags := by
  rw [Flags.ofJson?, Flags.ofInt, if_neg (by omega), Int.natAbs_natCast]

theorem Json.mem_of_lookup {name : Text} {value : Json} {fields : List (Text × Json)}
    (found : Json.lookup name fields = some value) : (name, value) ∈ fields := by
  induction fields with
  | nil => cases found
  | cons field rest ih =>
    obtain ⟨n, v⟩ := field
    rw [Json.lookup] at found
    split at found
    · next same =>
      subst same
      cases found
      exact List.mem_cons_self ..
    · exact List.mem_cons_of_mem _ (ih found)

namespace Record

/-- A record whose fields hold values of the kinds that they are meant to hold, and whose
flags have at most 4300 digits. -/
structure WellTyped (r : Record) : Prop where
  service : ∃ s, r.service = .str s
  account : ∃ s, r.account = .str s
  label : ∃ s, r.label = .str s
  description : ∃ s, r.description = .str s
  synchronizable : ∃ b, r.synchronizable = .bool b
  flags : ∀ p ∈ r.policy, Json.isShort p.flags.bits

structure Dated (r : Record) : Prop where
  created_legible : ∀ m ∈ r.created, Stamp.Legible m
  modified_legible : ∀ m ∈ r.modified, Stamp.Legible m

structure Storable (r : Record) : Prop extends r.WellTyped, r.Dated

theorem readPolicy_fields {fields : List (Text × Json)} {p : AccessPolicy}
    (constraint : Json.lookup "protection_constraint" fields = some (.str p.constraint.nativeName))
    (flags : Json.lookup "control_flags" fields = some (.int p.flags.bits)) :
    readPolicy (.obj fields) = .ok (some p) := by
  have first : field "protection_constraint" fields = .ok (.str p.constraint.nativeName) := by
    rw [field, constraint]
  have second : field "control_flags" fields = .ok (.int p.flags.bits) := by
    rw [field, flags]
  rw [readPolicy, first]
  dsimp only [bind, Except.bind]
  simp only [Constraint.ofJson_nativeName, second, Flags.ofJson_bits]
  rfl

theorem readPolicy_policyToJson (p : Option AccessPolicy) :
    readPolicy (policyToJson p) = .ok p := by
  cases p with
  | none => rfl
  | some p => exact readPolicy_fields rfl rfl

theorem readPolicy_sorted (p : Option AccessPolicy) :
    readPolicy (policyToJson p).sorted = .ok p := by
  cases p with
  | none => rfl
  | some p =>
    rw [policyToJson, Json.sorted]
    refine readPolicy_fields ?_ ?_
    · rw [Json.lookup_sortedFields (by simp)]
      rfl
    · rw [Json.lookup_sortedFields (by simp)]
      rfl

theorem readData_encode (data : Bytes) :
    readData (.str (String.ofList (Text.Base64.encode data))) = .ok data := by
  have ascii : (Text.Base64.encode data).all (fun c => decide (c.toNat < 128)) = true := by
    rw [List.all_eq_true]
    intro c member
    exact decide_eq_true (Text.Base64.encode_ascii data c member)
  simp only [readData, Text.shown_ofString, String.toList_ofList, ascii, if_true,
    Text.Base64.decode_encode]

theorem readDate_dateToJson {date : Option Moment} (legible : ∀ m ∈ date, Stamp.Legible m) :
    readDate (dateToJson date) = .ok date := by
  cases date with
  | none => rfl
  | some m => simp only [dateToJson, readDate, Stamp.read_text (legible m rfl)]

theorem field_eq_ok_iff {name : String} {fields : List (Text × Json)} {value : Json} :
    field name fields = .ok value ↔ Json.lookup name fields = some value := by
  rw [field]
  cases Json.lookup name fields with
  | none => simp
  | some found => simp

structure Reads (fields : List (Text × Json)) (r : Record) : Prop where
  policy : readPolicy ((Json.lookup "access_policy" fields).getD .null) = .ok r.policy
  genp : ∃ given, Json.lookup "class" fields = some given ∧ readClass given = .ok ()
  service : Json.lookup "service" fields = some r.service
  account : Json.lookup "account" fields = some r.account
  data : ∃ given, Json.lookup "data" fields = some given ∧ readData given = .ok r.data
  created : readDate ((Json.lookup "created" fields).getD .null) = .ok r.created
  modified : readDate ((Json.lookup "modified" fields).getD .null) = .ok r.modified
  label : r.label = (Json.lookup "label" fields).getD (.str "")
  description : r.description = (Json.lookup "description" fields).getD (.str "")
  synchronizable : r.synchronizable = (Json.lookup "synchronizable" fields).getD (.bool false)

theorem Reads.ofJson {fields : List (Text × Json)} {r : Record} (reads : Reads fields r) :
    ofJson (.obj fields) = .ok r := by
  obtain ⟨given, class_found, class_read⟩ := reads.genp
  obtain ⟨text, data_found, data_read⟩ := reads.data
  rw [Record.ofJson, reads.policy, field_eq_ok_iff.mpr class_found,
    field_eq_ok_iff.mpr reads.service, field_eq_ok_iff.mpr reads.account,
    field_eq_ok_iff.mpr data_found, reads.created, reads.modified]
  dsimp only [bind, Except.bind]
  rw [class_read, data_read, ← reads.label, ← reads.description, ← reads.synchronizable]
  rfl

theorem reads_of_ofJson {j : Json} {r : Record} (read : Record.ofJson j = .ok r) :
    ∃ fields, j = .obj fields ∧ Reads fields r := by
  cases j with
  | obj fields =>
    rw [Record.ofJson] at read
    obtain ⟨policy, policy_read, read⟩ := exists_of_bind read
    obtain ⟨given, class_found, read⟩ := exists_of_bind read
    obtain ⟨_, class_read, read⟩ := exists_of_bind read
    obtain ⟨service, service_found, read⟩ := exists_of_bind read
    obtain ⟨account, account_found, read⟩ := exists_of_bind read
    obtain ⟨text, data_found, read⟩ := exists_of_bind read
    obtain ⟨data, data_read, read⟩ := exists_of_bind read
    obtain ⟨created, created_read, read⟩ := exists_of_bind read
    obtain ⟨modified, modified_read, read⟩ := exists_of_bind read
    cases read
    exact ⟨fields, rfl, policy_read, ⟨given, field_eq_ok_iff.mp class_found, class_read⟩,
      field_eq_ok_iff.mp service_found, field_eq_ok_iff.mp account_found,
      ⟨text, field_eq_ok_iff.mp data_found, data_read⟩, created_read, modified_read, rfl, rfl, rfl⟩
  | _ => cases read

theorem legible_of_readDate {j : Json} {date : Option Moment} (read : readDate j = .ok date) :
    ∀ m ∈ date, Stamp.Legible m := by
  rintro m rfl
  cases j with
  | str text =>
    rw [readDate] at read
    split at read
    · next found =>
      cases read
      exact Stamp.legible_of_read found
    · cases read
  | _ => cases read

theorem dated_of_ofJson {j : Json} {r : Record} (read : Record.ofJson j = .ok r) : r.Dated := by
  obtain ⟨fields, -, reads⟩ := reads_of_ofJson read
  exact ⟨legible_of_readDate reads.created, legible_of_readDate reads.modified⟩

theorem ofJson_of_lookup {r : Record} (dated : r.Dated) {fields : List (Text × Json)}
    {policy : Json} (reads : readPolicy policy = .ok r.policy)
    (same : ∀ name value, Json.lookup name r.fields = some value → name ≠ "access_policy" →
      Json.lookup name fields = some value)
    (policies : Json.lookup "access_policy" fields = some policy) :
    ofJson (.obj fields) = .ok r := by
  have optional {name : Text} {value : Json} (fallback : Json)
      (found : Json.lookup name r.fields = some value) (other : name ≠ "access_policy") :
      (Json.lookup name fields).getD fallback = value := by
    rw [same name value found other, Option.getD_some]
  refine Reads.ofJson {
    policy := ?_
    genp := ⟨_, same "class" _ rfl (by decide), by rw [readClass, if_pos rfl]⟩
    service := same "service" _ rfl (by decide)
    account := same "account" _ rfl (by decide)
    data := ⟨_, same "data" _ rfl (by decide), readData_encode r.data⟩
    created := ?_
    modified := ?_
    label := (optional _ rfl (by decide)).symm
    description := (optional _ rfl (by decide)).symm
    synchronizable := (optional _ rfl (by decide)).symm }
  · rw [policies, Option.getD_some]
    exact reads
  · rw [optional .null rfl (by decide)]
    exact readDate_dateToJson dated.created_legible
  · rw [optional .null rfl (by decide)]
    exact readDate_dateToJson dated.modified_legible

theorem ofJson_toJson {r : Record} (dated : r.Dated) : ofJson r.toJson = .ok r :=
  ofJson_of_lookup dated (readPolicy_policyToJson r.policy) (fun _ _ found _ => found) rfl

theorem distinct_fields (r : Record) : (r.fields.map Prod.fst).Nodup := by
  simp [fields]

theorem sorted_dateToJson (date : Option Moment) : (dateToJson date).sorted = dateToJson date := by
  cases date <;> rfl

theorem sorted_field {r : Record} (typed : r.WellTyped) {name : Text} {value : Json}
    (found : Json.lookup name r.fields = some value) (other : name ≠ "access_policy") :
    value.sorted = value := by
  obtain ⟨service, hservice⟩ := typed.service
  obtain ⟨account, haccount⟩ := typed.account
  obtain ⟨label, hlabel⟩ := typed.label
  obtain ⟨description, hdescription⟩ := typed.description
  obtain ⟨synchronizable, hsynchronizable⟩ := typed.synchronizable
  have member := Json.mem_of_lookup found
  simp only [fields, hservice, haccount, hlabel, hdescription, hsynchronizable, List.mem_cons,
    Prod.mk.injEq, List.not_mem_nil, or_false] at member
  rcases member with ⟨-, rfl⟩ | ⟨-, rfl⟩ | ⟨-, rfl⟩ | ⟨-, rfl⟩ | ⟨-, rfl⟩ | ⟨-, rfl⟩ | ⟨same, -⟩ |
    ⟨-, rfl⟩ | ⟨-, rfl⟩ | ⟨-, rfl⟩
  · rfl
  · rfl
  · rfl
  · rfl
  · rfl
  · rfl
  · exact absurd same other
  · rfl
  · exact sorted_dateToJson r.created
  · exact sorted_dateToJson r.modified

theorem ofJson_sorted {r : Record} (storable : r.Storable) : ofJson r.toJson.sorted = .ok r := by
  refine ofJson_of_lookup storable.toDated (readPolicy_sorted r.policy) ?_ ?_
  · intro name value found other
    rw [Json.lookup_sortedFields (distinct_fields r), found]
    exact congrArg some (sorted_field storable.toWellTyped found other)
  · rw [Json.lookup_sortedFields (distinct_fields r)]
    rfl

theorem isPlain_policyToJson {p : Option AccessPolicy}
    (flags : ∀ policy ∈ p, Json.isShort policy.flags.bits) : (policyToJson p).IsPlain := by
  cases p with
  | none => trivial
  | some policy =>
    have bits : Json.isShort ((policy.flags.bits : Nat) : Int).natAbs := by
      rw [Int.natAbs_natCast]
      exact flags policy rfl
    exact ⟨by simp, Text.unpaired_ofString _, trivial, Text.unpaired_ofString _, bits, trivial⟩

theorem isPlain_dateToJson (date : Option Moment) : (dateToJson date).IsPlain := by
  cases date with
  | none => trivial
  | some m => trivial

theorem isPlain_toJson {r : Record} (typed : r.WellTyped) : r.toJson.IsPlain := by
  obtain ⟨⟨service, hservice⟩, ⟨account, haccount⟩, ⟨label, hlabel⟩,
    ⟨description, hdescription⟩, ⟨synchronizable, hsynchronizable⟩, flags⟩ := typed
  have policy := isPlain_policyToJson flags
  have created := isPlain_dateToJson r.created
  have modified := isPlain_dateToJson r.modified
  refine ⟨distinct_fields r, ?_⟩
  rw [fields, hservice, haccount, hlabel, hdescription, hsynchronizable]
  simp_all [Json.FieldsPlain, Json.IsPlain]

def joined (r : Record) : Record :=
  { r with
    service := r.service.joined
    account := r.account.joined
    label := r.label.joined
    description := r.description.joined
    synchronizable := r.synchronizable.joined }

theorem joined_eq_iff {r : Record} : r.joined = r ↔
    (r.service.joined = r.service ∧ r.account.joined = r.account) ∧
      (r.label.joined = r.label ∧ r.description.joined = r.description) ∧
        r.synchronizable.joined = r.synchronizable := by
  obtain ⟨service, account, label, description, data, policy, synchronizable, created,
    modified⟩ := r
  simp [joined, and_assoc]

theorem joined_str (s : String) : (Json.str s).joined = .str s :=
  congrArg Json.str (Text.joined_of_unpaired (Text.unpaired_ofString s))

theorem joined_policyToJson (p : Option AccessPolicy) :
    (policyToJson p).joined = policyToJson p := by
  cases p with
  | none => rfl
  | some p => simp only [policyToJson, Json.joined, Json.joinedFields,
      Text.joined_of_unpaired (Text.unpaired_ofString _)]

theorem joined_dateToJson (date : Option Moment) : (dateToJson date).joined = dateToJson date := by
  cases date with
  | none => rfl
  | some m => exact joined_str _

theorem joined_toJson (r : Record) : r.toJson.joined = r.joined.toJson := by
  simp only [toJson, fields, Json.joined, Json.joinedFields, joined_policyToJson,
    joined_dateToJson, joined, Text.joined_of_unpaired (Text.unpaired_ofString _)]

theorem joined_of_text {j : Json} (text : ∃ s, j = .str s) : ∃ s, j.joined = .str s := by
  obtain ⟨s, rfl⟩ := text
  exact ⟨s.joined, rfl⟩

theorem WellTyped.joined {r : Record} (typed : r.WellTyped) : r.joined.WellTyped where
  service := joined_of_text typed.service
  account := joined_of_text typed.account
  label := joined_of_text typed.label
  description := joined_of_text typed.description
  synchronizable := by
    obtain ⟨b, same⟩ := typed.synchronizable
    exact ⟨b, congrArg Json.joined same⟩
  flags := typed.flags

theorem WellTyped.joined_joined {r : Record} (typed : r.WellTyped) :
    r.joined.joined = r.joined := by
  have text {j : Json} (text : ∃ s, j = .str s) : j.joined.joined = j.joined := by
    obtain ⟨s, rfl⟩ := text
    exact congrArg Json.str (Text.joined_of_unpaired (Text.unpaired_joined s))
  obtain ⟨b, synchronizable⟩ := typed.synchronizable
  refine joined_eq_iff.mpr ⟨⟨text typed.service, text typed.account⟩,
    ⟨text typed.label, text typed.description⟩, ?_⟩
  rw [Record.joined, synchronizable]
  rfl

theorem Storable.joined {r : Record} (storable : r.Storable) : r.joined.Storable :=
  { storable.toWellTyped.joined with
    created_legible := storable.created_legible
    modified_legible := storable.modified_legible }

end Record

/-- Nothing is lost when a record is written as JSON. It is read back as it was, whatever
its fields, its secret and its policy are, if its dates are ones that some text writes.
What was read from any JSON value is such a record, however the value was written. -/
theorem records_survive_json :
    (∀ r : Record, (∀ m ∈ r.created, ∃ text, Stamp.read text = .ok m) →
      (∀ m ∈ r.modified, ∃ text, Stamp.read text = .ok m) → Record.ofJson r.toJson = .ok r) ∧
    ∀ (raw : Json) (r : Record), Record.ofJson raw = .ok r → Record.ofJson r.toJson = .ok r := by
  constructor
  · intro r created modified
    exact Record.ofJson_toJson {
      created_legible := fun m date => Stamp.legible_iff.mpr (created m date)
      modified_legible := fun m date => Stamp.legible_iff.mpr (modified m date) }
  · intro raw r read
    exact Record.ofJson_toJson (Record.dated_of_ofJson read)

namespace Record

/-- A record with a factor that has no name and with the last date there is, behind
universal time by as much as can be. -/
def remote : Record where
  service := .str "s"
  account := .str "a"
  policy := some ⟨.afterFirstUnlock, ⟨2 ^ 200⟩⟩
  modified := some ⟨⟨9999, 12, 31⟩, ⟨23, 59, 59, 1⟩, some ⟨-86399999999⟩⟩

/-- A record in another hand: fields in another order, one that means nothing, values of
other kinds, base64 with a blank in it, flags below zero, and a date by its week. -/
def foreign : Json :=
  .obj [("note", .null), ("data", .str "YW Jj"), ("class", .str "genp"), ("service", .int 5),
    ("account", .arr []), ("label", .null), ("created", .str "2024-W10-1"),
    ("access_policy", .obj [("control_flags", .int (-2)),
      ("protection_constraint", .str "kSecAttrAccessibleWhenUnlocked")])]

def adopted : Record where
  service := .int 5
  account := .arr []
  label := .null
  data := [97, 98, 99]
  policy := some ⟨.whenUnlocked, ⟨0xfffffffe⟩⟩
  created := some ⟨⟨2024, 3, 4⟩, ⟨0, 0, 0, 0⟩, none⟩

theorem ofJson_foreign : ofJson foreign = .ok adopted := by
  have created : Stamp.read "2024-W10-1" = .ok ⟨⟨2024, 3, 4⟩, ⟨0, 0, 0, 0⟩, none⟩ := by decide
  exact Reads.ofJson {
    policy := rfl
    genp := ⟨_, rfl, by rw [readClass, if_pos rfl]⟩
    service := rfl
    account := rfl
    data := ⟨_, rfl, rfl⟩
    created := by
      change readDate (.str "2024-W10-1") = _
      rw [readDate, created]
      rfl
    modified := rfl
    label := rfl
    description := rfl
    synchronizable := rfl }

end Record

theorem records_survive_json_foreign :
    Record.ofJson Record.remote.toJson = .ok Record.remote ∧
    Record.ofJson Record.foreign = .ok Record.adopted ∧
    Record.ofJson Record.adopted.toJson = .ok Record.adopted := by
  have latest : Stamp.Legible ⟨⟨9999, 12, 31⟩, ⟨23, 59, 59, 1⟩, some ⟨-86399999999⟩⟩ := by
    refine ⟨by decide, ?_⟩
    rintro s ⟨⟩
    exact .inr (by decide)
  refine ⟨records_survive_json.1 Record.remote nofun ?_, Record.ofJson_foreign,
    records_survive_json.2 Record.foreign Record.adopted Record.ofJson_foreign⟩
  rintro m ⟨⟩
  exact Stamp.legible_iff.mp latest

end SecretStore
