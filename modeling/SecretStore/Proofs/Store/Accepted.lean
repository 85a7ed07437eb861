import SecretStore.Proofs.Keyring.Verdict
import SecretStore.Proofs.Store.Keeper

/-!
Requests on a file that is read as a table. Its records may hold anything in the
fields that are no keys. All of it can be written again, and nests no deeper than
what was read, so a request is broken off by flags that are too long, and by
nothing else. What a record holds in the place
of words matters only to a request that looks the record up.
-/

namespace SecretStore

namespace Table

def first? (t : Table) (service key : Text) : Option Record :=
  t.find? fun r => r.meets { service, account := some key }

theorem query_one {t : Table} {q : Query} (one : q.limit = .one) :
    t.query q = match t.find? (fun r => r.meets q) with
      | none => .error (notFound q)
      | some r => .ok [r.project q] := by
  rw [query, found, one, ← List.head?_filter]
  cases t.filter fun r => r.meets q <;> rfl

theorem write_unwritable_iff {t t' : Table} {c : Write} {now : Moment} {levels : Nat}
    (within : ∀ r ∈ t, r.toJson.IsWithin (levels + 2)) (new : c.Textual)
    (changed : t.write now c = .ok t') :
    (Document.toJson t').isWritable = false ↔
      ∃ r, c = .add r ∧ (r.policy.all fun p => Json.isShort p.flags.bits) = false := by
  have still (kept : ∀ r ∈ t', r.toJson.isWritable = true) :
      (Document.toJson t').isWritable = true := by
    rw [Document.isWritable_toJson]
    exact List.all_eq_true.mpr kept
  cases c with
  | add r =>
    rw [write] at changed
    split at changed
    · cases changed
    · cases changed
      have all : (t.all fun r => r.toJson.isWritable) = true :=
        List.all_eq_true.mpr fun r member => (within r member).1
      have stamped : ({ r with created := some now, modified := some now } : Record).Textual :=
        ⟨new.service, new.account, new.label, new.description, new.synchronizable⟩
      rw [Document.isWritable_toJson, List.all_append, all, Bool.true_and, List.all_cons,
        stamped.isWritable_toJson]
      simp
  | update q p =>
    rw [write] at changed
    split at changed
    · cases changed
      have kept := still fun s member => by
        obtain ⟨r, old, rfl⟩ := List.mem_map.mp member
        split
        · exact (Record.isWithin_patched (within r old) new now).1
        · exact (within r old).1
      simp [kept]
    · cases changed
  | delete q =>
    rw [write] at changed
    split at changed
    · cases changed
      have kept := still fun s member => (within s (List.mem_filter.mp member).1).1
      simp [kept]
    · cases changed

theorem depth_write {t t' : Table} {c : Write} {now : Moment} {levels : Nat}
    (within : ∀ r ∈ t, r.toJson.IsWithin (levels + 2)) (new : c.Textual)
    (changed : t.write now c = .ok t') : (Document.toJson t').depth ≤ levels + 4 := by
  refine Document.depth_toJson_le fun s member => ?_
  cases c with
  | add r =>
    rw [write] at changed
    split at changed
    · cases changed
    · cases changed
      rcases List.mem_append.mp member with old | added
      · exact (within s old).2
      · rw [List.mem_singleton.mp added]
        obtain ⟨⟨_, service⟩, ⟨_, account⟩, ⟨_, label⟩, ⟨_, description⟩, _, synchronizable⟩ := new
        refine Record.depth_toJson_le_iff.mpr ?_
        simp [service, account, label, description, synchronizable, Json.depth]
  | update q p =>
    rw [write] at changed
    split at changed
    · cases changed
      obtain ⟨r, old, rfl⟩ := List.mem_map.mp member
      split
      · exact (Record.isWithin_patched (within r old) new now).2
      · exact (within r old).2
    · cases changed
  | delete q =>
    rw [write] at changed
    split at changed
    · cases changed
      exact (within s (List.mem_filter.mp member).1).2
    · cases changed

end Table

/-- A record would be added whose flags are too long to be written. -/
def Request.Overflows (r : Request) (t : Table) : Prop :=
  ∃ item, r.operation = .set item ∧ t.hasKey r.keyring.service item.key = false ∧
    Json.isShort r.keyring.policy.flags.bits = false

namespace SealedFile

variable {s : SealedFile} {w : World} {t : Table}

theorem isWithin_load {files : FileTree} (loads : s.load files = .ok t) :
    ∃ levels, s.levels.count = levels + 4 ∧ ∀ r ∈ t, r.toJson.IsWithin (levels + 2) := by
  obtain ⟨levels, room⟩ := Nat.exists_eq_add_of_le' s.levels.enough
  refine ⟨levels, room, ?_⟩
  rw [load] at loads
  split at loads
  · cases loads
  · cases loads
    exact List.forall_mem_nil _
  · split at loads
    · cases loads
    · split at loads
      · cases loads
      · split at loads
        · cases loads
        · cases loads
        · next reads =>
          split at loads
          · cases loads
          · cases loads
            rw [room] at reads
            exact fun r member => Document.isWithin_decode reads r (Table.mem_ofRecords member)

/-- The document of a table that a request leaves nests no deeper than there was room for
when the file was read: writing it cannot exhaust the stack. -/
theorem depth_changes {r : Request} {c : Write} (asks : r.Asks c) {t' : Table}
    (changes : s.Changes w c t') : (Document.toJson t').depth ≤ s.levels.count := by
  obtain ⟨t, loads, changed⟩ := changes
  obtain ⟨levels, room, within⟩ := isWithin_load loads
  rw [room]
  exact Table.depth_write within asks.textual changed

theorem query_loaded (loads : s.load w.files = .ok t) (q : Query) :
    s.query w.files q = (t.query q).mapError .reported := by
  simp only [query, loads]
  cases t.query q <;> rfl

theorem write_crashed_loaded {token : Bytes} (there : w.files.look s.path = .ok (.file token))
    (loads : s.load w.files = .ok t) {c : Write} {why : Crash} :
    (s.write w c).1 = .error (.crashed why) ↔ why = .tooManyDigits ∧
      ∃ t', t.write w.now c = .ok t' ∧ (Document.toJson t').isWritable = false := by
  have fit (why : FileReason) : s.path.unfit? ≠ some why := by
    intro unfit
    rw [w.files.look_unfit unfit] at there
    cases there
  have same {t' : Table} : s.Changes w c t' ↔ t.write w.now c = .ok t' := by
    simp only [Changes, loads, Except.ok.injEq, exists_eq_left']
  rw [write_crashed_iff]
  constructor
  · intro crash
    cases crash with
    | load reading =>
      rw [load_crashed_iff.mpr reading] at loads
      cases loads
    | tooManyDigits changes long => exact ⟨rfl, _, same.mp changes, long⟩
    | unfitAbove changes fits unfit =>
      rw [FilePath.unfit?_parent (Option.eq_none_iff_forall_ne_some.mpr fit)] at unfit
      cases unfit
    | unfit changes fits made unfit => exact absurd unfit (fit _)
  · rintro ⟨rfl, t', changed, long⟩
    exact .tooManyDigits (same.mpr changed) long

theorem write_crashed_asked {token : Bytes} (there : w.files.look s.path = .ok (.file token))
    (loads : s.load w.files = .ok t) {r : Request} {c : Write} (asks : r.Asks c) {why : Crash}
    (crashed : (s.write w c).1 = .error (.crashed why)) : why = .tooManyDigits ∧ r.Overflows t := by
  obtain ⟨rfl, t', changed, long⟩ := (write_crashed_loaded there loads).mp crashed
  obtain ⟨levels, -, within⟩ := isWithin_load loads
  obtain ⟨record, rfl, flags⟩ :=
    (Table.write_unwritable_iff within asks.textual changed).mp long
  cases asks with
  | add k item =>
    cases present : t.hasKey k.service item.key with
    | true =>
      rw [Table.write_add_present _ present] at changed
      cases changed
    | false => exact ⟨rfl, item, rfl, present, flags⟩

theorem write_unsettled {c : Write} {e : NativeError} {entries : List LogEntry} {w' : World}
    (loads : s.load w.files = .ok t) (failed : s.write w c = (.error (.reported e), entries, w'))
    (unsettled : e.kind ≠ .other) : w' = w := by
  simp only [write, loads] at failed
  split at failed
  · cases failed
    rfl
  · split at failed
    · next committed =>
      cases failed
      exact absurd (final_commit (congrArg Prod.fst committed) e rfl) unsettled
    · cases failed

end SealedFile

namespace Script

variable {α β : Type} {s : SealedFile} {w : World} {t : Table}

theorem runSealed_mapResult (f : Except KeyringError α → Except KeyringError β) (script : Script α)
    (w : World) : (script.mapResult f).runSealed s w =
      ((script.runSealed s w).1.map f, (script.runSealed s w).2) := by
  induction script generalizing w with
  | done result => rfl
  | log entry next ih => simp only [mapResult, runSealed, ih]
  | query q next ih =>
    simp only [mapResult, runSealed]
    rcases s.query w.files q with (e | why) | records
    · exact ih (.error e) w
    · rfl
    · exact ih (.ok records) w
  | write c next ih =>
    simp only [mapResult, runSealed]
    rcases s.write w c with ⟨(e | why) | done, entries, w'⟩
    · simp only [ih]
    · rfl
    · simp only [ih]

theorem runSealed_crashed {kind : Write → Prop} {script : Script α} {why : Crash}
    (changes : script.ChangesOnce kind) (loads : s.load w.files = .ok t)
    (crashed : (script.runSealed s w).1 = .error why) :
    ∃ c, kind c ∧ (s.write w c).1 = .error (.crashed why) := by
  induction script with
  | done result => cases crashed
  | log entry next ih => exact ih changes crashed
  | query q next ih =>
    simp only [runSealed, SealedFile.query_loaded loads] at crashed
    cases answer : t.query q with
    | error e =>
      rw [answer] at crashed
      exact ih _ (changes _) crashed
    | ok records =>
      rw [answer] at crashed
      exact ih _ (changes _) crashed
  | write c next ih =>
    obtain ⟨asked, last, others⟩ := changes
    have ended (answer : Except NativeError Unit) (settled : Settled answer) (w' : World) :
        ((next answer).runSealed s w').1 ≠ .error why := by
      obtain ⟨result, ends⟩ := last answer settled
      rw [(runSealed_of_ending s ends w').1]
      rintro ⟨⟩
    rw [runSealed] at crashed
    rcases written : s.write w c with ⟨(e | why') | done, entries, w'⟩
    · rw [written] at crashed
      by_cases settled : e.kind = .other
      · exact absurd crashed (ended (.error e) settled w')
      · -- What is not settled leaves the world alone, so the file still loads as the table.
        cases SealedFile.write_unsettled loads written settled
        exact ih _ (others e) crashed
    · rw [written] at crashed
      cases crashed
      exact ⟨c, asked, by rw [written]⟩
    · rw [written] at crashed
      exact absurd crashed (ended (.ok ()) trivial w')

end Script

def StoreFault.report : StoreFault → NativeError
  | .reported e => e
  | .crashed why => ⟨.other, why.message⟩

def SealedFile.reporting (s : SealedFile) : Script.Store World where
  query w q := ((s.query w.files q).mapError StoreFault.report, w)
  write w c := ((s.write w c).1.mapError StoreFault.report, (s.write w c).2.2)

theorem Script.run_reporting {α : Type} {s : SealedFile} {script : Script α} {w : World}
    {result : Except KeyringError α} (ends : (script.runSealed s w).1 = .ok result) :
    (script.run s.reporting w).1 = result := by
  induction script generalizing w with
  | done r => exact Except.ok.inj ends
  | log entry next ih => exact ih ends
  | query q next ih =>
    simp only [runSealed] at ends
    simp only [run_query, SealedFile.reporting]
    rcases answer : s.query w.files q with (e | why) | records
    · rw [answer] at ends
      exact ih _ ends
    · rw [answer] at ends
      cases ends
    · rw [answer] at ends
      exact ih _ ends
  | write c next ih =>
    simp only [runSealed] at ends
    simp only [run_write, SealedFile.reporting]
    rcases answer : s.write w c with ⟨(e | why) | done, entries, w'⟩
    · rw [answer] at ends
      exact ih _ ends
    · rw [answer] at ends
      cases ends
    · rw [answer] at ends
      exact ih _ ends

def Operation.looksUp? : Operation → Option Text
  | .get key | .metadata key => some key
  | _ => none

/-- The record that is found for a request has words that are no texts. -/
def Request.Baffled (r : Request) (t : Table) : Prop :=
  ∃ key ∈ r.operation.looksUp?, ∃ record ∈ t.first? r.keyring.service key, ¬ record.HasWords

namespace Request

variable {s : SealedFile} {w : World} {t : Table}

theorem queryOne_loaded {α : Type} (loads : s.load w.files = .ok t) (k : Keyring)
    (operation : String) (key : Text) {q : Query} (next : Record → Except KeyringError α)
    (one : q.limit = .one) (service : q.service = k.service) (account : q.account = some key) :
    ((k.queryOne operation key q next).runSealed s w).1 = .ok (match t.first? k.service key with
      | none => .error (.keyNotFound k.service key)
      | some record => next (record.project q)) := by
  have first : t.find? (fun r => r.meets q) = t.first? k.service key := by
    simp only [Table.first?, Record.meets, service, account]
  simp only [Keyring.queryOne, Script.runSealed, SealedFile.query_loaded loads,
    Table.query_one one, first]
  cases t.first? k.service key <;> rfl

theorem get_loaded (loads : s.load w.files = .ok t) (k : Keyring) (key : Text) :
    ((script ⟨k, .get key⟩).runSealed s w).1 = .ok (match t.first? k.service key with
      | none => .error (.keyNotFound k.service key)
      | some record => (Keyring.itemOf key record).map .item) := by
  have found := queryOne_loaded loads k "get" key (Keyring.itemOf key)
    (q := k.itemQuery key true false) rfl rfl rfl
  rw [script, Script.runSealed_mapResult, Keyring.get, Keyring.debug, Script.runSealed, found]
  cases t.first? k.service key <;> rfl

theorem metadata_loaded (loads : s.load w.files = .ok t) (k : Keyring) (key : Text) :
    ((script ⟨k, .metadata key⟩).runSealed s w).1 = .ok (match t.first? k.service key with
      | none => .error (.keyNotFound k.service key)
      | some record => (Keyring.metadataOf key record).map .metadata) := by
  have found := queryOne_loaded loads k "get_metadata" key (Keyring.metadataOf key)
    (q := k.itemQuery key false true) rfl rfl rfl
  rw [script, Script.runSealed_mapResult, Keyring.getMetadata, Keyring.debug, Script.runSealed,
    found]
  cases t.first? k.service key <;> rfl

theorem outcome_runSealed (r : Request) {outcome : Outcome}
    (ends : (r.script.runSealed s w).1 = .ok outcome) :
    (∀ why, outcome ≠ .error (.misconfigured why)) ∧
      ∀ why, outcome = .error (.invalid why) → r.operation.looksUp?.isSome := by
  have accounts := accounts s.reporting r w
  rw [Script.run_reporting ends] at accounts
  refine ⟨accounts.configured, fun why invalid => ?_⟩
  obtain ⟨key, _, _, _, op | op, -⟩ := accounts.invalid.mp ⟨why, invalid⟩ <;> rw [op] <;> rfl

theorem crashed_loaded {token : Bytes} (there : w.files.look s.path = .ok (.file token))
    (loads : s.load w.files = .ok t) (r : Request) (why : Crash) :
    (r.script.runSealed s w).1 = .error why ↔ why = .tooManyDigits ∧ r.Overflows t := by
  constructor
  · intro crashed
    obtain ⟨c, asks, written⟩ := Script.runSealed_crashed r.changesOnce loads crashed
    exact SealedFile.write_crashed_asked there loads asks written
  · obtain ⟨k, operation⟩ := r
    rintro ⟨rfl, item, rfl, absent, long⟩
    have written : (s.write w (.add (k.recordOf item))).1 = .error (.crashed .tooManyDigits) := by
      obtain ⟨levels, -, within⟩ := SealedFile.isWithin_load loads
      refine (SealedFile.write_crashed_loaded there loads).mpr
        ⟨rfl, _, Table.write_add_absent w.now absent, ?_⟩
      exact (Table.write_unwritable_iff within (Asks.add k item).textual
        (Table.write_add_absent w.now absent)).mpr ⟨_, rfl, long⟩
    simp only [script, Keyring.set, Keyring.debug, Script.mapResult, Script.runSealed]
    generalize s.write w (.add (k.recordOf item)) = response at written ⊢
    obtain ⟨result, entries, w'⟩ := response
    cases written
    rfl

theorem refused_first {α : Type} {make : Record → Except KeyringError α}
    (refuses : ∀ r, (∃ why, make r = .error (.invalid why)) ↔ ¬ r.HasWords) (f : α → Answer)
    (first : Option Record) (service key : Text) :
    (∃ why, (.ok (match first with
      | none => .error (.keyNotFound service key)
      | some record => (make record).map f) : Except Crash Outcome) =
        .ok (.error (.invalid why))) ↔ ∃ record ∈ first, ¬ record.HasWords := by
  cases first with
  | none => simp
  | some record => simp [map_eq_error_iff, refuses]

theorem invalid_loaded (loads : s.load w.files = .ok t) (r : Request) :
    (∃ why, (r.script.runSealed s w).1 = .ok (.error (.invalid why))) ↔ r.Baffled t := by
  have others (quiet : r.operation.looksUp? = none) :
      (∃ why, (r.script.runSealed s w).1 = .ok (.error (.invalid why))) ↔ r.Baffled t := by
    refine ⟨fun ⟨why, invalid⟩ => ?_, fun ⟨key, looks, _⟩ => ?_⟩
    · have looks := (r.outcome_runSealed invalid).2 why rfl
      rw [quiet] at looks
      cases looks
    · rw [quiet] at looks
      cases looks
  obtain ⟨k, operation⟩ := r
  cases operation with
  | get key =>
    rw [get_loaded loads, refused_first (Keyring.itemOf_invalid_iff key)]
    simp [Baffled, Operation.looksUp?]
  | metadata key =>
    rw [metadata_loaded loads, refused_first (Keyring.metadataOf_invalid_iff key)]
    simp [Baffled, Operation.looksUp?]
  | set item => exact others rfl
  | remove key => exact others rfl
  | keys => exact others rfl

end Request

end SecretStore
