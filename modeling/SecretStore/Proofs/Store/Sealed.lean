import SecretStore.Proofs.Crypto.Token
import SecretStore.Proofs.Files.Tree
import SecretStore.Proofs.Store.Crash
import SecretStore.Proofs.Store.Document

/-!
Sealed files as memory. Files on one path and under one cipher, any number of
them and in any order, answer every verb as one table in memory does. What
carries this from verb to verb is that the path is free and the table empty, or
that the file at the path opens to the document of the table.
-/

namespace SecretStore

def Cipher.Lawful (c : Cipher) : Prop :=
  ∀ second start message, start.length = 16 →
    c.decrypt? (c.encrypt second start message) = some message

theorem Token.cipher_lawful (key : Token.Key) : (Token.cipher key).Lawful :=
  fun second _ message block => Token.decrypt_encrypt key second message block

theorem World.length_nextStart (w : World) : w.nextStart.length = 16 := rfl

/-- A record without the two halves of a surrogate pair side by side in a text. -/
def Record.Unpaired (r : Record) : Prop :=
  ∀ j ∈ [r.service, r.account, r.label, r.description], ∀ s, j = .str s → s.Unpaired

def Write.Unpaired : Write → Prop
  | .add r => r.Unpaired
  | .update _ p => (∀ s ∈ p.label, s.Unpaired) ∧ ∀ s ∈ p.description, s.Unpaired
  | .delete _ => True

theorem Record.WellTyped.joined_of_unpaired {r : Record} (typed : r.WellTyped)
    (apart : r.Unpaired) : r.joined = r := by
  have text {j : Json} (text : ∃ s, j = .str s)
      (member : j ∈ [r.service, r.account, r.label, r.description]) : j.joined = j := by
    obtain ⟨s, rfl⟩ := text
    exact congrArg Json.str (Text.joined_of_unpaired (apart _ member s rfl))
  obtain ⟨b, synchronizable⟩ := typed.synchronizable
  refine joined_eq_iff.mpr ⟨⟨text typed.service ?_, text typed.account ?_⟩,
    ⟨text typed.label ?_, text typed.description ?_⟩, by rw [synchronizable]; rfl⟩
  all_goals simp

theorem Record.joined_patched {r : Record} (joined : r.joined = r) {p : Patch}
    (label : ∀ s ∈ p.label, s.Unpaired) (description : ∀ s ∈ p.description, s.Unpaired)
    (now : Moment) : (r.patched p now).joined = r.patched p now := by
  have text {new : Option Text} (apart : ∀ s ∈ new, s.Unpaired) {old : Json}
      (same : old.joined = old) :
      ((new.map Json.str).getD old).joined = (new.map Json.str).getD old := by
    cases new with
    | none => exact same
    | some s => exact congrArg Json.str (Text.joined_of_unpaired (apart s rfl))
  obtain ⟨identity, ⟨old_label, old_description⟩, synchronizable⟩ := joined_eq_iff.mp joined
  exact joined_eq_iff.mpr ⟨identity, ⟨text label old_label, text description old_description⟩,
    synchronizable⟩

theorem Table.Lasting.write {t t' : Table} (lasting : t.Lasting) {c : Write}
    (typed : c.WellTyped) (apart : c.Unpaired) {now : Moment} (legible : Stamp.Legible now)
    (changed : t.write now c = .ok t') : t'.Lasting where
  toStorable := lasting.toStorable.write typed legible changed
  joined := by
    cases c with
    | add r =>
      rw [Table.write] at changed
      split at changed
      · cases changed
      · cases changed
        intro s member
        rcases List.mem_append.mp member with old | new
        · exact lasting.joined s old
        · rw [List.mem_singleton.mp new]
          have same := Record.joined_eq_iff.mp (typed.joined_of_unpaired apart)
          exact Record.joined_eq_iff.mpr same
    | update q p =>
      rw [Table.write] at changed
      split at changed
      · cases changed
        intro s member
        obtain ⟨r, old, rfl⟩ := List.mem_map.mp member
        split
        · exact Record.joined_patched (lasting.joined r old) apart.1 apart.2 now
        · exact lasting.joined r old
      · cases changed
    | delete q =>
      rw [Table.write] at changed
      split at changed
      · cases changed
        exact fun s member => lasting.joined s (List.mem_filter.mp member).1
      · cases changed

inductive Verb
  | query (q : Query)
  | write (c : Write)

def Verb.WellTyped : Verb → Prop
  | .query _ => True
  | .write c => c.WellTyped ∧ c.Unpaired

/-- The answer of a verb: the records of a query, or nothing after a change. -/
abbrev Reply (ε : Type) := Except ε (Option (List Record))

structure Use where
  file : SealedFile
  clock : Int
  verb : Verb

namespace Use

def now (u : Use) : Moment :=
  .ofMicros u.clock

def onFile (u : Use) (w : World) : Reply StoreFault × World :=
  let w := { w with clock := u.clock }
  match u.verb with
  | .query q => ((u.file.query w.files q).map some, w)
  | .write c => ((u.file.write w c).1.map fun _ => none, (u.file.write w c).2.2)

def onTable (u : Use) (t : Table) : Reply NativeError × Table :=
  match u.verb with
  | .query q => ((t.query q).map some, t)
  | .write c =>
    (((Table.store u.now).write t c).1.map fun _ => none, ((Table.store u.now).write t c).2)

theorem onFile_query (file : SealedFile) (clock : Int) (q : Query) (w : World) :
    onFile ⟨file, clock, .query q⟩ w =
      ((file.query w.files q).map some, { w with clock }) := rfl

theorem onFile_write (file : SealedFile) (clock : Int) (c : Write) (w : World) :
    onFile ⟨file, clock, .write c⟩ w =
      ((file.write { w with clock } c).1.map fun _ => none,
        (file.write { w with clock } c).2.2) := rfl

theorem onTable_query (file : SealedFile) (clock : Int) (q : Query) (t : Table) :
    onTable ⟨file, clock, .query q⟩ t = ((t.query q).map some, t) := rfl

theorem onTable_write (file : SealedFile) (clock : Int) (c : Write) (t : Table) :
    onTable ⟨file, clock, .write c⟩ t =
      (((Table.store (.ofMicros clock)).write t c).1.map fun _ => none,
        ((Table.store (.ofMicros clock)).write t c).2) := rfl

def replies {α σ : Type} (perform : Use → σ → α × σ) : List Use → σ → List α × σ
  | [], s => ([], s)
  | u :: rest, s =>
    let (reply, s) := perform u s
    let (others, s) := replies perform rest s
    (reply :: others, s)

theorem replies_cons {α σ : Type} (perform : Use → σ → α × σ) (u : Use) (rest : List Use) (s : σ) :
    replies perform (u :: rest) s =
      ((perform u s).1 :: (replies perform rest (perform u s).2).1,
        (replies perform rest (perform u s).2).2) := rfl

end Use

theorem map_mapError {α β ε δ : Type} (f : ε → δ) (g : α → β) (answer : Except ε α) :
    (answer.mapError f).map g = (answer.map g).mapError f := by
  cases answer <;> rfl

namespace SealedFile

/-- A table in a file: nothing is at a free path, and a file opens to a document. -/
inductive Holds (s : SealedFile) (files : FileTree) : Table → Prop
  | nothing (free : files.Free s.path) : Holds s files []
  | document {token : Bytes} {t : Table} (keeps : files.Keeps s.path token)
      (opens : s.cipher.decrypt? token = some (Document.encode t)) : Holds s files t

variable {s : SealedFile} {files : FileTree} {t : Table}

theorem firstBadKey_typed (typed : ∀ r ∈ t, r.WellTyped) : firstBadKey t = none := by
  have keys : ∀ r ∈ t, HasKeys r := by
    intro r member
    obtain ⟨service, hservice⟩ := (typed r member).service
    obtain ⟨account, haccount⟩ := (typed r member).account
    rw [HasKeys, hservice, haccount]
    exact ⟨rfl, rfl⟩
  have checked := firstBadKey_keys keys []
  rwa [List.append_nil] at checked

theorem load_holds (holds : s.Holds files t) (storable : t.Storable) :
    s.load files = .ok t.reread := by
  cases holds with
  | nothing free =>
    rw [load, free.absent]
    rfl
  | document keeps opens =>
    have joined : ∀ r ∈ t.map Record.joined, r.WellTyped := by
      intro r' member
      obtain ⟨r, old, rfl⟩ := List.mem_map.mp member
      exact (storable.records r old).toWellTyped.joined
    simp only [load, FileTree.isThere_of_look keeps.file, keeps.read, opens,
      Document.decode_encode storable.records, firstBadKey_typed joined]
    rfl

theorem place_holds (holds : s.Holds files t) (token : Bytes) :
    ∃ files', s.place files token = (.ok (), files') ∧ files'.Keeps s.path token := by
  cases holds with
  | nothing free =>
    obtain ⟨above, files', made, written, keeps⟩ := free.write token
    refine ⟨files', ?_, keeps⟩
    simp only [place, made, written]
  | document keeps opens =>
    obtain ⟨files', made, written, keeps⟩ := keeps.write token
    refine ⟨files', ?_, keeps⟩
    simp only [place, made, written]

theorem commit_holds (lawful : s.cipher.Lawful) {w : World} (holds : s.Holds w.files t)
    {t' : Table} (typed : ∀ r ∈ t', r.WellTyped) :
    ∃ w', s.commit w t' = (.ok (), w') ∧ s.Holds w'.files t' := by
  have fits := Json.isWritable_plain _ (Document.isPlain_toJson typed)
  obtain ⟨files', placed, keeps⟩ :=
    place_holds holds (s.cipher.encrypt w.second w.nextStart (Document.encode t'))
  refine ⟨{ w.countSeal with files := files' }, ?_,
    .document keeps (lawful _ _ _ w.length_nextStart)⟩
  simp only [commit, fits, if_true, placed]

theorem query_holds (holds : s.Holds files t) (lasting : t.Lasting) (q : Query) :
    s.query files q = (t.query q).mapError .reported := by
  rw [query, load_holds holds lasting.toStorable, lasting.reread_eq]
  cases answer : t.query q with
  | error e => simp only [answer]; rfl
  | ok records => simp only [answer]; rfl

theorem write_holds (lawful : s.cipher.Lawful) {w : World} (holds : s.Holds w.files t)
    (lasting : t.Lasting) {c : Write} (typed : c.WellTyped) (apart : c.Unpaired)
    (valid : w.now.Valid) :
    (s.write w c).1 = ((Table.store w.now).write t c).1.mapError .reported ∧
      s.Holds (s.write w c).2.2.files ((Table.store w.now).write t c).2 := by
  have loads := load_holds holds lasting.toStorable
  rw [lasting.reread_eq] at loads
  cases changed : t.write w.now c with
  | error e =>
    simp only [write, loads, changed, Table.store_write_error changed]
    exact ⟨rfl, holds⟩
  | ok t' =>
    have kept := (lasting.write typed apart (Stamp.legible_ofMicros valid) changed).records
    have still : s.Holds (if c.isStamped then w.tick else w).files t := by
      rw [files_stamped]
      exact holds
    obtain ⟨w', committed, held⟩ :=
      commit_holds lawful still fun r member => (kept r member).toWellTyped
    simp only [write, loads, changed, Table.store_write_ok changed, committed]
    exact ⟨rfl, held⟩

end SealedFile

theorem Table.Lasting.store {t : Table} (lasting : t.Lasting) {c : Write} (typed : c.WellTyped)
    (apart : c.Unpaired) {now : Moment} (legible : Stamp.Legible now) :
    ((Table.store now).write t c).2.Lasting := by
  cases changed : t.write now c with
  | error e =>
    rw [Table.store_write_error changed]
    exact lasting
  | ok t' =>
    rw [Table.store_write_ok changed]
    exact lasting.write typed apart legible changed

namespace Use

theorem onFile_holds {u : Use} {w : World} {t : Table} (lawful : u.file.cipher.Lawful)
    (typed : u.verb.WellTyped) (valid : u.now.Valid) (holds : u.file.Holds w.files t)
    (lasting : t.Lasting) :
    (u.onFile w).1 = (u.onTable t).1.mapError .reported ∧
      u.file.Holds (u.onFile w).2.files (u.onTable t).2 ∧ (u.onTable t).2.Lasting := by
  obtain ⟨file, clock, verb⟩ := u
  cases verb with
  | query q =>
    rw [onFile_query, onTable_query, SealedFile.query_holds holds lasting, map_mapError]
    exact ⟨rfl, holds, lasting⟩
  | write c =>
    rw [onFile_write, onTable_write]
    obtain ⟨same, held⟩ := SealedFile.write_holds (w := { w with clock }) lawful holds lasting
      typed.1 typed.2 valid
    rw [same, map_mapError]
    exact ⟨rfl, held, lasting.store typed.1 typed.2 (Stamp.legible_ofMicros valid)⟩

theorem replies_holds {s : SealedFile} (lawful : s.cipher.Lawful) {uses : List Use}
    (same : ∀ u ∈ uses, u.file = s) (typed : ∀ u ∈ uses, u.verb.WellTyped)
    (valid : ∀ u ∈ uses, u.now.Valid) {w : World} {t : Table} (holds : s.Holds w.files t)
    (lasting : t.Lasting) :
    (replies onFile uses w).1 =
      (replies onTable uses t).1.map (Except.mapError StoreFault.reported) := by
  induction uses generalizing w t with
  | nil => rfl
  | cons u rest ih =>
    rw [List.forall_mem_cons] at same typed valid
    obtain ⟨rfl, others⟩ := same
    obtain ⟨reply, held, still⟩ := onFile_holds lawful typed.1 valid.1 holds lasting
    rw [replies_cons, replies_cons, List.map_cons, reply, ih others typed.2 valid.2 held still]

end Use

/-- Whatever is asked of sealed files on one free path and under one cipher, they
reply as one table in memory does that starts empty. -/
theorem sealed_files_refine_memory {path : FilePath} {cipher : Cipher} (levels : Levels)
    (lawful : cipher.Lawful) {w : World} (free : w.files.Free path) (uses : List Use)
    (same : ∀ u ∈ uses, u.file = ⟨path, cipher, levels⟩) (typed : ∀ u ∈ uses, u.verb.WellTyped)
    (valid : ∀ u ∈ uses, u.now.Valid) :
    (Use.replies Use.onFile uses w).1 =
      (Use.replies Use.onTable uses []).1.map (Except.mapError StoreFault.reported) :=
  Use.replies_holds (s := ⟨path, cipher, levels⟩) lawful same typed valid (.nothing free) .empty

/-- Two files on one path, one after the other: what the first adds the second finds. -/
theorem sealed_files_refine_memory_shared :
    let file : SealedFile := ⟨⟨"", ["d", "k.enc"]⟩, Token.cipher (List.replicate 32 0), .standard⟩
    let again : SealedFile := ⟨⟨"", ["d", "k.enc"]⟩, Token.cipher (List.replicate 32 0), .standard⟩
    let record : Record := { service := .str "s", account := .str "a", data := [1, 2] }
    let now : Moment := .ofMicros 1500000
    (Use.replies Use.onFile [⟨file, 1500000, .write (.add record)⟩,
        ⟨again, 1500000, .query { service := "s", attributes := true, data := true }⟩,
        ⟨again, 1500000, .write (.delete { service := "t" })⟩] {}).1 =
      [.ok none, .ok (some [{ record with created := some now, modified := some now }]),
        .error (.reported (Table.notFound { service := "t" }))] := by
  intro file again record now
  have free : FileTree.Free {} ⟨"", ["d", "k.enc"]⟩ :=
    ⟨by decide, by decide, by decide, FileTree.permits_of_denied rfl _⟩
  have valid : now.Valid := by
    refine ⟨by decide, by decide, ?_⟩
    rintro s ⟨⟩
    rfl
  have typed : record.WellTyped :=
    ⟨⟨_, rfl⟩, ⟨_, rfl⟩, ⟨_, rfl⟩, ⟨_, rfl⟩, ⟨_, rfl⟩, nofun⟩
  have apart : record.Unpaired := by simp [Record.Unpaired, record]
  refine (sealed_files_refine_memory .standard (Token.cipher_lawful (List.replicate 32 0)) free _
    ?_ ?_
    ?_).trans rfl
  · simp [file, again]
  · simp [Verb.WellTyped, Write.WellTyped, Write.Unpaired, typed, apart]
  · simp [Use.now, valid, now]

end SecretStore
