import SecretStore.Keyring.Sealed
import SecretStore.Proofs.Crypto.Token
import SecretStore.Proofs.Files.Tree
import SecretStore.Proofs.Json.Bytes
import SecretStore.Proofs.Keyring.Operation
import SecretStore.Proofs.Keyring.Script

/-!
When a sealed file breaks off instead of answering. Reading does for three
reasons and writing for two more, and each reason determines the crash.
Whatever else goes wrong is reported, and a keyring passes a report that is no
answer on as a failure of the store.
-/

namespace SecretStore

namespace SealedFile

/-- Whether a record's service, or else its account, is a value that is no key. -/
def HasBadKey (r : Record) (given : Json) : Prop :=
  r.service.isKey = false ∧ given = r.service ∨
    r.service.isKey = true ∧ r.account.isKey = false ∧ given = r.account

def HasKeys (r : Record) : Prop :=
  r.service.isKey = true ∧ r.account.isKey = true

theorem firstBadKey_keys {before : List Record} (keys : ∀ b ∈ before, HasKeys b)
    (rest : List Record) : firstBadKey (before ++ rest) = firstBadKey rest := by
  induction before with
  | nil => rfl
  | cons b before ih =>
    have first := keys b (List.mem_cons_self ..)
    have others := ih fun b' member => keys b' (List.mem_cons_of_mem _ member)
    simp only [List.cons_append, firstBadKey, first.1, first.2, others, Bool.not_true,
      Bool.false_eq_true, if_false]

theorem firstBadKey_bad {r : Record} {given : Json} (bad : HasBadKey r given)
    (after : List Record) : firstBadKey (r :: after) = some given := by
  rcases bad with ⟨service, rfl⟩ | ⟨service, account, rfl⟩
  · simp only [firstBadKey, service, Bool.not_false, if_true]
  · simp only [firstBadKey, service, account, Bool.not_true, Bool.not_false, Bool.false_eq_true,
      if_false, if_true]

theorem exists_of_firstBadKey {rs : List Record} {given : Json} (h : firstBadKey rs = some given) :
    ∃ before r after, rs = before ++ r :: after ∧ (∀ b ∈ before, HasKeys b) ∧
      HasBadKey r given := by
  induction rs with
  | nil => cases h
  | cons r rest ih =>
    cases service : r.service.isKey with
    | false =>
      have bad : HasBadKey r r.service := .inl ⟨service, rfl⟩
      rw [firstBadKey_bad bad] at h
      cases h
      exact ⟨[], r, rest, rfl, nofun, bad⟩
    | true =>
      cases account : r.account.isKey with
      | false =>
        have bad : HasBadKey r r.account := .inr ⟨service, account, rfl⟩
        rw [firstBadKey_bad bad] at h
        cases h
        exact ⟨[], r, rest, rfl, nofun, bad⟩
      | true =>
        have keys : ∀ b ∈ [r], HasKeys b := by
          intro b member
          rw [List.mem_singleton.mp member]
          exact ⟨service, account⟩
        rw [← List.singleton_append, firstBadKey_keys keys] at h
        obtain ⟨before, r', after, rfl, others, bad⟩ := ih h
        exact ⟨r :: before, r', after, rfl,
          List.forall_mem_cons.mpr ⟨⟨service, account⟩, others⟩, bad⟩

/-- What breaks off the reading of a file: a path that cannot be asked about, a list or an
object in the document that is one too deep, and the first service or account in it that
is a list or an object. -/
inductive LoadCrash (s : SealedFile) (files : FileTree) : Crash → Prop
  | unseen {why : FileReason} (kind : why = .nameTooLong ∨ why = .permission)
      (unseen : files.look s.path = .error why) : LoadCrash s files (.file ⟨why, s.path⟩)
  | tooDeep {token plain : Bytes} {within : Json.Container}
      (there : files.read s.path = .ok token) (opens : s.cipher.decrypt? token = some plain)
      (deep : Json.ofBytes s.levels.count plain = .error (.inr within)) :
      LoadCrash s files (.tooDeep within)
  | notKey {token plain : Bytes} {before after : List Record} {r : Record} {given : Json}
      (there : files.read s.path = .ok token) (opens : s.cipher.decrypt? token = some plain)
      (reads : Document.decode s.levels.count plain = .ok (before ++ r :: after))
      (keys : ∀ b ∈ before, HasKeys b) (bad : HasBadKey r given) :
      LoadCrash s files (.notKey given)

theorem decode_tooDeep_iff {levels : Nat} {bs : Bytes} {within : Json.Container} :
    Document.decode levels bs = .error (.inr within) ↔
      Json.ofBytes levels bs = .error (.inr within) := by
  rw [Document.decode]
  split
  · next failed => simp [failed]
  · next failed => simp [failed]
  · next j read =>
    rw [read]
    cases Document.ofJson j <;> simp [Except.mapError]

theorem isThere_of_read {files : FileTree} {path : FilePath} {token : Bytes}
    (there : files.read path = .ok token) : files.isThere path = .ok true :=
  FileTree.isThere_of_look (FileTree.read_ok_iff.mp there).1

theorem load_crashed_iff {s : SealedFile} {files : FileTree} {why : Crash} :
    s.load files = .error (.crashed why) ↔ s.LoadCrash files why := by
  constructor
  · intro crashed
    rw [load] at crashed
    split at crashed
    · next failed =>
      cases crashed
      obtain ⟨reason, kind, unseen, rfl⟩ := FileTree.isThere_error_iff.mp failed
      exact .unseen kind unseen
    · cases crashed
    · split at crashed
      · cases crashed
      · next there =>
        split at crashed
        · cases crashed
        · next opens =>
          split at crashed
          · next deep =>
            cases crashed
            exact .tooDeep there opens (decode_tooDeep_iff.mp deep)
          · cases crashed
          · next reads =>
            split at crashed
            · next bad =>
              cases crashed
              obtain ⟨before, r, after, rfl, keys, bad⟩ := exists_of_firstBadKey bad
              exact .notKey there opens reads keys bad
            · cases crashed
  · intro crash
    cases crash with
    | unseen kind unseen =>
      rw [load, FileTree.isThere_error_iff.mpr ⟨_, kind, unseen, rfl⟩]
    | tooDeep there opens deep =>
      simp only [load, isThere_of_read there, there, opens, decode_tooDeep_iff.mpr deep]
    | notKey there opens reads keys bad =>
      simp only [load, isThere_of_read there, there, opens, reads, firstBadKey_keys keys,
        firstBadKey_bad bad]

theorem query_crashed_iff {s : SealedFile} {files : FileTree} {q : Query} {why : Crash} :
    s.query files q = .error (.crashed why) ↔ s.LoadCrash files why := by
  rw [← load_crashed_iff, query]
  cases s.load files with
  | error fault => simp
  | ok t =>
    cases answer : t.query q <;> simp [answer]

/-- A change that can be made on the table in the file, with the table that it gives. -/
def Changes (s : SealedFile) (w : World) (c : Write) (t' : Table) : Prop :=
  ∃ t, s.load w.files = .ok t ∧ t.write w.now c = .ok t'

/-- What breaks off a change: what breaks off the reading, an integer that is too
long to be written, and a path that cannot be passed on, above the file or its own. -/
inductive WriteCrash (s : SealedFile) (w : World) (c : Write) : Crash → Prop
  | load {why : Crash} (reading : s.LoadCrash w.files why) : WriteCrash s w c why
  | tooManyDigits {t : Table} (changes : s.Changes w c t)
      (long : (Document.toJson t).isWritable = false) : WriteCrash s w c .tooManyDigits
  | unfitAbove {t : Table} {why : FileReason} (changes : s.Changes w c t)
      (fits : (Document.toJson t).isWritable = true)
      (unfit : s.path.parent.unfit? = some why) :
      WriteCrash s w c (.file ⟨why, s.path.parent⟩)
  | unfit {t : Table} {why : FileReason} (changes : s.Changes w c t)
      (fits : (Document.toJson t).isWritable = true)
      (made : (w.files.makeDirectories s.path.parent).1 = .ok ())
      (unfit : s.path.unfit? = some why) : WriteCrash s w c (.file ⟨why, s.path⟩)

theorem unwritten_crashed_iff {s : SealedFile} {e : FileError} {why : Crash} :
    s.unwritten e = .crashed why ↔ e.reason.isUnfit = true ∧ why = .file e := by
  rw [unwritten]
  split
  · next out => simp [out, eq_comm]
  · next other => simp [other]

theorem makeDirectories_crashed_iff {s : SealedFile} {files : FileTree} {e : FileError}
    {why : Crash} (failed : (files.makeDirectories s.path.parent).1 = .error e) :
    s.unwritten e = .crashed why ↔
      ∃ reason, s.path.parent.unfit? = some reason ∧ why = .file ⟨reason, s.path.parent⟩ := by
  obtain ⟨reason, q⟩ := e
  rw [unwritten_crashed_iff]
  constructor
  · rintro ⟨out, rfl⟩
    obtain ⟨unfit, rfl⟩ := (FileTree.makeDirectories_unfit_iff out).mp failed
    exact ⟨reason, unfit, rfl⟩
  · rintro ⟨reason', unfit, rfl⟩
    have out := FilePath.isUnfit_of_unfit? unfit
    have made := (FileTree.makeDirectories_unfit_iff (t := files) out).mpr ⟨unfit, rfl⟩
    rw [made] at failed
    cases failed
    exact ⟨out, rfl⟩

theorem write_file_crashed_iff {s : SealedFile} {files : FileTree} {token : Bytes} {e : FileError}
    {why : Crash} (failed : files.write s.path token = .error e) :
    s.unwritten e = .crashed why ↔
      ∃ reason, s.path.unfit? = some reason ∧ why = .file ⟨reason, s.path⟩ := by
  obtain ⟨reason, q⟩ := e
  rw [unwritten_crashed_iff]
  constructor
  · rintro ⟨out, rfl⟩
    obtain ⟨unfit, rfl⟩ := (FileTree.write_unfit_iff out).mp failed
    exact ⟨reason, unfit, rfl⟩
  · rintro ⟨reason', unfit, rfl⟩
    have out := FilePath.isUnfit_of_unfit? unfit
    have refused : files.write s.path token = .error ⟨reason', s.path⟩ :=
      (FileTree.write_unfit_iff out).mpr ⟨unfit, rfl⟩
    rw [refused] at failed
    cases failed
    exact ⟨out, rfl⟩

theorem place_crashed_iff {s : SealedFile} {files : FileTree} {token : Bytes} {why : Crash} :
    (s.place files token).1 = .error (.crashed why) ↔
      (∃ reason, s.path.parent.unfit? = some reason ∧ why = .file ⟨reason, s.path.parent⟩) ∨
      (files.makeDirectories s.path.parent).1 = .ok () ∧
        ∃ reason, s.path.unfit? = some reason ∧ why = .file ⟨reason, s.path⟩ := by
  rw [place]
  rcases made : files.makeDirectories s.path.parent with ⟨result, files'⟩
  have first : (files.makeDirectories s.path.parent).1 = result := by rw [made]
  cases result with
  | error e => simp [makeDirectories_crashed_iff first]
  | ok _ =>
    have above (reason : FileReason) : s.path.parent.unfit? ≠ some reason := by
      intro unfit
      have failed := (FileTree.makeDirectories_unfit_iff (t := files)
        (FilePath.isUnfit_of_unfit? unfit)).mpr ⟨unfit, rfl⟩
      rw [failed] at first
      cases first
    cases written : files'.write s.path token with
    | error e => simp [written, write_file_crashed_iff written, above]
    | ok files'' =>
      have clear (reason : FileReason) : s.path.unfit? ≠ some reason := by
        intro unfit
        have failed : files'.write s.path token = .error ⟨reason, s.path⟩ :=
          (FileTree.write_unfit_iff (FilePath.isUnfit_of_unfit? unfit)).mpr ⟨unfit, rfl⟩
        rw [failed] at written
        cases written
      simp [written, above, clear]

theorem commit_crashed_iff {s : SealedFile} {w : World} {t : Table} {why : Crash} :
    (s.commit w t).1 = .error (.crashed why) ↔
      (Document.toJson t).isWritable = false ∧ why = .tooManyDigits ∨
      (Document.toJson t).isWritable = true ∧
        ((∃ reason, s.path.parent.unfit? = some reason ∧
          why = .file ⟨reason, s.path.parent⟩) ∨
        (w.files.makeDirectories s.path.parent).1 = .ok () ∧
          ∃ reason, s.path.unfit? = some reason ∧ why = .file ⟨reason, s.path⟩) := by
  rw [commit]
  cases fits : (Document.toJson t).isWritable with
  | false =>
    simp only [Bool.false_eq_true, if_false, Except.error.injEq, StoreFault.crashed.injEq,
      true_and, false_and, or_false]
    exact eq_comm
  | true =>
    simp only [if_true, Bool.true_eq_false, false_and, false_or, true_and]
    exact place_crashed_iff

theorem write_of_changes {s : SealedFile} {w : World} {c : Write} {t : Table}
    (h : s.Changes w c t) :
    (s.write w c).1 = (s.commit (if c.isStamped then w.tick else w) t).1 := by
  obtain ⟨t₀, loads, changed⟩ := h
  simp only [write, loads, changed]
  split
  · next failed => rw [failed]
  · next done => rw [done]

theorem files_stamped (w : World) (c : Write) :
    (if c.isStamped then w.tick else w).files = w.files := by
  split <;> rfl

theorem write_crashed_iff {s : SealedFile} {w : World} {c : Write} {why : Crash} :
    (s.write w c).1 = .error (.crashed why) ↔ s.WriteCrash w c why := by
  constructor
  · intro crashed
    cases loads : s.load w.files with
    | error fault =>
      simp only [write, loads] at crashed
      cases crashed
      exact .load (load_crashed_iff.mp loads)
    | ok t₀ =>
      cases changed : t₀.write w.now c with
      | error e =>
        simp only [write, loads, changed] at crashed
        cases crashed
      | ok t =>
        have changes : s.Changes w c t := ⟨t₀, loads, changed⟩
        rw [write_of_changes changes, commit_crashed_iff, files_stamped] at crashed
        obtain ⟨long, rfl⟩ | ⟨fits, ⟨reason, unfit, rfl⟩ | ⟨made, reason, unfit, rfl⟩⟩ := crashed
        · exact .tooManyDigits changes long
        · exact .unfitAbove changes fits unfit
        · exact .unfit changes fits made unfit
  · intro crash
    cases crash with
    | load reading => simp only [write, load_crashed_iff.mpr reading]
    | tooManyDigits changes long =>
      rw [write_of_changes changes, commit_crashed_iff]
      exact .inl ⟨long, rfl⟩
    | unfitAbove changes fits unfit =>
      rw [write_of_changes changes, commit_crashed_iff]
      exact .inr ⟨fits, .inl ⟨_, unfit, rfl⟩⟩
    | unfit changes fits made unfit =>
      rw [write_of_changes changes, commit_crashed_iff, files_stamped]
      exact .inr ⟨fits, .inr ⟨made, _, unfit, rfl⟩⟩

end SealedFile

namespace Script

variable {α β : Type}

def reports (file : SealedFile) : Script α → World → List NativeError
  | .done _, _ => []
  | .log _ next, w => next.reports file w
  | .query q next, w => match file.query w.files q with
    | .ok records => (next (.ok records)).reports file w
    | .error (.reported e) => e :: (next (.error e)).reports file w
    | .error (.crashed _) => []
  | .write change next, w => match file.write w change with
    | (.error (.crashed _), _, _) => []
    | (.error (.reported e), _, w) => e :: (next (.error e)).reports file w
    | (.ok (), _, w) => (next (.ok ())).reports file w

def IsStoreFailure (result : Except KeyringError α) : Prop :=
  ∃ failure, result = .error (.store failure .other)

/-- Wherever a call is answered with a failure that is no answer, the script ends. -/
def Surfaces : Script α → Prop
  | .done _ => True
  | .log _ next => next.Surfaces
  | .query _ next => ∀ answer, (next answer).Surfaces ∧
      ∀ message, answer = .error ⟨.other, message⟩ →
        ∃ result, (next answer).ending? = some result ∧ IsStoreFailure result
  | .write _ next => ∀ answer, (next answer).Surfaces ∧
      ∀ message, answer = .error ⟨.other, message⟩ →
        ∃ result, (next answer).ending? = some result ∧ IsStoreFailure result

theorem surfaces_mapResult {f : Except KeyringError α → Except KeyringError β}
    (keeps : ∀ result, IsStoreFailure result → IsStoreFailure (f result)) {script : Script α}
    (h : script.Surfaces) : (script.mapResult f).Surfaces := by
  induction script with
  | done result => trivial
  | log entry next ih => exact ih h
  | query q next ih =>
    intro answer
    refine ⟨ih answer (h answer).1, fun message failed => ?_⟩
    obtain ⟨result, ends, failure⟩ := (h answer).2 message failed
    exact ⟨f result, by rw [ending_mapResult, ends]; rfl, keeps result failure⟩
  | write c next ih =>
    intro answer
    refine ⟨ih answer (h answer).1, fun message failed => ?_⟩
    obtain ⟨result, ends, failure⟩ := (h answer).2 message failed
    exact ⟨f result, by rw [ending_mapResult, ends]; rfl, keeps result failure⟩

theorem runSealed_of_ending {script : Script α} {result : Except KeyringError α}
    (file : SealedFile) (h : script.ending? = some result) (w : World) :
    (script.runSealed file w).1 = .ok result ∧ script.reports file w = [] := by
  induction script with
  | done r => exact ⟨congrArg Except.ok (Option.some.inj h), rfl⟩
  | log entry next ih => exact ih h
  | query q next => cases h
  | write c next => cases h

theorem failure_of_answer (file : SealedFile) {next : Except NativeError β → Script α}
    {e : NativeError} (other : e.kind = .other)
    (ends : ∀ message, (.error e : Except NativeError β) = .error ⟨.other, message⟩ →
      ∃ result, (next (.error e)).ending? = some result ∧ IsStoreFailure result) (w : World) :
    ∃ result, ((next (.error e)).runSealed file w).1 = .ok result ∧ IsStoreFailure result := by
  obtain ⟨kind, message⟩ := e
  cases other
  obtain ⟨result, ended, failure⟩ := ends message rfl
  exact ⟨result, (runSealed_of_ending file ended w).1, failure⟩

theorem failure_of_reports (file : SealedFile) {script : Script α} (h : script.Surfaces)
    (w : World) :
    ∀ e ∈ script.reports file w, e.kind = .other →
      ∃ result, (script.runSealed file w).1 = .ok result ∧ IsStoreFailure result := by
  induction script generalizing w with
  | done result =>
    intro e reported
    cases reported
  | log entry next ih => exact ih h w
  | query q next ih =>
    intro e reported other
    rw [reports] at reported
    rw [runSealed]
    cases answer : file.query w.files q with
    | ok records =>
      rw [answer] at reported
      exact ih (.ok records) (h _).1 w e reported other
    | error fault =>
      rw [answer] at reported
      cases fault with
      | crashed why => cases reported
      | reported e' =>
        rcases List.mem_cons.mp reported with rfl | later
        · exact failure_of_answer file other (h _).2 w
        · exact ih _ (h _).1 w e later other
  | write c next ih =>
    intro e reported other
    rw [reports] at reported
    rw [runSealed]
    rcases answer : file.write w c with ⟨result, entries, w'⟩
    rw [answer] at reported
    cases result with
    | ok done => exact ih (.ok ()) (h _).1 w' e reported other
    | error fault =>
      cases fault with
      | crashed why => cases reported
      | reported e' =>
        rcases List.mem_cons.mp reported with rfl | later
        · exact failure_of_answer file other (h _).2 w'
        · exact ih _ (h _).1 w' e later other

end Script

namespace Keyring

theorem surfaces_queryOne {α : Type} (k : Keyring) (operation : String) (key : Text) (q : Query)
    (next : Record → Except KeyringError α) : (k.queryOne operation key q next).Surfaces := by
  intro answer
  constructor
  · dsimp only
    split <;> trivial
  · rintro message rfl
    exact ⟨_, rfl, _, rfl⟩

theorem surfaces_get (k : Keyring) (key : Text) : (k.get key).Surfaces :=
  k.surfaces_queryOne "get" key (k.itemQuery key true false) (itemOf key)

theorem surfaces_getMetadata (k : Keyring) (key : Text) : (k.getMetadata key).Surfaces :=
  k.surfaces_queryOne "get_metadata" key (k.itemQuery key false true) (metadataOf key)

theorem surfaces_overwrite (k : Keyring) (key : Text) (data : Bytes) :
    (k.overwrite key data).Surfaces := by
  intro answer
  constructor
  · dsimp only
    split <;> trivial
  · rintro message rfl
    exact ⟨_, rfl, _, rfl⟩

theorem surfaces_replaceData (k : Keyring) (item : Item) : (k.replaceData item).Surfaces := by
  intro answer
  constructor
  · dsimp only
    split
    · trivial
    · trivial
    · trivial
    · exact k.surfaces_overwrite item.key item.data
  · rintro message rfl
    exact ⟨_, rfl, _, rfl⟩

theorem surfaces_set (k : Keyring) (item : Item) : (k.set item).Surfaces := by
  intro answer
  constructor
  · dsimp only
    split
    · trivial
    · exact k.surfaces_replaceData item
    · trivial
  · rintro message rfl
    exact ⟨_, rfl, _, rfl⟩

theorem surfaces_remove (k : Keyring) (key : Text) : (k.remove key).Surfaces := by
  intro answer
  constructor
  · dsimp only
    split <;> trivial
  · rintro message rfl
    exact ⟨_, rfl, _, rfl⟩

theorem surfaces_keys (k : Keyring) : k.keys.Surfaces := by
  intro answer
  constructor
  · dsimp only
    split <;> trivial
  · rintro message rfl
    exact ⟨_, rfl, _, rfl⟩

end Keyring

theorem Request.surfaces (r : Request) : r.script.Surfaces := by
  have keeps {α : Type} (f : α → Answer) (result : Except KeyringError α)
      (failure : Script.IsStoreFailure result) : Script.IsStoreFailure (result.map f) := by
    obtain ⟨f, rfl⟩ := failure
    exact ⟨f, rfl⟩
  obtain ⟨k, operation⟩ := r
  cases operation with
  | get key => exact Script.surfaces_mapResult (keeps _) (k.surfaces_get key)
  | metadata key => exact Script.surfaces_mapResult (keeps _) (k.surfaces_getMetadata key)
  | set item => exact Script.surfaces_mapResult (keeps _) (k.surfaces_set item)
  | remove key => exact Script.surfaces_mapResult (keeps _) (k.surfaces_remove key)
  | keys => exact Script.surfaces_mapResult (keeps _) k.surfaces_keys

def Document.listedService : Json :=
  .obj [("records", .arr [.obj [("class", .str "genp"), ("service", .arr []),
    ("account", .str "a"), ("data", .str "")]])]

theorem Document.decode_listedService (levels : Levels) :
    decode levels.count (Text.Utf8.encodeChars (Json.render listedService)) =
      .ok [{ service := .arr [], account := .str "a" }] := by
  have plain : listedService.IsPlain := by
    simp [listedService, Json.IsPlain, Json.ArePlain, Json.FieldsPlain]
  have fits : listedService.depth ≤ levels.count := levels.enough
  rw [decode, Json.ofBytes_render plain fits]
  rfl

end SecretStore
