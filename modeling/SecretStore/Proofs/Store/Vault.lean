import SecretStore.Proofs.Files.Beside
import SecretStore.Proofs.Keyring.Changes
import SecretStore.Proofs.Keyring.Serial
import SecretStore.Proofs.Keyring.Verdict
import SecretStore.Proofs.Store.Sealed

/-!
A vault in a sealed file. A script on a file that holds a table ends as on the table
alone, and the file holds the table that it leaves. So a request that can be written and
read again is the request on the vault whose table is held, and it warns of nothing. A file
that stands beside the sealed one stays as it is.
-/

namespace SecretStore

/-- A request of which everything can be written and is read as it was. -/
structure Request.Lasting (r : Request) : Prop where
  flags : Json.isShort r.keyring.policy.flags.bits = true
  service : r.keyring.service.Unpaired
  item : ∀ item, r.operation = .set item →
    item.key.Unpaired ∧ item.label.Unpaired ∧ item.description.Unpaired

theorem Request.Asks.lasting {r : Request} {c : Write} (asks : r.Asks c) (lasting : r.Lasting) :
    c.WellTyped ∧ c.Unpaired := by
  cases asks with
  | add k item =>
    obtain ⟨key, label, description⟩ := lasting.item item rfl
    refine ⟨⟨⟨_, rfl⟩, ⟨_, rfl⟩, ⟨_, rfl⟩, ⟨_, rfl⟩, ⟨_, rfl⟩, ?_⟩, ?_⟩
    · intro policy given
      cases given
      exact lasting.flags
    · simpa [Write.Unpaired, Record.Unpaired, Keyring.recordOf] using
        ⟨lasting.service, key, label, description⟩
  | update k item => simp [Write.WellTyped, Write.Unpaired]
  | delete k key => exact ⟨trivial, trivial⟩

theorem warnings_append (first rest : List LogEntry) :
    warnings (first ++ rest) = warnings first ++ warnings rest :=
  List.filter_append ..

namespace SealedFile

variable {s : SealedFile} {files : FileTree} {t : Table}

theorem warnings_write (s : SealedFile) (w : World) (c : Write) :
    warnings (s.write w c).2.1 = [] := by
  rw [write]
  split
  · rfl
  · split
    · rfl
    · split <;> rfl

end SealedFile

namespace Script

variable {α : Type} {s : SealedFile}

theorem ending_everywhere {script : Script α} {result : Except KeyringError α}
    (ends : script.ending? = some result) (s : SealedFile) (w : World) (now : Moment) (t : Table) :
    ∃ entries, script.runSealed s w = (.ok result, entries, w) ∧
      script.run (Table.store now) t = (result, entries, t) := by
  induction script with
  | done r =>
    cases ends
    exact ⟨[], rfl, rfl⟩
  | log entry next ih =>
    obtain ⟨entries, sealed, alone⟩ := ih ends
    exact ⟨entry :: entries, by rw [runSealed, sealed], by rw [run_log, alone]⟩
  | query q next => cases ends
  | write c next => cases ends

theorem runSealed_holds (lawful : s.cipher.Lawful) {script : Script α}
    (changes : script.ChangesOnce fun c => c.WellTyped ∧ c.Unpaired) {w : World} {t : Table}
    (holds : s.Holds w.files t) (lasting : t.Lasting) (valid : w.now.Valid) :
    let ran := script.runSealed s w
    let alone := script.run (Table.store w.now) t
    ran.1 = .ok alone.1 ∧ warnings ran.2.1 = warnings alone.2.1 ∧
      s.Holds ran.2.2.files alone.2.2 ∧ alone.2.2.Lasting := by
  induction script with
  | done result => exact ⟨rfl, rfl, holds, lasting⟩
  | log entry next ih =>
    obtain ⟨ended, warned, held⟩ := ih changes
    refine ⟨ended, ?_, held⟩
    exact (warnings_append [entry] _).trans
      ((congrArg _ warned).trans (warnings_append [entry] _).symm)
  | query q next ih =>
    simp only [runSealed, run_query, Table.store_query, SealedFile.query_holds holds lasting]
    cases answered : t.query q with
    | error e => exact ih (.error e) (changes _)
    | ok records => exact ih (.ok records) (changes _)
  | write c next ih =>
    obtain ⟨typed, last, others⟩ := changes
    obtain ⟨same, held⟩ := SealedFile.write_holds lawful holds lasting typed.1 typed.2 valid
    have kept : ((Table.store w.now).write t c).2.Lasting :=
      lasting.store typed.1 typed.2 (Stamp.legible_ofMicros valid)
    have silent := s.warnings_write w c
    cases changed : t.write w.now c with
    | error e =>
      have still : s.write w c = (.error (.reported e), [], w) := by
        simp only [SealedFile.write, SealedFile.load_holds holds lasting.toStorable,
          lasting.reread_eq, changed]
      simp only [runSealed, run_write, still, Table.store_write_error changed]
      exact ih (.error e) (others e)
    | ok t' =>
      rw [Table.store_write_ok changed] at same held kept
      rcases written : s.write w c with ⟨result, entries, w'⟩
      rw [written] at same held silent
      cases same
      -- The clock may have gone on with the change, but the script makes no more calls.
      obtain ⟨result, ends⟩ := last (.ok ()) trivial
      obtain ⟨more, sealed, alone⟩ := ending_everywhere ends s w' w.now t'
      simp only [runSealed, run_write, written, Table.store_write_ok changed, sealed, alone]
      refine ⟨trivial, ?_, held, kept⟩
      rw [warnings_append, silent]
      rfl

end Script

namespace SealedFile

variable {s : SealedFile} {other : FilePath} {content : Bytes}

theorem beside_place {files : FileTree} (beside : files.Beside s.path other content)
    (token : Bytes) : (s.place files token).2.Beside s.path other content := by
  obtain ⟨above, files', made, written, still⟩ := beside.write token
  simp only [place, made, written]
  exact still

theorem beside_commit {w : World} (beside : w.files.Beside s.path other content) (t : Table) :
    (s.commit w t).2.files.Beside s.path other content := by
  rw [commit]
  split
  · exact beside_place beside _
  · exact beside

theorem beside_write {w : World} (beside : w.files.Beside s.path other content) (c : Write) :
    (s.write w c).2.2.files.Beside s.path other content := by
  rw [write]
  split
  · exact beside
  · split
    · exact beside
    · next t _ =>
      have still : (if c.isStamped then w.tick else w).files.Beside s.path other content := by
        rw [files_stamped]
        exact beside
      have after := beside_commit still t
      split
      · next failed =>
        rw [failed] at after
        exact after
      · next done =>
        rw [done] at after
        exact after

end SealedFile

theorem Script.runSealed_keeps {α : Type} {s : SealedFile} {P : World → Prop}
    (step : ∀ w c, P w → P (s.write w c).2.2) (script : Script α) {w : World} (before : P w) :
    P (script.runSealed s w).2.2 := by
  induction script generalizing w with
  | done result => exact before
  | log entry next ih => exact ih before
  | query q next ih =>
    rw [runSealed]
    rcases s.query w.files q with (e | why) | records
    · exact ih (.error e) before
    · exact before
    · exact ih (.ok records) before
  | write c next ih =>
    have after := step w c before
    rw [runSealed]
    rcases written : s.write w c with ⟨(e | why) | done, entries, w'⟩
    · rw [written] at after
      exact ih (.error e) after
    · rw [written] at after
      exact after
    · rw [written] at after
      exact ih (.ok ()) after

theorem Script.runSealed_beside {α : Type} {s : SealedFile} {other : FilePath} {content : Bytes}
    (script : Script α) {w : World} (beside : w.files.Beside s.path other content) :
    (script.runSealed s w).2.2.files.Beside s.path other content :=
  script.runSealed_keeps (P := fun w => w.files.Beside s.path other content)
    (fun _ c beside => SealedFile.beside_write beside c) beside

theorem SealedFile.stack_write (s : SealedFile) (w : World) (c : Write) :
    (s.write w c).2.2.stack = w.stack := by
  have stamped : (if c.isStamped then w.tick else w).stack = w.stack := by split <;> rfl
  have committed (w : World) (t : Table) : (s.commit w t).2.stack = w.stack := by
    rw [commit]
    split <;> rfl
  rw [write]
  split
  · rfl
  · split
    · rfl
    · next t _ =>
      have after := (committed (if c.isStamped then w.tick else w) t).trans stamped
      split
      · next failed =>
        rw [failed] at after
        exact after
      · next done =>
        rw [done] at after
        exact after

theorem Script.stack_runSealed {α : Type} (script : Script α) (s : SealedFile) (w : World) :
    (script.runSealed s w).2.2.stack = w.stack :=
  script.runSealed_keeps (P := fun after => after.stack = w.stack)
    (fun before c kept => (s.stack_write before c).trans kept) rfl

namespace Request

theorem isLost_perform (now : Moment) (r : Request) (v : Vault) :
    isLost (v.perform now r).1 = false := by
  obtain ⟨k, operation⟩ := r
  cases operation with
  | set item => rfl
  | keys => rfl
  | get key | metadata key | remove key =>
    simp only [Vault.perform]
    split <;> rfl

theorem warnings_table (now : Moment) (r : Request) (v : Vault) :
    warnings (r.script.run (Table.store now) v.table).2.1 = [] := by
  have performed := Vault.perform_table now r v
  simp only [Table.perform, Prod.mk.injEq] at performed
  rw [(r.accounts (Table.store now) v.table).warned, performed.1, isLost_perform]
  rfl

theorem runSealed_vault {s : SealedFile} (lawful : s.cipher.Lawful) {r : Request}
    (asked : r.Lasting) {w : World} {v : Vault} (holds : s.Holds w.files v.table)
    (lasting : v.table.Lasting) (valid : w.now.Valid) :
    let ran := r.script.runSealed s w
    let alone := v.perform w.now r
    ran.1 = .ok alone.1 ∧ warnings ran.2.1 = [] ∧ s.Holds ran.2.2.files alone.2.table ∧
      alone.2.table.Lasting := by
  have changes := r.changesOnce.mono fun c asks => asks.lasting asked
  obtain ⟨ended, warned, held, kept⟩ := Script.runSealed_holds lawful changes holds lasting valid
  have performed := Vault.perform_table w.now r v
  simp only [Table.perform, Prod.mk.injEq] at performed
  rw [performed.1] at ended
  rw [performed.2] at held kept
  exact ⟨ended, warned.trans (r.warnings_table w.now v), held, kept⟩

end Request

end SecretStore
