import SecretStore.Proofs.Files.Above
import SecretStore.Proofs.Keyring.Changes
import SecretStore.Proofs.Keyring.Course
import SecretStore.Proofs.Record.Short
import SecretStore.Proofs.Store.Sealed

/-!
Where a table is kept: in memory, or in a sealed file. The two differ in what a
change logs, in that a file has no room for a number that is too long to be
written, and in that it joins the halves of surrogate pairs. Beyond that a file
that serves a table shows nothing of itself: every request takes the course on it
that it takes on the table.
-/

namespace SecretStore

/-- What there is room for beside a table, what is logged when one is kept, and what is
found of it later. -/
structure Keeper where
  fits : AccessPolicy → Bool
  entries : Table → List LogEntry
  kept : Table → Table

namespace Keeper

/-- Memory has room for everything, logs nothing and keeps a table as it is. -/
def memory : Keeper := ⟨fun _ => true, fun _ => [], id⟩

/-- A sealed file writes numbers of at most 4300 digits, says what it wrote, and reads its
table anew. -/
def sealed (s : SealedFile) : Keeper :=
  ⟨fun p => Json.isShort p.flags.bits, fun t => [s.written t], Table.reread⟩

def holds (K : Keeper) (t : Table) : Bool :=
  t.all fun r => r.policy.all K.fits

def machine (K : Keeper) (now : Moment) : Machine Table where
  query t q := (.ok (t.query q), t)
  write t c := match t.write now c with
    | .error e => (.ok (.error e), [], t)
    | .ok t' =>
      if K.holds t' then (.ok (.ok ()), K.entries t', K.kept t')
      else (.error .tooManyDigits, [], t)

def perform (K : Keeper) (step : Int × Request) (t : Table) : Course Answer × Table :=
  step.2.script.course (K.machine (.ofMicros step.1)) t

theorem write_error {K : Keeper} {now : Moment} {t : Table} {c : Write} {e : NativeError}
    (h : t.write now c = .error e) : (K.machine now).write t c = (.ok (.error e), [], t) := by
  simp only [machine, h]

theorem write_kept {K : Keeper} {now : Moment} {t t' : Table} {c : Write}
    (h : t.write now c = .ok t') (room : K.holds t' = true) :
    (K.machine now).write t c = (.ok (.ok ()), K.entries t', K.kept t') := by
  simp only [machine, h, room, if_true]

theorem write_refused {K : Keeper} {now : Moment} {t t' : Table} {c : Write}
    (h : t.write now c = .ok t') (full : K.holds t' = false) :
    (K.machine now).write t c = (.error .tooManyDigits, [], t) := by
  simp only [machine, h, full, Bool.false_eq_true, if_false]

end Keeper

def SealedFile.perform (s : SealedFile) (step : Int × Request) (w : World) :
    Course Answer × World :=
  step.2.script.course s.machine { w with clock := step.1 }

structure Record.Textual (r : Record) : Prop where
  service : ∃ s, r.service = .str s
  account : ∃ s, r.account = .str s
  label : ∃ s, r.label = .str s
  description : ∃ s, r.description = .str s
  synchronizable : ∃ b, r.synchronizable = .bool b

/-- A change that brings texts into a table, and a policy only with a new record. -/
def Write.Textual : Write → Prop
  | .add r => r.Textual
  | .update _ p => p.policy = none
  | .delete _ => True

theorem Request.Asks.textual {r : Request} {c : Write} (asks : r.Asks c) : c.Textual := by
  cases asks with
  | add k item => exact ⟨⟨_, rfl⟩, ⟨_, rfl⟩, ⟨_, rfl⟩, ⟨_, rfl⟩, ⟨_, rfl⟩⟩
  | update k item => rfl
  | delete k key => trivial

namespace Record

theorem WellTyped.textual {r : Record} (typed : r.WellTyped) : r.Textual :=
  ⟨typed.service, typed.account, typed.label, typed.description, typed.synchronizable⟩

theorem Textual.wellTyped {r : Record} (textual : r.Textual)
    (flags : ∀ p ∈ r.policy, Json.isShort p.flags.bits) : r.WellTyped :=
  ⟨textual.service, textual.account, textual.label, textual.description, textual.synchronizable,
    flags⟩

theorem Textual.isWritable_toJson {r : Record} (textual : r.Textual) :
    r.toJson.isWritable = r.policy.all fun p => Json.isShort p.flags.bits := by
  obtain ⟨⟨service, hservice⟩, ⟨account, haccount⟩, ⟨label, hlabel⟩, ⟨description, hdescription⟩,
    ⟨synchronizable, hsynchronizable⟩⟩ := textual
  rw [Record.isWritable_toJson, hservice, haccount, hlabel, hdescription, hsynchronizable]
  simp [Json.isWritable]

end Record

theorem Document.isWritable_textual {s : SealedFile} {t : Table} (textual : ∀ r ∈ t, r.Textual) :
    (toJson t).isWritable = (Keeper.sealed s).holds t := by
  rw [isWritable_toJson, Bool.eq_iff_iff, List.all_eq_true, Keeper.holds, List.all_eq_true]
  exact forall₂_congr fun r member => by rw [(textual r member).isWritable_toJson]; rfl

namespace Record

theorem Textual.patched {r : Record} (textual : r.Textual) (p : Patch) (now : Moment) :
    (r.patched p now).Textual where
  service := textual.service
  account := textual.account
  label := by
    cases label : p.label with
    | none => simpa [Record.patched, label] using textual.label
    | some s => exact ⟨s, by simp [Record.patched, label]⟩
  description := by
    cases description : p.description with
    | none => simpa [Record.patched, description] using textual.description
    | some s => exact ⟨s, by simp [Record.patched, description]⟩
  synchronizable := textual.synchronizable

end Record

namespace Table

variable {t t' : Table} {c : Write} {now : Moment}

theorem textual_write (textual : ∀ r ∈ t, r.Textual) (new : c.Textual)
    (changed : t.write now c = .ok t') : ∀ r ∈ t', r.Textual := by
  cases c with
  | add r =>
    rw [write] at changed
    split at changed
    · cases changed
    · cases changed
      intro s member
      rcases List.mem_append.mp member with old | added
      · exact textual s old
      · rw [List.mem_singleton.mp added]
        exact ⟨new.service, new.account, new.label, new.description, new.synchronizable⟩
  | update q p =>
    rw [write] at changed
    split at changed
    · cases changed
      intro s member
      obtain ⟨r, old, rfl⟩ := List.mem_map.mp member
      split
      · exact (textual r old).patched p now
      · exact textual r old
    · cases changed
  | delete q =>
    rw [write] at changed
    split at changed
    · cases changed
      exact fun s member => textual s (List.mem_filter.mp member).1
    · cases changed

theorem wellTyped_kept {s : SealedFile} (new : c.Textual) (changed : t.write now c = .ok t')
    (room : (Keeper.sealed s).holds t' = true) : c.WellTyped := by
  cases c with
  | add r =>
    rw [write] at changed
    split at changed
    · cases changed
    · cases changed
      have short := List.all_eq_true.mp room _ (List.mem_append_right t (List.mem_singleton_self _))
      refine Record.Textual.wellTyped new fun policy there => ?_
      rw [show r.policy = some policy from there] at short
      exact short
  | update q p =>
    rw [Write.WellTyped, show p.policy = none from new]
    rintro policy ⟨⟩
  | delete q => trivial

theorem Storable.textual (storable : t.Storable) : ∀ r ∈ t, r.Textual :=
  fun r member => (storable.records r member).toWellTyped.textual

end Table

def StoreFault.Final (fault : StoreFault) : Prop :=
  ∀ e, fault = .reported e → e.kind = .other

theorem StoreFault.Final.settled {fault : StoreFault} (final : fault.Final)
    {answer : Except NativeError Unit} (answers : response (.error fault) = .ok answer) :
    Script.Settled answer := by
  cases fault with
  | reported e =>
    cases answers
    exact final e rfl
  | crashed why => cases answers

theorem SealedFile.final_unwritten (s : SealedFile) (why : FileError) :
    (s.unwritten why).Final := by
  rw [unwritten]
  split
  · rintro e ⟨⟩
  · rintro e ⟨⟩
    rfl

namespace SealedFile

variable {s : SealedFile} {files : FileTree} {t : Table}

/-- A file that reads as a table, and that can be written and read again. -/
structure Serves (s : SealedFile) (files : FileTree) (t : Table) : Prop where
  loads : s.load files = .ok t
  room : ∀ token, ∃ files', s.place files token = (.ok (), files') ∧ files'.Keeps s.path token

theorem Holds.serves (holds : s.Holds files t) (storable : t.Storable) :
    s.Serves files t.reread where
  loads := load_holds holds storable
  room := place_holds holds

theorem place_eq_ok {files' : FileTree} {token : Bytes}
    (placed : s.place files token = (.ok (), files')) :
    (files'.bars s.path .read = false → files'.Keeps s.path token) ∧
      ((∀ content, (files.makeDirectories s.path.parent).2.look s.path = .ok (.file content) →
        (files.makeDirectories s.path.parent).2.bars s.path .read = false) →
          files'.bars s.path .read = false) := by
  simp only [place] at placed
  split at placed
  · cases placed
  · next above made =>
    rw [made]
    split at placed
    · cases placed
    · next there written =>
      cases placed
      obtain ⟨goal, located, free, puts, writable, reads⟩ := FileTree.write_eq_ok written
      have bars (right : FileRight) := FileTree.bars_eq (puts.locate free located) right
      rw [bars]
      refine ⟨fun readable => puts.keeps free (FileTree.look_makeDirectories made) located readable
        writable, fun readable => reads ?_⟩
      rcases there : above.entry? goal with _ | old | _
      · exact .inl rfl
      · refine .inr ?_
        rw [← FileTree.bars_eq located]
        exact readable old (FileTree.look_eq_ok_iff.mpr ⟨goal, located, there⟩)
      · exact absurd there free

theorem place_cases (s : SealedFile) (files : FileTree) :
    (∀ token, ∃ files', s.place files token = (.ok (), files')) ∨
      ∃ fault, fault.Final ∧
        ((files.makeDirectories s.path.parent).2.Vacant s.path ∨
          (files.makeDirectories s.path.parent).2.bars s.path .write = true) ∧
        ∀ token, s.place files token = (.error fault, (files.makeDirectories s.path.parent).2) := by
  rcases made : files.makeDirectories s.path.parent with ⟨why | _, above⟩
  · refine .inr ⟨s.unwritten why, s.final_unwritten why, .inl ?_, fun token => ?_⟩
    · exact FileTree.vacant_of_parent (FileTree.makeDirectories_failed made)
    · simp only [place, made]
  · rcases above.write_cases s.path with room | ⟨why, closed, failed⟩
    · refine .inl fun token => ?_
      obtain ⟨files', written⟩ := room token
      exact ⟨files', by simp only [place, made, written]⟩
    · exact .inr ⟨s.unwritten why, s.final_unwritten why, closed, fun token => by
        simp only [place, made, failed]⟩

theorem place_clear (clear : files.Clear s.path) :
    (∀ token, ∃ files', s.place files token = (.ok (), files') ∧ files'.Keeps s.path token) ∨
      ∃ fault files', fault.Final ∧ files'.Clear s.path ∧
        ∀ token, s.place files token = (.error fault, files') := by
  rcases s.place_cases files with room | ⟨fault, final, closed, placed⟩
  · refine .inl fun token => ?_
    obtain ⟨files', placed⟩ := room token
    obtain ⟨keeps, readable⟩ := place_eq_ok placed
    exact ⟨files', placed, keeps (readable fun content there => (clear.behind content there).1)⟩
  · have vacant : (files.makeDirectories s.path.parent).2.Vacant s.path := by
      refine closed.elim id fun barred content there => ?_
      rw [(clear.behind content there).2] at barred
      cases barred
    refine .inr ⟨fault, _, final, ⟨vacant, fun content there => ?_⟩, placed⟩
    rw [FileTree.makeDirectories_twice] at there
    exact absurd there (vacant content)

/-- Where no file is, nothing is read, whatever the cipher. -/
theorem load_vacant {path : FilePath} (levels : Levels) (vacant : files.Vacant path) :
    (∀ cipher, load ⟨path, cipher, levels⟩ files = .ok []) ∨
      ∃ fault, fault.Final ∧ ∀ cipher, load ⟨path, cipher, levels⟩ files = .error fault := by
  rcases there : files.isThere path with why | (_ | _)
  · exact .inr ⟨.crashed (.file why), nofun, fun cipher => by simp only [load, there]⟩
  · exact .inl fun cipher => by simp only [load, there]
  · cases read : files.read path with
    | ok token => exact absurd (FileTree.read_ok_iff.mp read).1 (vacant token)
    | error why =>
      refine .inr ⟨.reported ⟨.other, "cannot read" ++ " " ++ path.text ++ ": " ++ why.message⟩, ?_,
        fun cipher => by simp only [load, there, read, failed]⟩
      rintro e ⟨⟩
      rfl

theorem write_unplaced {w : World} {files' : FileTree} {c : Write} {t' : Table}
    {fault : StoreFault} (loads : s.load w.files = .ok t) (changed : t.write w.now c = .ok t')
    (placed : ∀ token, s.place w.files token = (.error fault, files')) :
    ∃ u, s.machine.write w c = (if (Document.toJson t').isWritable
        then StoreFault.response (.error fault) else .error .tooManyDigits, [], u) ∧
      u.files = if (Document.toJson t').isWritable then files' else w.files := by
  have stamped := files_stamped w c
  cases fits : (Document.toJson t').isWritable with
  | false =>
    refine ⟨if c.isStamped then w.tick else w, ?_, stamped⟩
    simp only [machine, write, loads, changed, commit, fits, StoreFault.response,
      Bool.false_eq_true, if_false]
  | true =>
    refine ⟨{ (if c.isStamped then w.tick else w).countSeal with files := files' }, ?_, rfl⟩
    simp only [machine, write, loads, changed, commit, fits, if_true, stamped, placed]

theorem final_commit {w : World} {fault : StoreFault} (failed : (s.commit w t).1 = .error fault) :
    fault.Final := by
  rw [commit] at failed
  split at failed
  · simp only [place] at failed
    split at failed
    · cases failed
      exact s.final_unwritten _
    · split at failed
      · cases failed
        exact s.final_unwritten _
      · cases failed
  · cases failed
    rintro e ⟨⟩

/-- A table that is written is served as it is read, whatever was served before. -/
theorem commit_serves (lawful : s.cipher.Lawful) {w : World} (serves : s.Serves w.files t)
    {t' : Table} (storable : t'.Storable) :
    ∃ w', s.commit w t' = (.ok (), w') ∧ s.Serves w'.files t'.reread := by
  have typed : ∀ r ∈ t', r.WellTyped := fun r member => (storable.records r member).toWellTyped
  have fits := Json.isWritable_plain _ (Document.isPlain_toJson typed)
  obtain ⟨files', placed, keeps⟩ :=
    serves.room (s.cipher.encrypt w.second w.nextStart (Document.encode t'))
  refine ⟨{ w.countSeal with files := files' }, ?_,
    (Holds.document keeps (lawful _ _ _ w.length_nextStart)).serves storable⟩
  simp only [commit, fits, if_true, placed]

/-- A change on a file that serves a table: it goes as on the table that is kept. -/
theorem write_kept (lawful : s.cipher.Lawful) {w : World} (serves : s.Serves w.files t)
    (storable : t.Storable) {c : Write} (new : c.Textual) (valid : w.now.Valid) :
    let kept := ((Keeper.sealed s).machine w.now).write t c
    ∃ w', s.machine.write w c = (kept.1, kept.2.1, w') ∧
      s.Serves w'.files kept.2.2 ∧ kept.2.2.Storable ∧
      ∀ e, kept.1 = .ok (.error e) → w' = w := by
  cases changed : t.write w.now c with
  | error e =>
    rw [Keeper.write_error changed]
    refine ⟨w, ?_, serves, storable, fun _ _ => rfl⟩
    simp only [machine, write, serves.loads, changed, StoreFault.response]
  | ok t' =>
    have still : s.Serves (if c.isStamped then w.tick else w).files t := by
      rw [files_stamped]
      exact serves
    have textual := Table.textual_write storable.textual new changed
    cases room : (Keeper.sealed s).holds t' with
    | true =>
      have kept := storable.write (Table.wellTyped_kept new changed room)
        (Stamp.legible_ofMicros valid) changed
      obtain ⟨w', committed, served⟩ := commit_serves lawful still kept
      rw [Keeper.write_kept changed room]
      refine ⟨w', ?_, served, kept.reread, ?_⟩
      · simp only [machine, write, serves.loads, changed, committed, StoreFault.response,
          Keeper.sealed]
      · rintro e ⟨⟩
    | false =>
      have long := (Document.isWritable_textual textual).trans room
      rw [Keeper.write_refused changed room]
      refine ⟨if c.isStamped then w.tick else w, ?_, still, storable, ?_⟩
      · simp only [machine, write, serves.loads, changed, commit, long, StoreFault.response,
          Bool.false_eq_true, if_false]
      · rintro e ⟨⟩

theorem machine_query_served {w : World} (serves : s.Serves w.files t) (q : Query) :
    s.machine.query w q = (.ok (t.query q), w) := by
  simp only [machine, query, serves.loads]
  cases t.query q <;> rfl

end SealedFile

namespace Script

variable {α : Type} {s : SealedFile} {t : Table}

theorem course_kept (lawful : s.cipher.Lawful) {script : Script α}
    (changes : script.ChangesOnce Write.Textual) {w : World} (serves : s.Serves w.files t)
    (storable : t.Storable) (valid : w.now.Valid) :
    let kept := script.course ((Keeper.sealed s).machine w.now) t
    (script.course s.machine w).1 = kept.1 ∧
      s.Serves (script.course s.machine w).2.files kept.2 ∧ kept.2.Storable := by
  induction script generalizing t with
  | done result => exact ⟨rfl, serves, storable⟩
  | log entry next ih =>
    obtain ⟨same, served, still⟩ := ih changes serves storable
    exact ⟨congrArg (Course.behind [entry]) same, served, still⟩
  | query q next ih =>
    obtain ⟨same, served, still⟩ := ih (t.query q) (changes _) serves storable
    simp only [course, SealedFile.machine_query_served serves, Keeper.machine]
    exact ⟨congrArg (Course.after _) same, served, still⟩
  | write c next ih =>
    obtain ⟨new, last, others⟩ := changes
    obtain ⟨w', written, served, still, same⟩ :=
      SealedFile.write_kept lawful serves storable new valid
    simp only [course, written]
    generalize ((Keeper.sealed s).machine w.now).write t c = kept at served still same
    rcases kept with ⟨why | (e | _), entries, t'⟩
    · exact ⟨rfl, served, still⟩
    · cases same e rfl
      obtain ⟨rest, served, still⟩ := ih (.error e) (others e) served still
      exact ⟨congrArg (fun c => (Course.after _ c).behind entries) rest, served, still⟩
    · obtain ⟨result, ends⟩ := last (.ok ()) trivial
      obtain ⟨c, -, everywhere⟩ := course_of_ending ends
      simp only [everywhere]
      exact ⟨trivial, served, still⟩

end Script

namespace SealedFile

variable {s : SealedFile} {t : Table}

def Keeps (s : SealedFile) (w : World) (t : Table) : Prop :=
  s.Serves w.files t ∧ t.Storable

theorem perform_kept (lawful : s.cipher.Lawful) {step : Int × Request} {w : World}
    (keeps : s.Keeps w t) (valid : (Moment.ofMicros step.1).Valid) :
    ((Keeper.sealed s).perform step t).1 = (s.perform step w).1 ∧
      s.Keeps (s.perform step w).2 ((Keeper.sealed s).perform step t).2 := by
  obtain ⟨same, kept⟩ := Script.course_kept (w := { w with clock := step.1 }) lawful
    (step.2.changesOnce.mono fun _ asks => asks.textual) keeps.1 keeps.2 valid
  exact ⟨same.symm, kept⟩

theorem courses_kept (lawful : s.cipher.Lawful) {steps : List (Int × Request)}
    (valid : ∀ step ∈ steps, (Moment.ofMicros step.1).Valid) {w : World} (keeps : s.Keeps w t) :
    (inTurn s.perform steps w).1 = (inTurn (Keeper.sealed s).perform steps t).1 := by
  have same := inTurn_related (f := id) (g := id) s.Keeps
    (fun step member w t keeps => perform_kept lawful keeps (valid step member)) keeps
  rw [List.map_id, List.map_id] at same
  exact same.symm

end SealedFile

end SecretStore
