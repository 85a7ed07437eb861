import SecretStore.Proofs.Files.Beside
import SecretStore.Proofs.Store.Keeper

/-!
What a failure leaves behind. A table in memory stays as it is. A sealed file
fails before it writes, or else there was no file and none can be written: then
all that is left is directories above the path, and a path that goes through one
of them and back may lead to a file that is not to be written. Two worlds that
differ in how a table was sealed, or in directories that help neither, show the
same to every script. So a failure shows later only where the directories that it
left show.
-/

namespace SecretStore

/-- A machine on which queries change nothing, nor do changes that found nothing to
change or a record in their way. -/
structure Machine.Steady {σ : Type} (m : Machine σ) : Prop where
  query : ∀ s q, (m.query s q).2 = s
  write : ∀ s c e, (m.write s c).1 = .ok (.error e) → e.kind ≠ .other → (m.write s c).2.2 = s

namespace Script

variable {α σ σ' : Type} {m : Machine σ} {m' : Machine σ'}

theorem course_changeless (steady : m.Steady) {script : Script α}
    (changeless : script.ChangesOnce fun _ => False) (s : σ) : (script.course m s).2 = s := by
  induction script generalizing s with
  | done result => rfl
  | log entry next ih => exact ih changeless s
  | query q next ih =>
    have still := steady.query s q
    simp only [course]
    rcases answered : m.query s q with ⟨why | answer, s'⟩
    · rw [answered] at still
      exact still
    · rw [answered] at still
      exact (ih answer (changeless answer) s').trans still
  | write c next => exact changeless.1.elim

theorem course_failed (steady : m.Steady) {kind : Write → Prop} {script : Script α}
    (changes : script.ChangesOnce kind) (rewards : script.Rewards) {s : σ}
    (failed : ∀ a, (script.course m s).1.result ≠ .ok (.ok a)) :
    (script.course m s).2 = s ∨
      ∃ c, (m.write s c).1 ≠ .ok (.ok ()) ∧ (script.course m s).2 = (m.write s c).2.2 := by
  induction script with
  | done result => exact .inl rfl
  | log entry next ih => exact ih changes rewards failed
  | query q next ih =>
    have still := steady.query s q
    simp only [course] at failed ⊢
    rcases answered : m.query s q with ⟨why | answer, s'⟩
    · rw [answered] at still
      exact .inl still
    · rw [answered] at still failed
      cases still
      exact ih answer (changes answer) (rewards answer) failed
  | write c next ih =>
    obtain ⟨-, last, others⟩ := changes
    obtain ⟨⟨a, rewarded⟩, rest⟩ := rewards
    simp only [course] at failed ⊢
    rcases answered : m.write s c with ⟨why | (e | _), entries, s'⟩
    · exact .inr ⟨c, by rw [answered]; rintro ⟨⟩, by rw [answered]⟩
    · rw [answered] at failed
      by_cases settled : e.kind = .other
      · obtain ⟨result, ends⟩ := last (.error e) settled
        obtain ⟨course, -, everywhere⟩ := course_of_ending ends
        exact .inr ⟨c, by rw [answered]; rintro ⟨⟩, by simp only [everywhere, answered]⟩
      · have still := steady.write s c e (by rw [answered]) settled
        rw [answered] at still
        cases still
        exact ih (.error e) (others e) (rest e) failed
    · -- A change that was made is rewarded, so the script did not fail.
      rw [answered] at failed
      obtain ⟨course, final, everywhere⟩ := course_of_ending rewarded
      simp only [everywhere] at failed
      exact absurd final (failed a)

theorem course_alike {related : σ → σ' → Prop}
    (query : ∀ s s', related s s' → ∀ q, ∃ response t t', m.query s q = (response, t) ∧
      m'.query s' q = (response, t') ∧ related t t')
    (write : ∀ s s', related s s' → ∀ c, ∃ response entries t t',
      m.write s c = (response, entries, t) ∧ m'.write s' c = (response, entries, t') ∧
        related t t') (script : Script α) {s : σ} {s' : σ'} (start : related s s') :
    (script.course m s).1 = (script.course m' s').1 ∧
      related (script.course m s).2 (script.course m' s').2 := by
  induction script generalizing s s' with
  | done result => exact ⟨rfl, start⟩
  | log entry next ih =>
    obtain ⟨same, ended⟩ := ih start
    exact ⟨congrArg (Course.behind [entry]) same, ended⟩
  | query q next ih =>
    obtain ⟨response, t, t', asked, asked', still⟩ := query s s' start q
    simp only [course, asked, asked']
    rcases response with why | answer
    · exact ⟨rfl, still⟩
    · obtain ⟨same, ended⟩ := ih answer still
      exact ⟨congrArg (Course.after _) same, ended⟩
  | write c next ih =>
    obtain ⟨response, entries, t, t', asked, asked', still⟩ := write s s' start c
    simp only [course, asked, asked']
    rcases response with why | answer
    · exact ⟨rfl, still⟩
    · obtain ⟨same, ended⟩ := ih answer still
      exact ⟨congrArg (fun c => (Course.after _ c).behind entries) same, ended⟩

end Script

namespace Script

variable {σ : Type}

def ask (q : Query) : Script Unit :=
  .query q fun _ => .done (.ok ())

def attempt (c : Write) : Script Unit :=
  .write c fun _ => .done (.ok ())

theorem calls_ask (m : Machine σ) (q : Query) (s : σ) :
    ((ask q).course m s).1.calls = [.query q (m.query s q).1] := by
  simp only [ask, course]
  rcases m.query s q with ⟨why | answer, s'⟩ <;> rfl

theorem calls_attempt (m : Machine σ) (c : Write) (s : σ) :
    ((attempt c).course m s).1.calls = [.write c (m.write s c).1] := by
  simp only [attempt, course]
  rcases m.write s c with ⟨why | answer, entries, s'⟩ <;> rfl

end Script

namespace Table

theorem steady_store (now : Moment) : (store now).machine.Steady where
  query _ _ := rfl
  write t c e failed _ := by
    simp only [Script.Store.machine] at failed ⊢
    cases changed : t.write now c with
    | error e => rw [store_write_error changed]
    | ok t' =>
      rw [store_write_ok changed] at failed
      cases failed

theorem store_failed {now : Moment} {t : Table} {c : Write}
    (failed : ((store now).write t c).1 ≠ .ok ()) : ((store now).write t c).2 = t := by
  cases changed : t.write now c with
  | error e => rw [store_write_error changed]
  | ok t' =>
    rw [store_write_ok changed] at failed
    exact absurd rfl failed

theorem perform_course (now : Moment) (r : Request) (t : Table) :
    (r.script.course (store now).machine t).1.result = .ok (perform now r t).1 ∧
      (r.script.course (store now).machine t).2 = (perform now r t).2 := by
  obtain ⟨result, -, left⟩ := Script.course_run (store now) r.script t
  exact ⟨result, left⟩

theorem perform_failed {now : Moment} {r : Request} {t : Table} {e : KeyringError}
    (failed : (perform now r t).1 = .error e) : (perform now r t).2 = t := by
  obtain ⟨result, left⟩ := perform_course now r t
  have unanswered : ∀ a, (r.script.course (store now).machine t).1.result ≠ .ok (.ok a) := by
    rw [result, failed]
    exact fun _ => nofun
  rw [← left]
  rcases Script.course_failed (steady_store now) r.changesOnce r.rewards unanswered
    with same | ⟨c, unmade, same⟩
  · exact same
  · refine same.trans (store_failed fun made => unmade ?_)
    simp only [Script.Store.machine, made]

theorem perform_looks {now : Moment} {r : Request} (looks : r.operation.Looks) (t : Table) :
    (perform now r t).2 = t := by
  rw [← (perform_course now r t).2]
  exact Script.course_changeless (steady_store now) (Request.changeless looks) t

end Table

namespace SealedFile

variable {s : SealedFile} {files files' : FileTree} {w w' : World}

/-- Nothing is at the path, and no file can be written there: an attempt fails and
leaves a tree that may have more directories. -/
structure Barred (s : SealedFile) (files : FileTree) (fault : StoreFault) (files' : FileTree) :
    Prop where
  absent : files.isThere s.path = .ok false
  placed : ∀ token, s.place files token = (.error fault, files')

theorem Barred.load {fault : StoreFault} (barred : s.Barred files fault files') :
    s.load files = .ok [] := by
  rw [SealedFile.load, barred.absent]

theorem Barred.made {fault : StoreFault} (barred : s.Barred files fault files') :
    files' = (files.makeDirectories s.path.parent).2 := by
  have placed := barred.placed []
  simp only [place] at placed
  split at placed
  · next made =>
    cases placed
    rw [made]
  · next made =>
    split at placed
    · cases placed
      rw [made]
    · cases placed

theorem Barred.again {fault : StoreFault} (barred : s.Barred files fault files') :
    ∃ fault', ∀ token, s.place files' token = (.error fault', files') := by
  have placed := barred.placed
  rcases made : files.makeDirectories s.path.parent with ⟨why | _, above⟩
  · obtain rfl : files' = above := barred.made.trans (congrArg Prod.snd made)
    obtain ⟨why', again⟩ := FileTree.makeDirectories_again made
    exact ⟨s.unwritten why', fun token => by simp only [place, again]⟩
  · obtain rfl : files' = above := barred.made.trans (congrArg Prod.snd made)
    have again := FileTree.makeDirectories_there (FileTree.look_makeDirectories made)
    refine ⟨fault, fun token => ?_⟩
    rw [← placed token]
    simp only [place, made, again]

theorem Barred.closed {fault : StoreFault} (barred : s.Barred files fault files') :
    files'.Vacant s.path ∨ files'.bars s.path .write = true := by
  rcases s.place_cases files with room | ⟨-, -, closed, -⟩
  · obtain ⟨above, room⟩ := room []
    rw [barred.placed] at room
    cases room
  · rwa [← barred.made] at closed

theorem place_over {old : Bytes} (there : files.look s.path = .ok (.file old)) (token : Bytes) :
    files.bars s.path .write = true ∧
        s.place files token = (.error (s.unwritten ⟨.permission, s.path⟩), files) ∨
      files.bars s.path .write = false ∧ ∃ files', s.place files token = (.ok (), files') ∧
        files'.look s.path = .ok (.file token) ∧
          ∀ right, files'.bars s.path right = files.bars s.path right := by
  have made := FileTree.makeDirectories_there (FileTree.look_parent there)
  rcases FileTree.write_over there token with ⟨barred, refused⟩ | ⟨allowed, files', written, kept⟩
  · exact .inl ⟨barred, by simp only [place, made, refused]⟩
  · exact .inr ⟨allowed, files', by simp only [place, made, written], kept⟩

theorem place_rights {token token' : Bytes} {left left' : FileTree}
    (placed : s.place files token = (.ok (), left))
    (placed' : s.place files token' = (.ok (), left')) :
    left.look s.path = .ok (.file token) ∧ left'.look s.path = .ok (.file token') ∧
      ∀ right, left'.bars s.path right = left.bars s.path right := by
  simp only [place] at placed placed'
  rcases made : files.makeDirectories s.path.parent with ⟨why | _, above⟩
  · rw [made] at placed
    cases placed
  · have look {token : Bytes} {left : FileTree} (written : above.write s.path token = .ok left) :
        left.look s.path = .ok (.file token) := by
      obtain ⟨goal, located, free, puts, -⟩ := FileTree.write_eq_ok written
      exact puts.look free located
    rw [made] at placed placed'
    cases written : above.write s.path token with
    | error why =>
      simp only [written] at placed
      cases placed
    | ok one =>
      cases written' : above.write s.path token' with
      | error why =>
        simp only [written'] at placed'
        cases placed'
      | ok other =>
        simp only [written] at placed
        simp only [written'] at placed'
        cases placed
        cases placed'
        exact ⟨look written, look written', fun right => FileTree.bars_write written' written right⟩

theorem there_of_load {t : Table} (loads : s.load files = .ok t) :
    files.isThere s.path = .ok false ∨ ∃ token, files.look s.path = .ok (.file token) := by
  rw [load] at loads
  split at loads
  · cases loads
  · next absent => exact .inl absent
  · split at loads
    · cases loads
    · next read => exact .inr ⟨_, (FileTree.read_ok_iff.mp read).1⟩

theorem files_write_failed {c : Write} (failed : (s.write w c).1 ≠ .ok ()) :
    (s.write w c).2.2.files = w.files ∨
      ∃ fault, s.Barred w.files fault (s.write w c).2.2.files := by
  have stamped := files_stamped w c
  cases loads : s.load w.files with
  | error fault => exact .inl (by simp only [write, loads])
  | ok t =>
    cases changed : t.write w.now c with
    | error e => exact .inl (by simp only [write, loads, changed])
    | ok t' =>
      cases fits : (Document.toJson t').isWritable with
      | false =>
        refine .inl ?_
        simp only [write, loads, changed, commit, fits, Bool.false_eq_true, if_false, stamped]
      | true =>
        rcases s.place_cases w.files with room | ⟨fault, -, -, placed⟩
        · refine absurd ?_ failed
          simp only [write, loads, changed, commit, fits, if_true, stamped]
          generalize s.cipher.encrypt _ _ _ = token
          obtain ⟨files', placed⟩ := room token
          rw [placed]
        · have left : (s.write w c).2.2.files = (w.files.makeDirectories s.path.parent).2 := by
            simp only [write, loads, changed, commit, fits, if_true, stamped, placed]
          rw [left]
          rcases there_of_load loads with absent | ⟨token, there⟩
          · exact .inr ⟨fault, absent, placed⟩
          · rw [FileTree.makeDirectories_there (FileTree.look_parent there)]
            exact .inl rfl

theorem step_commit (s : SealedFile) (w : World) (t : Table) : (s.commit w t).2.step = w.step := by
  rw [commit]
  split <;> rfl

theorem step_write (s : SealedFile) (w : World) (c : Write) : (s.write w c).2.2.step = w.step := by
  have stamped : (if c.isStamped then w.tick else w).step = w.step := by
    split <;> rfl
  cases loads : s.load w.files with
  | error fault => simp only [write, loads]
  | ok t =>
    cases changed : t.write w.now c with
    | error e => simp only [write, loads, changed]
    | ok t' =>
      have committed := (s.step_commit (if c.isStamped then w.tick else w) t').trans stamped
      rw [← committed]
      simp only [write, loads, changed]
      rcases s.commit (if c.isStamped then w.tick else w) t' with ⟨fault | _, u⟩ <;> rfl

/-- Trees on which a sealed file shows the same: they are equal, or they have files that open
alike and with which the same may be done, or they read alike and no file can be written in
either, for the same reason and with the same tree left. -/
inductive Matched (s : SealedFile) (files files' : FileTree) : Prop
  | equal (same : files = files')
  | kept {token token' : Bytes} (there : files.look s.path = .ok (.file token))
      (there' : files'.look s.path = .ok (.file token'))
      (rights : ∀ right, files'.bars s.path right = files.bars s.path right)
      (opens : s.cipher.decrypt? token' = s.cipher.decrypt? token)
  | shut {fault : StoreFault} (loads : s.load files' = s.load files)
      (placed : ∀ token, s.place files token = (.error fault, files'))
      (placed' : ∀ token, s.place files' token = (.error fault, files'))

theorem Matched.load (matched : s.Matched files files') : s.load files' = s.load files := by
  cases matched with
  | equal same => rw [same]
  | kept there there' rights opens =>
    have read (token : Bytes) {files : FileTree} (there : files.look s.path = .ok (.file token)) :
        files.read s.path = if files.bars s.path .read then .error ⟨.permission, s.path⟩
          else .ok token := by
      rw [FileTree.read, there]
    simp only [SealedFile.load, FileTree.isThere_of_look there, FileTree.isThere_of_look there',
      read _ there, read _ there', rights]
    cases files.bars s.path .read with
    | true => rfl
    | false => simp only [Bool.false_eq_true, if_false, opens]
  | shut loads => exact loads

theorem Matched.place (matched : s.Matched files files') {token token' : Bytes}
    (opens : s.cipher.decrypt? token' = s.cipher.decrypt? token) :
    (s.place files' token').1 = (s.place files token).1 ∧
      s.Matched (s.place files token).2 (s.place files' token').2 := by
  cases matched with
  | equal same =>
    subst same
    rcases s.place_cases files with room | ⟨fault, -, -, placed⟩
    · obtain ⟨left, done⟩ := room token
      obtain ⟨left', done'⟩ := room token'
      obtain ⟨there, there', rights⟩ := place_rights done done'
      rw [done, done']
      exact ⟨rfl, .kept there there' rights opens⟩
    · rw [placed, placed]
      exact ⟨rfl, .equal rfl⟩
  | kept there there' rights same =>
    rcases place_over there token with ⟨barred, refused⟩ | ⟨allowed, left, done, held, still⟩
    · rcases place_over there' token' with ⟨-, refused'⟩ | ⟨allowed', -⟩
      · rw [refused, refused']
        exact ⟨rfl, .kept there there' rights same⟩
      · cases barred.symm.trans ((rights _).symm.trans allowed')
    · rcases place_over there' token' with ⟨barred', -⟩ | ⟨-, left', done', held', still'⟩
      · cases allowed.symm.trans ((rights _).symm.trans barred')
      · rw [done, done']
        refine ⟨rfl, .kept held held' (fun right => ?_) opens⟩
        rw [still', still, rights]
  | shut loads placed placed' =>
    rw [placed, placed']
    exact ⟨rfl, .equal rfl⟩

/-- Worlds that show the same on a sealed file while their clocks agree. -/
structure Twins (s : SealedFile) (w w' : World) : Prop where
  clock : w'.clock = w.clock
  step : w'.step = w.step
  files : s.Matched w.files w'.files

theorem Twins.commit (lawful : s.cipher.Lawful) (twins : s.Twins w w') (t : Table) :
    ∃ result u u', s.commit w t = (result, u) ∧ s.commit w' t = (result, u') ∧ s.Twins u u' := by
  cases fits : (Document.toJson t).isWritable with
  | false =>
    refine ⟨.error (.crashed .tooManyDigits), w, w', ?_, ?_, twins⟩ <;>
      simp only [SealedFile.commit, fits, Bool.false_eq_true, if_false]
  | true =>
    have opens (u : World) := lawful u.second u.nextStart (Document.encode t) u.length_nextStart
    obtain ⟨same, matched⟩ := twins.files.place ((opens w').trans (opens w).symm)
    simp only [SealedFile.commit, fits, if_true]
    exact ⟨_, _, _, rfl, Prod.ext same rfl, twins.clock, twins.step, matched⟩

theorem Twins.ticked (twins : s.Twins w w') (c : Write) :
    s.Twins (if c.isStamped then w.tick else w) (if c.isStamped then w'.tick else w') := by
  split
  · refine ⟨?_, twins.step, twins.files⟩
    simp only [World.tick, twins.clock, twins.step]
  · exact twins

theorem Twins.write (lawful : s.cipher.Lawful) (twins : s.Twins w w') (c : Write) :
    ∃ response entries u u', s.machine.write w c = (response, entries, u) ∧
      s.machine.write w' c = (response, entries, u') ∧ s.Twins u u' := by
  have now : w'.now = w.now := by rw [World.now, World.now, twins.clock]
  have same := twins.files.load
  cases loads : s.load w.files with
  | error fault =>
    rw [loads] at same
    refine ⟨StoreFault.response (.error fault), [], w, w', ?_, ?_, twins⟩
    · simp only [machine, SealedFile.write, loads]
    · simp only [machine, SealedFile.write, same]
  | ok t =>
    rw [loads] at same
    cases changed : t.write w.now c with
    | error e =>
      refine ⟨.ok (.error e), [], w, w', ?_, ?_, twins⟩
      · simp only [machine, SealedFile.write, loads, changed, StoreFault.response]
      · simp only [machine, SealedFile.write, same, now, changed, StoreFault.response]
    | ok t' =>
      obtain ⟨result, u, u', done, done', still⟩ := (twins.ticked c).commit lawful t'
      simp only [machine, SealedFile.write, loads, same, now, changed, done, done']
      rcases result with fault | _ <;> exact ⟨_, _, _, _, rfl, rfl, still⟩

theorem Twins.course {α : Type} (lawful : s.cipher.Lawful) (twins : s.Twins w w')
    (script : Script α) :
    (script.course s.machine w).1 = (script.course s.machine w').1 ∧
      s.Twins (script.course s.machine w).2 (script.course s.machine w').2 := by
  refine Script.course_alike (fun w w' twins q => ?_) (fun w w' twins c => twins.write lawful c)
    script twins
  exact ⟨_, w, w', rfl, by simp only [machine, query, twins.files.load], twins⟩

def play {α : Type} (s : SealedFile) (step : Int × Script α) (w : World) : Course α × World :=
  step.2.course s.machine { w with clock := step.1 }

theorem courses_matched {α : Type} (lawful : s.cipher.Lawful) (steps : List (Int × Script α))
    (step : w'.step = w.step) (matched : s.Matched w.files w'.files) :
    (inTurn s.play steps w').1 = (inTurn s.play steps w).1 := by
  have one : ∀ step ∈ steps, ∀ w w' : World, w'.step = w.step ∧ s.Matched w.files w'.files →
      (s.play (id step) w').1 = id (s.play step w).1 ∧
        (s.play (id step) w').2.step = (s.play step w).2.step ∧
          s.Matched (s.play step w).2.files (s.play (id step) w').2.files := by
    rintro ⟨clock, script⟩ - w w' ⟨same, matched⟩
    have twins : s.Twins { w with clock } { w' with clock } := ⟨rfl, same, matched⟩
    obtain ⟨shown, still⟩ := twins.course lawful script
    exact ⟨shown.symm, still.step, still.files⟩
  have same := inTurn_related
    (fun w w' : World => w'.step = w.step ∧ s.Matched w.files w'.files) one
    ⟨step, matched⟩
  rwa [List.map_id, List.map_id] at same

theorem steady_machine (s : SealedFile) : s.machine.Steady where
  query _ _ := rfl
  write w c e failed unsettled := by
    cases loads : s.load w.files with
    | error fault => simp only [machine, write, loads]
    | ok t =>
      cases changed : t.write w.now c with
      | error e => simp only [machine, write, loads, changed]
      | ok t' =>
        simp only [machine, write, loads, changed] at failed ⊢
        rcases done : s.commit (if c.isStamped then w.tick else w) t' with ⟨fault | _, u⟩
        · have final := final_commit (congrArg Prod.fst done)
          rw [done] at failed
          exact absurd (final.settled failed) unsettled
        · rw [done] at failed
          cases failed

theorem attempt_barred {r : Record} (typed : r.WellTyped) {fault : StoreFault}
    (loads : s.load w.files = .ok [])
    (placed : ∀ token, s.place w.files token = (.error fault, files')) :
    (s.machine.write w (.add r)).1 = StoreFault.response (.error fault) := by
  let stamped : Record := { r with created := some w.now, modified := some w.now }
  have changed : Table.write w.now [] (.add r) = .ok [stamped] := rfl
  have fits : (Document.toJson [stamped]).isWritable = true := by
    refine Json.isWritable_plain _ (Document.isPlain_toJson fun s member => ?_)
    rw [List.mem_singleton.mp member]
    exact ⟨typed.service, typed.account, typed.label, typed.description, typed.synchronizable,
      typed.flags⟩
  obtain ⟨u, written, -⟩ := write_unplaced loads changed placed
  rw [written, fits, if_pos rfl]

structure LeftAlone (s : SealedFile) (w w' : World) : Prop where
  /-- The bytes at the path are those that were there, and a file that was missing is missing,
  but for one that the directories made lead to and that is not to be written. -/
  content : ∀ bytes, (w.files.look s.path = .ok (.file bytes) →
      w'.files.look s.path = .ok (.file bytes)) ∧
    (w'.files.look s.path = .ok (.file bytes) → w.files.look s.path = .ok (.file bytes) ∨
      w.files.isThere s.path = .ok false ∧ w'.files.bars s.path .write = true)
  /-- Wherever it is, no file was made, changed or lost. -/
  bytes : ∀ place bytes, w'.files.entry? place = some (.file bytes) ↔
    w.files.entry? place = some (.file bytes)
  /-- Beside them nothing has changed, but that directories may have been made if nothing
  was at the path. -/
  files : w'.files = w.files ∨ w.files.isThere s.path = .ok false ∧
    w'.files = (w.files.makeDirectories s.path.parent).2
  /-- Whatever is asked later shows nothing of the failure if the directories do not show in
  what is read from the path nor in what an attempt to write meets. -/
  later : s.load w'.files = s.load w.files →
    (∀ token, (s.place w'.files token).1 = (s.place w.files token).1) →
    ∀ (α : Type) (steps : List (Int × Script α)),
      (inTurn s.play steps w').1 = (inTurn s.play steps w).1
  /-- If they lead to no file, then only if. -/
  shown : w'.files = w.files ∨ w'.files.Vacant s.path →
    (∀ (α : Type) (steps : List (Int × Script α)),
      (inTurn s.play steps w').1 = (inTurn s.play steps w).1) →
    s.load w'.files = s.load w.files ∧
      ∀ token, (s.place w'.files token).1 = (s.place w.files token).1

theorem leftAlone_of_equal (lawful : s.cipher.Lawful) (step : w'.step = w.step)
    (same : w'.files = w.files) : s.LeftAlone w w' where
  content bytes := by
    rw [same]
    exact ⟨id, .inl⟩
  bytes place bytes := by rw [same]
  files := .inl same
  later _ _ α steps := courses_matched lawful steps step (.equal same.symm)
  shown _ _ := by
    rw [same]
    exact ⟨rfl, fun _ => rfl⟩

theorem leftAlone_of_barred (lawful : s.cipher.Lawful) (step : w'.step = w.step)
    {fault : StoreFault} (barred : s.Barred w.files fault w'.files) : s.LeftAlone w w' where
  content bytes := by
    have vacant := FileTree.vacant_of_isThere barred.absent
    refine ⟨fun there => absurd there (vacant bytes), fun there => .inr ⟨barred.absent, ?_⟩⟩
    exact barred.closed.resolve_left fun vacant => vacant bytes there
  bytes place bytes := by
    rw [barred.made]
    exact FileTree.makeDirectories_file_iff ..
  files := .inr ⟨barred.absent, barred.made⟩
  later loads placed α steps := by
    obtain ⟨fault', again⟩ := barred.again
    have same := placed []
    rw [again, barred.placed] at same
    cases same
    exact courses_matched lawful steps step (.shut loads barred.placed again)
  shown still shown := by
    obtain ⟨fault', again⟩ := barred.again
    have vacant : w'.files.Vacant s.path :=
      still.elim (fun same => same ▸ FileTree.vacant_of_isThere barred.absent) id
    have alike (script : Script Unit) :
        ((script.course s.machine { w' with clock := 0 }).1).calls =
          ((script.course s.machine { w with clock := 0 }).1).calls :=
      congrArg Course.calls (List.cons.inj (shown Unit [(0, script)])).1
    -- A query for nothing shows what is read, and adding a record what an attempt meets.
    have loads : s.load w'.files = .ok [] := by
      rcases load_vacant s.levels vacant with empty | ⟨fault, final, failed⟩
      · exact empty s.cipher
      · have asked := alike (.ask { service := "" })
        rw [Script.calls_ask, Script.calls_ask] at asked
        have answers : StoreFault.response (s.query w'.files { service := "" }) =
            StoreFault.response (s.query w.files { service := "" }) :=
          (Call.query.inj (List.cons.inj asked).1).2
        simp only [query, failed s.cipher, barred.load] at answers
        cases fault with
        | reported e => cases answers; cases final _ rfl
        | crashed why => cases answers
    refine ⟨loads.trans barred.load.symm, fun token => ?_⟩
    have tried := alike (.attempt (.add { service := .str "", account := .str "" }))
    have typed : Record.WellTyped { service := .str "", account := .str "" } :=
      ⟨⟨_, rfl⟩, ⟨_, rfl⟩, ⟨_, rfl⟩, ⟨_, rfl⟩, ⟨_, rfl⟩, by rintro p ⟨⟩⟩
    rw [Script.calls_attempt, Script.calls_attempt,
      attempt_barred (w := { w' with clock := 0 }) typed loads again,
      attempt_barred (w := { w with clock := 0 }) typed barred.load barred.placed] at tried
    have same : fault' = fault := by
      have answers := (Call.write.inj (List.cons.inj tried).1).2
      cases fault <;> cases fault' <;> cases answers <;> rfl
    rw [again, barred.placed, same]

theorem leftAlone_write (lawful : s.cipher.Lawful) {c : Write}
    (failed : (s.write w c).1 ≠ .ok ()) : s.LeftAlone w (s.write w c).2.2 := by
  rcases files_write_failed failed with same | ⟨fault, barred⟩
  · exact leftAlone_of_equal lawful (s.step_write w c) same
  · exact leftAlone_of_barred lawful (s.step_write w c) barred

theorem leftAlone_request (lawful : s.cipher.Lawful) {r : Request}
    (failed : ∀ a, (r.script.runSealed s w).1 ≠ .ok (.ok a)) :
    s.LeftAlone w (r.script.runSealed s w).2.2 := by
  obtain ⟨result, -, left⟩ := r.script.course_runSealed s w
  rw [← left]
  have unanswered : ∀ a, (r.script.course s.machine w).1.result ≠ .ok (.ok a) := by
    rwa [result]
  rcases Script.course_failed s.steady_machine r.changesOnce r.rewards unanswered
    with same | ⟨c, unmade, same⟩
  · rw [same]
    exact leftAlone_of_equal lawful rfl rfl
  · rw [same]
    refine leftAlone_write lawful fun made => unmade ?_
    simp only [machine, made, StoreFault.response]

theorem runSealed_looks {r : Request} (looks : r.operation.Looks) (w : World) :
    (r.script.runSealed s w).2.2 = w := by
  rw [← (r.script.course_runSealed s w).2.2]
  exact Script.course_changeless s.steady_machine (Request.changeless looks) w

end SealedFile

/-- What fails leaves a store as it was. In memory, the table is the one that it was,
whether a native call fails or a request. On a sealed file, whatever is there and
whatever keeps it from being read or written, the file is the one that it was, or is
still missing. A request that only looks changes nothing, whether it fails or not. -/
theorem failures_leave_stores :
    (∀ (now : Moment) (t : Table),
      (∀ c, ((Table.store now).write t c).1 ≠ .ok () → ((Table.store now).write t c).2 = t) ∧
      (∀ q, ((Table.store now).query t q).2 = t) ∧
      ∀ r, ((∃ e, (Table.perform now r t).1 = .error e) ∨ r.operation.Looks) →
        (Table.perform now r t).2 = t) ∧
    ∀ s : SealedFile, s.cipher.Lawful → ∀ w : World,
      (∀ c, (s.write w c).1 ≠ .ok () → s.LeftAlone w (s.write w c).2.2) ∧
      (∀ r : Request, (∀ a, (r.script.runSealed s w).1 ≠ .ok (.ok a)) →
        s.LeftAlone w (r.script.runSealed s w).2.2) ∧
      ∀ r : Request, r.operation.Looks → (r.script.runSealed s w).2.2 = w := by
  refine ⟨fun now t => ⟨fun c => Table.store_failed, fun q => rfl, ?_⟩, fun s lawful w => ?_⟩
  · rintro r (⟨e, failed⟩ | looks)
    · exact Table.perform_failed failed
    · exact Table.perform_looks looks t
  · exact ⟨fun c => SealedFile.leftAlone_write lawful, fun r => SealedFile.leftAlone_request lawful,
      fun r looks => SealedFile.runSealed_looks looks w⟩

/-- A path through a directory that is missing, and back. The change that fails makes
the directory, and it is this directory that is found at the path from then on: what
answered that there is no record does not answer any more. -/
theorem failed_change_leaves_directory :
    let file : SealedFile := ⟨⟨"", ["x", ".."]⟩, Token.cipher (List.replicate 32 0), .standard⟩
    let add : Write := .add { service := .str "s", account := .str "a" }
    let query : Query := { service := "s" }
    let left := (file.write {} add).2.2
    (file.write {} add).1 = .error (.reported
        ⟨.other, "cannot write x/..: [Errno 21] Is a directory: 'x/..'"⟩) ∧
      file.query {} query = .error (.reported (Table.notFound query)) ∧
      file.query left.files query = .error (.reported
        ⟨.other, "cannot read x/..: [Errno 21] Is a directory: 'x/..'"⟩) := by
  refine ⟨?_, ?_, ?_⟩ <;> rfl

/-- A directory in the place of the file: a record is added to it, and a key removed. -/
theorem failures_leave_stores_misplaced :
    let file : SealedFile := ⟨⟨"", ["k.enc"]⟩, Token.cipher (List.replicate 32 0), .standard⟩
    let w : World := { files := { entries := [(["k.enc"], .directory)] } }
    let add : Write := .add { service := .str "s", account := .str "a" }
    let remove : Request := ⟨default, .remove "b"⟩
    file.LeftAlone w (file.write w add).2.2 ∧
      file.LeftAlone w (remove.script.runSealed file w).2.2 := by
  obtain ⟨calls, requests, -⟩ := failures_leave_stores.2
    ⟨⟨"", ["k.enc"]⟩, Token.cipher (List.replicate 32 0), .standard⟩ (Token.cipher_lawful _)
    { files := { entries := [(["k.enc"], .directory)] } }
  exact ⟨calls _ nofun, requests _ nofun⟩

end SecretStore
