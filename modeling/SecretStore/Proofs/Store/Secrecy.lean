import SecretStore.Proofs.Keyring.Blank
import SecretStore.Proofs.Store.Keeper

/-!
Runs that differ in secrets alone. In memory the tables stay equal but for data.
A file that is missing is the same for both runs until one can be written; from
then on it serves tables that are equal but for data. So step by step the two
stay in lockstep, and only items that are looked up show which run is which.
-/

namespace SecretStore

namespace Keeper

variable {K : Keeper}

/-- A keeper whose log says nothing of secrets, and that keeps them apart from all else. -/
structure Blind (K : Keeper) : Prop where
  entries : ∀ t : Table, K.entries t.blanked = K.entries t
  kept : ∀ t : Table, K.kept t.blanked = (K.kept t).blanked

theorem blind_memory : memory.Blind :=
  ⟨fun _ => rfl, fun _ => rfl⟩

theorem blind_sealed (s : SealedFile) : (sealed s).Blind where
  entries t := by simp only [sealed, SealedFile.written, Table.blanked, List.length_map]
  kept t := by
    have apart : ∀ r s : Record, r.blanked.sameIdentity s.blanked = r.sameIdentity s :=
      fun _ _ => rfl
    change Table.ofRecords ((t.map Record.blanked).map Record.joined) =
      (Table.ofRecords (t.map Record.joined)).map Record.blanked
    rw [← Table.ofRecords_map apart, List.map_map, List.map_map]
    rfl

theorem holds_blanked (K : Keeper) (t : Table) : K.holds t.blanked = K.holds t := by
  rw [Table.blanked, holds, List.all_map]
  rfl

theorem write_blanked (blind : K.Blind) (now : Moment) (t : Table) (c : Write) :
    (K.machine now).write t.blanked c.blanked =
      (((K.machine now).write t c).1, ((K.machine now).write t c).2.1,
        ((K.machine now).write t c).2.2.blanked) := by
  have changed := Table.write_blanked t now c
  simp only [machine]
  cases answer : t.write now c with
  | error e =>
    rw [answer] at changed
    rw [changed]
    rfl
  | ok t' =>
    rw [answer] at changed
    rw [changed]
    simp only [Except.map, holds_blanked, blind.entries t', blind.kept t']
    split <;> rfl

theorem lockstep (blind : K.Blind) (now : Moment) :
    (K.machine now).Lockstep (K.machine now) (fun _ => True) (fun t t' => t' = t.blanked)
      fun t t' => t' = t.blanked where
  rests _ _ same := same
  query t t' same q := by
    subst same
    refine ⟨_, _, _, rfl, ?_, rfl⟩
    simp only [machine, Table.query_blanked]
    rfl
  write t t' same c _ := by
    subst same
    have written : ∃ response entries u, (K.machine now).write t c = (response, entries, u) :=
      ⟨_, _, _, rfl⟩
    obtain ⟨response, entries, u, eq⟩ := written
    refine ⟨response, entries, u, u.blanked, eq, ?_, rfl, fun _ _ _ => rfl⟩
    rw [write_blanked blind, eq]

theorem perform_blanked (blind : K.Blind) (step : Int × Request) (t : Table) :
    K.perform (step.map id Request.blanked) t.blanked =
      ((K.perform step t).1.blanked, (K.perform step t).2.blanked) := by
  have changes := step.2.changesOnce.mono fun _ _ => trivial
  obtain ⟨shown, left⟩ :=
    Script.course_lockstep (lockstep blind (.ofMicros step.1)) step.2.veils changes (s := t) rfl
  exact Prod.ext shown left

end Keeper

theorem Record.Textual.blanked {r : Record} (textual : r.Textual) : r.blanked.Textual :=
  ⟨textual.service, textual.account, textual.label, textual.description, textual.synchronizable⟩

theorem Write.Textual.blanked {c : Write} (textual : c.Textual) : c.blanked.Textual := by
  cases c with
  | add r => exact Record.Textual.blanked textual
  | update q p => exact textual
  | delete q => trivial

namespace SealedFile

variable {path : FilePath} {levels : Levels} {files files' : FileTree}

/-- Trees in which two runs have their files: the same, with no file at the path,
or with files that serve tables which are equal but for data. -/
inductive Mirrored (path : FilePath) (levels : Levels) (cipher cipher' : Cipher)
    (files files' : FileTree) : Prop
  | vacant (same : files = files') (clear : files.Clear path)
  | serving {t : Table} (serves : Serves ⟨path, cipher, levels⟩ files t) (storable : t.Storable)
      (serves' : Serves ⟨path, cipher', levels⟩ files' t.blanked) (storable' : t.blanked.Storable)

variable {cipher cipher' : Cipher} {w w' : World}

theorem place_cipher (cipher cipher' : Cipher) (files : FileTree) (token : Bytes) :
    place ⟨path, cipher, levels⟩ files token = place ⟨path, cipher', levels⟩ files token := by
  simp only [place, unwritten, failed]

/-- What two runs get from their files: the same, and files that are still mirrored. -/
def AlikeAfter (path : FilePath) (levels : Levels) (cipher cipher' : Cipher) (w w' : World)
    (c : Write) : Prop :=
  ∃ response entries u u',
    (machine ⟨path, cipher, levels⟩).write w c = (response, entries, u) ∧
    (machine ⟨path, cipher', levels⟩).write w' c.blanked = (response, entries, u') ∧
    Mirrored path levels cipher cipher' u.files u'.files ∧
    ∀ answer, response = .ok answer → ¬ Script.Settled answer → u = w ∧ u' = w'

theorem alike_serving (lawful : cipher.Lawful) (lawful' : cipher'.Lawful)
    (clock : w.clock = w'.clock) (valid : w.now.Valid) {t : Table}
    (serves : Serves ⟨path, cipher, levels⟩ w.files t) (storable : t.Storable)
    (serves' : Serves ⟨path, cipher', levels⟩ w'.files t.blanked) (storable' : t.blanked.Storable)
    {c : Write} (new : c.Textual) : AlikeAfter path levels cipher cipher' w w' c := by
  have now : w'.now = w.now := by rw [World.now, World.now, clock]
  obtain ⟨u, written, served, still, same⟩ := write_kept lawful serves storable new valid
  obtain ⟨u', written', served', still', same'⟩ :=
    write_kept lawful' serves' storable' new.blanked (by rwa [now])
  have keeper : Keeper.sealed ⟨path, cipher', levels⟩ = Keeper.sealed ⟨path, cipher, levels⟩ := by
    simp only [Keeper.sealed, SealedFile.written]
  rw [now, keeper, Keeper.write_blanked (Keeper.blind_sealed _)] at written' served' still' same'
  refine ⟨_, _, u, u', written, written', .serving served still served' still', ?_⟩
  intro answer answers unsettled
  obtain e | _ := answer
  · exact ⟨same e answers, same' e answers⟩
  · exact absurd trivial unsettled

theorem alike_vacant (lawful : cipher.Lawful) (lawful' : cipher'.Lawful)
    (clock : w.clock = w'.clock) (valid : w.now.Valid) (same : w.files = w'.files)
    (clear : w.files.Clear path) {c : Write} (new : c.Textual) :
    AlikeAfter path levels cipher cipher' w w' c := by
  have now : w'.now = w.now := by rw [World.now, World.now, clock]
  rcases load_vacant levels clear.vacant with empty | ⟨fault, final, failed⟩
  · rcases place_clear (s := ⟨path, cipher, levels⟩) clear with
      room | ⟨fault, files', final, clear', placed⟩
    · have serves' : Serves ⟨path, cipher', levels⟩ w'.files (Table.blanked []) :=
        ⟨same ▸ empty cipher', same ▸ room⟩
      exact alike_serving lawful lawful' clock valid ⟨empty cipher, room⟩ .empty serves' .empty new
    · -- No file can be written: both runs meet the same fault and leave the same tree.
      have changed' := Table.write_blanked [] w.now c
      cases changed : Table.write w.now [] c with
      | error e =>
        rw [changed] at changed'
        refine ⟨.ok (.error e), [], w, w', ?_, ?_, .vacant same clear, fun _ _ _ => ⟨rfl, rfl⟩⟩
        · simp only [machine, write, empty, changed, StoreFault.response]
        · have refused : Table.write w'.now [] c.blanked = .error e := by rwa [now]
          simp only [machine, write, ← same, empty, refused, StoreFault.response]
      | ok t =>
        rw [changed] at changed'
        have made : Table.write w'.now [] c.blanked = .ok t.blanked := by rwa [now]
        have none_there : ∀ r ∈ ([] : Table), r.Textual := List.forall_mem_nil _
        have textual := Table.textual_write none_there new changed
        have textual' := Table.textual_write none_there new.blanked changed'
        have fits : (Document.toJson t.blanked).isWritable = (Document.toJson t).isWritable := by
          rw [Document.isWritable_textual (s := ⟨path, cipher, levels⟩) textual,
            Document.isWritable_textual (s := ⟨path, cipher, levels⟩) textual',
            Keeper.holds_blanked]
        obtain ⟨u, written, left⟩ := write_unplaced (empty cipher) changed placed
        obtain ⟨u', written', left'⟩ := write_unplaced (s := ⟨path, cipher', levels⟩)
          (same ▸ empty cipher') made fun token => by rw [← same, place_cipher cipher', placed]
        rw [fits] at written' left'
        refine ⟨_, _, u, u', written, written', ?_, ?_⟩
        · cases room : (Document.toJson t).isWritable with
          | false =>
            rw [room] at left left'
            exact .vacant (left.trans (same.trans left'.symm)) (left.symm ▸ clear)
          | true =>
            rw [room] at left left'
            exact .vacant (left.trans left'.symm) (left.symm ▸ clear')
        · cases room : (Document.toJson t).isWritable with
          | false => rintro answer ⟨⟩
          | true => exact fun answer answers unsettled => absurd (final.settled answers) unsettled
  · refine ⟨StoreFault.response (.error fault), [], w, w', ?_, ?_, .vacant same clear,
      fun answer answers unsettled => absurd (final.settled answers) unsettled⟩
    · simp only [machine, write, failed]
    · simp only [machine, write, ← same, failed]

/-- Two runs that go on: their clocks agree, and their files are mirrored. -/
structure Abreast (path : FilePath) (levels : Levels) (cipher cipher' : Cipher) (w w' : World) :
    Prop where
  clock : w.clock = w'.clock
  valid : w.now.Valid
  files : Mirrored path levels cipher cipher' w.files w'.files

theorem lockstep (lawful : cipher.Lawful) (lawful' : cipher'.Lawful) :
    (machine ⟨path, cipher, levels⟩).Lockstep (machine ⟨path, cipher', levels⟩) Write.Textual
      (Abreast path levels cipher cipher')
      fun w w' => Mirrored path levels cipher cipher' w.files w'.files where
  rests _ _ abreast := abreast.files
  query w w' abreast q := by
    obtain ⟨same, clear⟩ | ⟨serves, storable, serves', storable'⟩ := abreast.files
    · rcases load_vacant levels clear.vacant with empty | ⟨fault, -, failed⟩
      · refine ⟨.ok (.error (Table.notFound q)), w, w', ?_, ?_, abreast⟩
        · simp only [machine, query, empty]
          rfl
        · simp only [machine, query, ← same, empty]
          rfl
      · refine ⟨StoreFault.response (.error fault), w, w', ?_, ?_, abreast⟩
        · simp only [machine, query, failed]
        · simp only [machine, query, ← same, failed]
          cases fault <;> rfl
    · refine ⟨_, w, w', machine_query_served serves q, ?_, abreast⟩
      rw [machine_query_served serves' q, Table.query_blanked]
      rfl
  write w w' abreast c new := by
    have alike : AlikeAfter path levels cipher cipher' w w' c := by
      obtain ⟨same, clear⟩ | ⟨serves, storable, serves', storable'⟩ := abreast.files
      · exact alike_vacant lawful lawful' abreast.clock abreast.valid same clear new
      · exact alike_serving lawful lawful' abreast.clock abreast.valid serves storable serves'
          storable' new
    obtain ⟨response, entries, u, u', written, written', mirrored, unsettled⟩ := alike
    refine ⟨response, entries, u, u', written, written', mirrored, fun answer answers goesOn => ?_⟩
    obtain ⟨rfl, rfl⟩ := unsettled answer answers goesOn
    exact abreast

theorem perform_blanked (lawful : cipher.Lawful) (lawful' : cipher'.Lawful)
    {step : Int × Request} (valid : (Moment.ofMicros step.1).Valid)
    (mirrored : Mirrored path levels cipher cipher' w.files w'.files) :
    (perform ⟨path, cipher', levels⟩ (step.map id Request.blanked) w').1 =
        (perform ⟨path, cipher, levels⟩ step w).1.blanked ∧
      Mirrored path levels cipher cipher' (perform ⟨path, cipher, levels⟩ step w).2.files
        (perform ⟨path, cipher', levels⟩ (step.map id Request.blanked) w').2.files :=
  Script.course_lockstep (lockstep lawful lawful') step.2.veils
    (step.2.changesOnce.mono fun _ asks => asks.textual) ⟨rfl, valid, mirrored⟩

end SealedFile

/-- Steps that differ in nothing but the secrets that are set. -/
def Alike (steps steps' : List (Int × Request)) : Prop :=
  steps.map (Prod.map id Request.blanked) = steps'.map (Prod.map id Request.blanked)

theorem Alike.valid {steps steps' : List (Int × Request)} (alike : Alike steps steps')
    (valid : ∀ step ∈ steps, (Moment.ofMicros step.1).Valid) :
    ∀ step ∈ steps', (Moment.ofMicros step.1).Valid := by
  intro step member
  have there := List.mem_map_of_mem (f := Prod.map id Request.blanked) member
  rw [← alike] at there
  obtain ⟨other, same, eq⟩ := List.mem_map.mp there
  have clock : other.1 = step.1 := (congrArg Prod.fst eq :)
  rw [← clock]
  exact valid other same

theorem Keeper.courses_blanked {K : Keeper} (blind : K.Blind) (steps : List (Int × Request)) :
    (inTurn K.perform (steps.map (Prod.map id Request.blanked)) []).1 =
      (inTurn K.perform steps []).1.map Course.blanked := by
  refine inTurn_related (fun t t' => t' = Table.blanked t) ?_ rfl
  rintro step - t _ rfl
  rw [show Prod.map id Request.blanked step = step.map id Request.blanked from rfl,
    perform_blanked blind]
  exact ⟨rfl, rfl⟩

theorem SealedFile.courses_blanked {path : FilePath} {levels : Levels} {cipher cipher' : Cipher}
    (lawful : cipher.Lawful) (lawful' : cipher'.Lawful) {w w' : World}
    (mirrored : Mirrored path levels cipher cipher' w.files w'.files) {steps : List (Int × Request)}
    (valid : ∀ step ∈ steps, (Moment.ofMicros step.1).Valid) :
    (inTurn (perform ⟨path, cipher', levels⟩) (steps.map (Prod.map id Request.blanked)) w').1 =
      (inTurn (perform ⟨path, cipher, levels⟩) steps w).1.map Course.blanked :=
  inTurn_related
    (fun w w' : World => Mirrored path levels cipher cipher' w.files w'.files)
    (fun step member _ _ mirrored =>
      perform_blanked lawful lawful' (valid step member) mirrored) mirrored

/-- Of the secrets that are set, nothing shows but the data of items that are looked
up and of records and patches on their way to the store, in memory and in a file.
And whatever store answers, metadata shows no secret of it. -/
theorem courses_hide_secrets :
    (∀ steps steps' : List (Int × Request), Alike steps steps' →
      (inTurn Keeper.memory.perform steps []).1.map Course.blanked =
        (inTurn Keeper.memory.perform steps' []).1.map Course.blanked) ∧
    (∀ (path : FilePath) (levels : Levels) (cipher cipher' : Cipher), cipher.Lawful →
      cipher'.Lawful → ∀ w w' : World, w.files = w'.files → w.files.Clear path →
      ∀ steps steps' : List (Int × Request), (∀ step ∈ steps, (Moment.ofMicros step.1).Valid) →
      Alike steps steps' →
      (inTurn (SealedFile.perform ⟨path, cipher, levels⟩) steps w).1.map Course.blanked =
        (inTurn (SealedFile.perform ⟨path, cipher', levels⟩) steps' w').1.map Course.blanked) ∧
    ∀ (k : Keyring) (key : Text) (σ σ' : Type) (m : Machine σ) (m' : Machine σ') (s : σ)
      (s' : σ'),
      let q := k.itemQuery key false true
      let c := ((Request.script ⟨k, .metadata key⟩).course m s).1
      let c' := ((Request.script ⟨k, .metadata key⟩).course m' s').1
      (m.query s q).1.map (Except.map (List.map Record.blanked)) =
        (m'.query s' q).1.map (Except.map (List.map Record.blanked)) →
      c.result = c'.result ∧ c.entries = c'.entries ∧
        ∀ found, c.result = .ok (.ok (.metadata found)) → found.item.data = [] := by
  refine ⟨fun steps steps' alike => ?_, ?_, fun k key σ σ' m m' s s' =>
    k.course_metadata key m m' s s'⟩
  · rw [← Keeper.courses_blanked Keeper.blind_memory, alike,
      Keeper.courses_blanked Keeper.blind_memory]
  · intro path levels cipher cipher' lawful lawful' w w' same clear steps steps' valid alike
    rw [← SealedFile.courses_blanked lawful lawful' (.vacant same clear) valid, alike,
      SealedFile.courses_blanked lawful' lawful' (.vacant rfl (same ▸ clear)) (alike.valid valid)]

/-- Two runs that set an item, set it anew, look it up and describe it; two files
under different keys; and two tables whose records differ in their data. -/
theorem courses_hide_secrets_of_item :
    let file (key : Token.Key) : SealedFile :=
      ⟨⟨"", ["d", "k.enc"]⟩, Token.cipher key, .standard⟩
    let k : Keyring := { (default : Keyring) with service := "s" }
    let steps (first second : Bytes) : List (Int × Request) :=
      [(1000000, ⟨k, .set { key := "a", data := first }⟩),
        (2000000, ⟨k, .set { key := "a", data := second }⟩),
        (3000000, ⟨k, .get "a"⟩), (4000000, ⟨k, .metadata "a"⟩)]
    let table (data : Bytes) : Table := [{ service := .str "s", account := .str "a", data }]
    let described (data : Bytes) : Course Answer :=
      ((Request.script ⟨k, .metadata "a"⟩).course (Keeper.memory.machine default) (table data)).1
    (inTurn Keeper.memory.perform (steps [1] [2]) []).1.map Course.blanked =
        (inTurn Keeper.memory.perform (steps [3] [4, 5]) []).1.map Course.blanked ∧
      (inTurn (file (List.replicate 32 0)).perform (steps [1] [2]) {}).1.map Course.blanked =
        (inTurn (file (List.replicate 32 1)).perform (steps [3] [4, 5]) {}).1.map Course.blanked ∧
      (described [1]).result = (described [2, 3]).result := by
  intro file k steps table described
  obtain ⟨memory, sealed, metadata⟩ := courses_hide_secrets
  have clear : FileTree.Clear {} ⟨"", ["d", "k.enc"]⟩ := by
    refine ⟨FileTree.vacant_of_isThere (by decide), fun content there => ?_⟩
    have missing : (FileTree.makeDirectories {} ⟨"", ["d"]⟩).2.look ⟨"", ["d", "k.enc"]⟩ =
      .error .missing := by decide
    cases missing.symm.trans there
  have valid : ∀ step ∈ steps [1] [2], (Moment.ofMicros step.1).Valid := by
    intro step member
    simp only [steps, List.mem_cons, List.not_mem_nil, or_false] at member
    rcases member with rfl | rfl | rfl | rfl <;>
      exact ⟨by decide, by decide, by rintro s ⟨⟩; rfl⟩
  refine ⟨memory _ _ rfl, ?_, ?_⟩
  · exact sealed ⟨"", ["d", "k.enc"]⟩ .standard _ _ (Token.cipher_lawful _)
      (Token.cipher_lawful _) {} {} rfl
      clear _ _ valid rfl
  · exact (metadata k "a" _ _ (Keeper.memory.machine default) (Keeper.memory.machine default)
      (table [1]) (table [2, 3]) rfl).1

end SecretStore
