import SecretStore.Proofs.CommandLine.Ending
import SecretStore.Proofs.Settings.Faults

/-!
Which command lines end with one of the exit codes, and what breaks the others off:
settings whose loading breaks off, a secret that is no text, what has no bytes where bytes
are needed, and a store that breaks a request off. Settings that are refused have their exit code.
-/

namespace SecretStore.CommandLine

open Settings (Breaks)

/-- Settings that are refused when they are checked, or when their policy is resolved. -/
def Invocation.Refused (i : Invocation) (env : List Overrides.Variable) (iterations : Nat)
    (w : World) : Prop :=
  (∃ why, Settings.load w.stack.exhausts w.files i.configPath env = .error (.invalid why)) ∨
    ∃ settings why, Settings.load w.stack.exhausts w.files i.configPath env = .ok settings ∧
      Keyring.ofSettings id iterations w.stack.json settings none = .error (.misconfigured why)

def Unprintable (lines : List Text) (why : Text.Unencodable) : Prop :=
  ∃ before line after, lines = before ++ line :: after ∧
    (∀ printed ∈ before, ∃ bs, Text.encode printed = .ok bs) ∧ Text.encode line = .error why

theorem print_aborted_iff {lines : List Text} {why : Abort} :
    (print lines).2 = .aborted why ↔ ∃ u, why = .unencodable u ∧ Unprintable lines u := by
  induction lines with
  | nil => simp [print, Unprintable]
  | cons line rest ih =>
    rw [print]
    cases encoded : Text.encode line with
    | error u =>
      constructor
      · rintro ⟨⟩
        exact ⟨u, rfl, [], line, rest, rfl, by simp, encoded⟩
      · rintro ⟨u', rfl, before, other, after, same, printed, fails⟩
        cases before with
        | nil =>
          cases same
          cases encoded.symm.trans fails
          rfl
        | cons first before =>
          cases same
          obtain ⟨bs, has⟩ := printed line List.mem_cons_self
          cases encoded.symm.trans has
    | ok bs =>
      refine ih.trans (exists_congr fun u => and_congr_right fun _ => ⟨?_, ?_⟩)
      · rintro ⟨before, other, after, rfl, printed, fails⟩
        refine ⟨line :: before, other, after, rfl, ?_, fails⟩
        exact List.forall_mem_cons.mpr ⟨⟨bs, encoded⟩, printed⟩
      · rintro ⟨before, other, after, same, printed, fails⟩
        cases before with
        | nil =>
          cases same
          cases encoded.symm.trans fails
        | cons first before =>
          cases same
          exact ⟨before, other, after, rfl, (List.forall_mem_cons.mp printed).2, fails⟩

namespace Invocation

/-- What has no bytes: the passphrase of the settings, behind the name of a strategy, the
secret of the command, or a line of the answer to its request. -/
inductive Unencodable (i : Invocation) (env : List Overrides.Variable) (iterations : Nat)
    (w : World) (why : Text.Unencodable) : Prop
  | passphrase {settings : Settings} {s : Strategy}
      (loads : Settings.load w.stack.exhausts w.files i.configPath env = .ok settings)
      (named : settings.keyring.policy = s.name)
      (fails : Text.encode settings.storage.passphrase = .error why)
  | secret {k : Keyring} {file : SealedFile} (opens : i.Opens env iterations w k file)
      (byteless : i.command.Byteless why)
  | output {k : Keyring} {file : SealedFile} {operation : Operation} {answer : Answer}
      (opens : i.Opens env iterations w k file)
      (asks : i.command.operation? = some operation)
      (answers : ((Request.script ⟨k, operation⟩).runSealed file w).1 = .ok (.ok answer))
      (unprintable : Unprintable (answerLines answer) why)

def Crashes (i : Invocation) (env : List Overrides.Variable) (iterations : Nat) (w : World)
    (why : Crash) : Prop :=
  ∃ k file operation, i.Opens env iterations w k file ∧
    i.command.operation? = some operation ∧
    ((Request.script ⟨k, operation⟩).runSealed file w).1 = .error why

variable {i : Invocation} {env : List Overrides.Variable} {iterations : Nat} {w : World}

theorem settings_cases (i : Invocation) (env : List Overrides.Variable) (iterations : Nat)
    (w : World) : (∃ why, Breaks w.stack.exhausts w.files i.configPath env why) ∨
      i.Refused env iterations w ∨
      (∃ settings why,
        Settings.load w.stack.exhausts w.files i.configPath env = .ok settings ∧
        Keyring.ofSettings id iterations w.stack.json settings none = .error (.passphrase why)) ∨
      ∃ k file, i.Opens env iterations w k file := by
  rcases loaded : Settings.load w.stack.exhausts w.files i.configPath env with why | settings
  · by_cases refused : ∃ rejection, why = .invalid rejection
    · obtain ⟨rejection, rfl⟩ := refused
      exact .inr (.inl (.inl ⟨rejection, loaded⟩))
    · have broken (rejection : Rejection) : why ≠ .invalid rejection :=
        fun same => refused ⟨rejection, same⟩
      exact .inl ⟨why, (Settings.load_error_iff broken).mp loaded⟩
  · rcases opened : Keyring.ofSettings id iterations w.stack.json settings none
      with (why | why) | ⟨k, file, entry⟩
    · exact .inr (.inl (.inr ⟨settings, why, loaded, opened⟩))
    · exact .inr (.inr (.inl ⟨settings, why, rfl, opened⟩))
    · exact .inr (.inr (.inr ⟨k, file, settings, loaded, entry, opened⟩))

variable (style : LogStyle)

theorem run_broken {why : LoadFault} (breaks : Breaks w.stack.exhausts w.files i.configPath env why)
    (iterations : Nat) : i.run iterations style env w =
      (abort style i.verbose [] (.load why), w) := by
  rw [run, breaks.load]
  cases why with
  | invalid rejection => exact absurd rfl (breaks.not_invalid rejection)
  | _ => rfl

theorem run_refused (refused : i.Refused env iterations w) :
    ∃ e, exitCode e = .invalidConfiguration ∧
      i.run iterations style env w = (conclude style i.verbose [] (.error e), w) := by
  rcases refused with ⟨why, fails⟩ | ⟨settings, why, loads, fails⟩
  · exact ⟨.invalid why, rfl, by rw [run, fails]⟩
  · exact ⟨.misconfigured why, rfl, run_misconfigured style loads fails⟩

/-- How a command on a keyring ends: the secret is missing or has no bytes, other words
are missing, or it ends as its request does. -/
theorem ending_opens {k : Keyring} {file : SealedFile} (opens : i.Opens env iterations w k file) :
    let ending := (i.run iterations style env w).1.ending
    (i.command.Secretless ∧ ending = .aborted .noSecret) ∨
      (∃ why, i.command.Byteless why ∧ ending = .aborted (.unencodable why)) ∨
      ending = .returned .invalidConfiguration ∨
      ∃ operation, i.command.operation? = some operation ∧
        ending = .ofResult ((Request.script ⟨k, operation⟩).runSealed file w).1 := by
  rcases i.command.operation_cases with ⟨operation, asks⟩ | wordless | secretless | ⟨why, byteless⟩
  · exact .inr (.inr (.inr ⟨operation, asks, ending_operation opens asks⟩))
  · exact .inr (.inr (.inl (ending_wordless opens wordless)))
  · exact .inl ⟨secretless, ending_secretless opens secretless⟩
  · exact .inr (.inl ⟨why, byteless, ending_byteless opens byteless⟩)

theorem run_ends (i : Invocation) (env : List Overrides.Variable) (iterations : Nat) (w : World) :
    (∃ code, (i.run iterations style env w).1.ending = .returned code) ∨
      ∃ why, (i.run iterations style env w).1.ending = .aborted why := by
  rcases i.settings_cases env iterations w with
    ⟨why, breaks⟩ | refused | ⟨settings, why, loads, fails⟩ | ⟨k, file, opens⟩
  · rw [run_broken style breaks]
    exact .inr ⟨_, rfl⟩
  · obtain ⟨e, -, ran⟩ := run_refused style refused
    rw [ran]
    exact .inl ⟨_, rfl⟩
  · rw [run_without_passphrase style loads fails]
    exact .inr ⟨_, rfl⟩
  · rcases ending_opens style opens with
      ⟨-, ending⟩ | ⟨why, -, ending⟩ | ending | ⟨operation, -, ending⟩
    · exact .inr ⟨_, ending⟩
    · exact .inr ⟨_, ending⟩
    · exact .inl ⟨_, ending⟩
    · rw [ending]
      rcases ((Request.script ⟨k, operation⟩).runSealed file w).1 with why | (e | answer)
      · exact .inr ⟨_, rfl⟩
      · exact .inl ⟨_, rfl⟩
      · rcases print_cases (answerLines answer) with printed | ⟨why, failed⟩
        · exact .inl ⟨_, printed⟩
        · exact .inr ⟨_, failed⟩

theorem aborted_cases {why : Abort}
    (ends : (i.run iterations style env w).1.ending = .aborted why) :
    (∃ fault, why = .load fault ∧ Breaks w.stack.exhausts w.files i.configPath env fault) ∨
      (why = .noSecret ∧ i.command.Secretless ∧ ∃ k file, i.Opens env iterations w k file) ∨
      (∃ text, why = .unencodable text ∧ i.Unencodable env iterations w text) ∨
      ∃ crash, why = .store crash ∧ i.Crashes env iterations w crash := by
  rcases i.settings_cases env iterations w with
    ⟨fault, breaks⟩ | refused | ⟨settings, text, loads, fails⟩ | ⟨k, file, opens⟩
  · rw [run_broken style breaks] at ends
    cases ends
    exact .inl ⟨fault, rfl, breaks⟩
  · obtain ⟨e, -, ran⟩ := run_refused style refused
    rw [ran] at ends
    cases ends
  · rw [run_without_passphrase style loads fails] at ends
    cases ends
    obtain ⟨-, unencodable, s, named⟩ := Keyring.ofSettings_passphrase_iff.mp fails
    exact .inr (.inr (.inl ⟨text, rfl, .passphrase loads named unencodable⟩))
  · rcases ending_opens style opens with
      ⟨secretless, ending⟩ | ⟨text, byteless, ending⟩ | ending | ⟨operation, asks, ending⟩
    · cases ends.symm.trans ending
      exact .inr (.inl ⟨rfl, secretless, k, file, opens⟩)
    · cases ends.symm.trans ending
      exact .inr (.inr (.inl ⟨text, rfl, .secret opens byteless⟩))
    · cases ends.symm.trans ending
    · rw [ending] at ends
      rcases result : ((Request.script ⟨k, operation⟩).runSealed file w).1
        with crash | (e | answer) <;> rw [result] at ends
      · cases ends
        exact .inr (.inr (.inr ⟨crash, rfl, k, file, operation, opens, asks, result⟩))
      · cases ends
      · obtain ⟨text, rfl, unprintable⟩ := print_aborted_iff.mp ends
        exact .inr (.inr (.inl ⟨text, rfl, .output opens asks result unprintable⟩))

theorem aborted_load_iff (fault : LoadFault) :
    (i.run iterations style env w).1.ending = .aborted (.load fault) ↔
      Breaks w.stack.exhausts w.files i.configPath env fault := by
  refine ⟨fun ends => ?_, fun breaks => by rw [run_broken style breaks]; rfl⟩
  obtain ⟨_, ⟨⟩, breaks⟩ | ⟨⟨⟩, -⟩ | ⟨_, ⟨⟩, -⟩ | ⟨_, ⟨⟩, -⟩ := aborted_cases style ends
  exact breaks

theorem aborted_noSecret_iff :
    (i.run iterations style env w).1.ending = .aborted .noSecret ↔
      i.command.Secretless ∧ ∃ k file, i.Opens env iterations w k file := by
  constructor
  · intro ends
    obtain ⟨_, ⟨⟩, -⟩ | ⟨-, secretless⟩ | ⟨_, ⟨⟩, -⟩ | ⟨_, ⟨⟩, -⟩ := aborted_cases style ends
    exact secretless
  · rintro ⟨secretless, k, file, opens⟩
    exact ending_secretless opens secretless

theorem aborted_unencodable_iff (text : Text.Unencodable) :
    (i.run iterations style env w).1.ending = .aborted (.unencodable text) ↔
      i.Unencodable env iterations w text := by
  constructor
  · intro ends
    obtain ⟨_, ⟨⟩, -⟩ | ⟨⟨⟩, -⟩ | ⟨_, ⟨⟩, unencodable⟩ | ⟨_, ⟨⟩, -⟩ := aborted_cases style ends
    exact unencodable
  · intro unencodable
    cases unencodable with
    | passphrase loads named fails =>
      rw [run_without_passphrase style loads
        (Keyring.ofSettings_passphrase_iff.mpr ⟨rfl, fails, _, named⟩)]
      rfl
    | secret opens byteless => exact ending_byteless opens byteless
    | output opens asks answers unprintable =>
      rw [ending_operation opens asks, answers]
      exact print_aborted_iff.mpr ⟨text, rfl, unprintable⟩

theorem aborted_store_iff (crash : Crash) :
    (i.run iterations style env w).1.ending = .aborted (.store crash) ↔
      i.Crashes env iterations w crash := by
  constructor
  · intro ends
    obtain ⟨_, ⟨⟩, -⟩ | ⟨⟨⟩, -⟩ | ⟨_, ⟨⟩, -⟩ | ⟨_, ⟨⟩, crashes⟩ := aborted_cases style ends
    exact crashes
  · rintro ⟨k, file, operation, opens, asks, broken⟩
    rw [ending_operation opens asks, broken]
    rfl

theorem returned_refused (refused : i.Refused env iterations w) :
    (i.run iterations style env w).1.ending = .returned .invalidConfiguration ∧
      (i.run iterations style env w).1.output = "" ∧ (i.run iterations style env w).2 = w := by
  obtain ⟨e, code, ran⟩ := run_refused style refused
  rw [ran]
  exact ⟨congrArg Ending.returned code, rfl, rfl⟩

end Invocation

end SecretStore.CommandLine

namespace SecretStore

open CommandLine

theorem Settings.breaks_conflicting :
    Settings.Breaks Stack.standard.exhausts {} none
      [("SEALED_KEYRING_KEYRING", "x"), ("SEALED_KEYRING_KEYRING__POLICY", "flags")]
      (.overrides .textInPlaceOfMapping) := by
  have way : Overrides.path? "SEALED_KEYRING_KEYRING" = some (["keyring"] : List Text) := by decide
  have longer : Overrides.path? "SEALED_KEYRING_KEYRING__POLICY" =
      some (["keyring", "policy"] : List Text) := by
    decide
  have first : Overrides.FirstBlocked
      [("SEALED_KEYRING_KEYRING", "x"), ("SEALED_KEYRING_KEYRING__POLICY", "flags")]
      [("SEALED_KEYRING_KEYRING", "x")] ("SEALED_KEYRING_KEYRING__POLICY", "flags") := by
    refine ⟨⟨[], rfl⟩, List.pairwise_singleton _ _, _, List.mem_singleton_self _, ?_⟩
    exact ⟨_, _, way, longer, by decide, by decide⟩
  refine .blocked rfl first ?_
  simp [Overrides.BlocksFar, way, longer]

end SecretStore
