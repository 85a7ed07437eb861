import SecretStore.Proofs.Keyring.Opening
import SecretStore.Proofs.Store.Accepted
import SecretStore.Proofs.Text.Unencodable

/-!
How command lines end. A command is a request to the keyring of its settings, or it
gives words that are no texts, or no secret or one without bytes. The error of the
request is what the exit code tells, and its answer is printed up to the first line
that has no bytes. The policy of a keyring that settings describe has flags of named
factors only, and these can be written.
-/

namespace SecretStore

namespace Flags

theorem bits_ofFactors_lt (fs : List Factor) : (ofFactors fs).bits < 2 ^ 32 := by
  refine Nat.lt_pow_two_of_testBit _ fun n far => ?_
  rw [testBit_ofFactors, List.any_eq_false]
  intro f _ same
  have low : f.bit < 32 := by cases f <;> decide
  have place := eq_of_beq same
  omega

theorem isShort_ofFactors (fs : List Factor) : Json.isShort (ofFactors fs).bits = true := by
  have wide : Json.isShort (2 ^ 32) = true := by decide
  exact Json.isShort_of_le wide (Nat.le_of_lt (bits_ofFactors_lt fs))

end Flags

theorem Strategy.isShort_resolve {strategy : Strategy} {config : KeyringConfig}
    {policy : AccessPolicy} (h : strategy.resolve config = .ok policy) :
    Json.isShort policy.flags.bits = true := by
  cases strategy with
  | flags =>
    obtain ⟨-, -, -⟩ := makes_iff.mp h
    exact Flags.isShort_ofFactors _
  | legacy =>
    obtain ⟨_, -, h⟩ := exists_of_bind h
    obtain ⟨_, -, h⟩ := exists_of_bind h
    split at h
    · cases h
    · cases h
      exact Flags.isShort_ofFactors _

theorem Keyring.isShort_ofSettings {π : Type} {own : SealedFile → π} {iterations : Nat}
    {levels : Levels} {settings : Settings} {given : Option π} {k : Keyring} {p : π}
    {opened : LogEntry}
    (opens : Keyring.ofSettings own iterations levels settings given = .ok (k, p, opened)) :
    Json.isShort k.policy.flags.bits = true := by
  obtain ⟨strategy, -, -, made, -⟩ := ofSettings_eq_ok.mp opens
  obtain ⟨-, -, used, resolved⟩ := Keyring.open_ok made
  exact Strategy.isShort_resolve resolved

theorem Keyring.lawful_ofSettings {iterations : Nat} {levels : Levels} {settings : Settings}
    {k : Keyring} {file : SealedFile} {opened : LogEntry}
    (opens : Keyring.ofSettings id iterations levels settings none = .ok (k, file, opened)) :
    file.cipher.Lawful := by
  obtain ⟨strategy, -, own, -, -⟩ := ofSettings_eq_ok.mp opens
  simp only [primitive, SealedFile.ofStorage] at own
  cases encoded : Text.encode settings.storage.passphrase <;> rw [encoded] at own <;> cases own
  exact Token.cipher_lawful _

namespace CommandLine

def Command.operation? : Command → Option Operation
  | .get key => some (.get key)
  | .metadata key => some (.metadata key)
  | .set key (some secret) (some label) (some description) noSync =>
    (Text.encode secret).toOption.map fun data => .set ⟨key, data, label, description, !noSync⟩
  | .set _ _ _ _ _ => none
  | .remove key => some (.remove key)
  | .list => some .keys

/-- A command with a secret, but without words where it should give some. -/
def Command.Wordless (c : Command) : Prop :=
  ∃ key secret data label description noSync,
    c = .set key (some secret) label description noSync ∧ Text.encode secret = .ok data ∧
      (label = none ∨ description = none)

/-- A command that sets a secret that is no text. -/
def Command.Secretless (c : Command) : Prop :=
  ∃ key label description noSync, c = .set key none label description noSync

/-- A command that sets a secret that has no bytes. -/
def Command.Byteless (c : Command) (why : Text.Unencodable) : Prop :=
  ∃ key secret label description noSync,
    c = .set key (some secret) label description noSync ∧ Text.encode secret = .error why

def answerLines : Answer → List Text
  | .item item => [secretText item]
  | .metadata m => metadataLines m
  | .done => []
  | .keys keys => keys.map keyLine

theorem Command.script_operation {c : Command} {operation : Operation}
    (asks : c.operation? = some operation) (k : Keyring) : c.script k =
      .ok ((Request.script ⟨k, operation⟩).mapResult fun result => result.map answerLines) := by
  cases c with
  | get key | metadata key | remove key | list =>
    cases asks
    simp only [Request.script, Script.mapResult_map]
    rfl
  | set key secret label description noSync =>
    rcases secret with _ | secret
    · cases asks
    rcases label with _ | label
    · cases asks
    rcases description with _ | description
    · cases asks
    obtain ⟨data, bytes, same⟩ := Option.map_eq_some_iff.mp asks
    cases same
    cases encoded : Text.encode secret <;> rw [encoded] at bytes <;> cases bytes
    simp only [Request.script, Script.mapResult_map, Command.script, encoded]
    rfl

theorem Command.operation_cases (c : Command) :
    (∃ operation, c.operation? = some operation) ∨ c.Wordless ∨ c.Secretless ∨
      ∃ why, c.Byteless why := by
  cases c with
  | set key secret label description noSync =>
    rcases secret with _ | secret
    · exact .inr (.inr (.inl ⟨_, _, _, _, rfl⟩))
    cases encoded : Text.encode secret with
    | error why => exact .inr (.inr (.inr ⟨why, _, _, _, _, _, rfl, encoded⟩))
    | ok data =>
      rcases label with _ | label
      · exact .inr (.inl ⟨_, _, _, _, _, _, rfl, encoded, .inl rfl⟩)
      rcases description with _ | description
      · exact .inr (.inl ⟨_, _, _, _, _, _, rfl, encoded, .inr rfl⟩)
      refine .inl ⟨.set ⟨key, data, label, description, !noSync⟩, ?_⟩
      simp only [operation?, encoded, Except.toOption, Option.map_some]
  | _ => exact .inl ⟨_, rfl⟩

theorem Command.script_wordless {c : Command} (wordless : c.Wordless) (k : Keyring) :
    ∃ why, c.script k = .ok (.done (.error (.invalid why))) := by
  obtain ⟨key, secret, data, label, description, noSync, rfl, encoded, none⟩ := wordless
  rw [Command.script, encoded]
  rcases label with _ | label <;> rcases description with _ | description
  · exact ⟨_, rfl⟩
  · exact ⟨_, rfl⟩
  · exact ⟨_, rfl⟩
  · rcases none with none | none <;> cases none

/-- An invocation whose settings are those of a keyring over a file. -/
def Invocation.Opens (i : Invocation) (env : List Overrides.Variable) (iterations : Nat)
    (w : World) (k : Keyring) (file : SealedFile) : Prop :=
  ∃ settings, Settings.load w.stack.exhausts w.files i.configPath env = .ok settings ∧
    ∃ opened, Keyring.ofSettings id iterations w.stack.json settings none = .ok (k, file, opened)

def Ending.ofResult : Except Crash (Except KeyringError Answer) → Ending
  | .ok (.ok answer) => (print (answerLines answer)).2
  | .ok (.error e) => .returned (exitCode e)
  | .error why => .aborted (.store why)

theorem print_cases (lines : List Text) : (print lines).2 = .returned .success ∨
    ∃ why, (print lines).2 = .aborted (.unencodable why) := by
  induction lines with
  | nil => exact .inl rfl
  | cons line rest ih =>
    rw [print]
    split
    · exact .inr ⟨_, rfl⟩
    · exact ih

theorem exitCode_invalid_iff {e : KeyringError} : exitCode e = .invalidConfiguration ↔
    (∃ why, e = .misconfigured why) ∨ ∃ why, e = .invalid why := by
  cases e <;> simp [exitCode]

namespace Invocation

variable {i : Invocation} {iterations : Nat} {style : LogStyle} {env : List Overrides.Variable}
  {w : World} {k : Keyring} {file : SealedFile}

theorem ending_script (opens : i.Opens env iterations w k file) {script : Script (List Text)}
    (asks : i.command.script k = .ok script) : (i.run iterations style env w).1.ending =
      match (script.runSealed file w).1 with
      | .ok (.ok lines) => (print lines).2
      | .ok (.error e) => .returned (exitCode e)
      | .error why => .aborted (.store why) := by
  obtain ⟨settings, loads, opened, opens⟩ := opens
  simp only [run, loads, opens, asks]
  rcases script.runSealed file w with ⟨why | (e | lines), entries, w'⟩ <;> rfl

theorem ending_operation (opens : i.Opens env iterations w k file) {operation : Operation}
    (asks : i.command.operation? = some operation) : (i.run iterations style env w).1.ending =
      .ofResult ((Request.script ⟨k, operation⟩).runSealed file w).1 := by
  rw [ending_script opens (Command.script_operation asks k), Script.runSealed_mapResult]
  rcases ((Request.script ⟨k, operation⟩).runSealed file w).1 with why | (e | answer) <;> rfl

theorem ending_wordless (opens : i.Opens env iterations w k file)
    (wordless : i.command.Wordless) :
    (i.run iterations style env w).1.ending = .returned .invalidConfiguration := by
  obtain ⟨why, asks⟩ := Command.script_wordless wordless k
  rw [ending_script opens asks]
  rfl

theorem ending_refused (opens : i.Opens env iterations w k file) {why : Abort}
    (asks : i.command.script k = .error why) :
    (i.run iterations style env w).1.ending = .aborted why := by
  obtain ⟨settings, loads, opened, opens⟩ := opens
  simp only [run, loads, opens, asks]
  rfl

theorem ending_secretless (opens : i.Opens env iterations w k file)
    (secretless : i.command.Secretless) :
    (i.run iterations style env w).1.ending = .aborted .noSecret := by
  obtain ⟨key, label, description, noSync, sets⟩ := secretless
  exact ending_refused opens (by rw [sets]; rfl)

theorem ending_byteless (opens : i.Opens env iterations w k file) {why : Text.Unencodable}
    (byteless : i.command.Byteless why) :
    (i.run iterations style env w).1.ending = .aborted (.unencodable why) := by
  obtain ⟨key, secret, label, description, noSync, sets, fails⟩ := byteless
  exact ending_refused opens (by rw [sets, Command.script, fails])

end Invocation

end CommandLine

/-- The errors that an operation is meant to end with. -/
def KeyringError.IsOperational : KeyringError → Prop
  | .keyNotFound _ _ | .store _ _ | .lostUpdate _ => True
  | .misconfigured _ | .invalid _ => False

/-- The record that is found for a command has words that are no texts. -/
def CommandLine.Command.Baffled (c : Command) (k : Keyring) (t : Table) : Prop :=
  ∃ operation, c.operation? = some operation ∧ Request.Baffled ⟨k, operation⟩ t

namespace CommandLine

theorem Command.not_wordless {c : Command} {operation : Operation}
    (asks : c.operation? = some operation) : ¬ c.Wordless := by
  rintro ⟨key, secret, data, label, description, noSync, rfl, encoded, rfl | rfl⟩
  · cases asks
  · cases label <;> cases asks

theorem Command.not_refused {c : Command} (asks : c.operation? = none) (other : ¬ c.Wordless)
    (k : Keyring) (t : Table) : ¬ (c.Wordless ∨ c.Baffled k t) := by
  rintro (wordless | ⟨operation, there, -⟩)
  · exact other wordless
  · rw [asks] at there
    cases there

theorem Command.Secretless.not_refused {c : Command} (secretless : c.Secretless) (k : Keyring)
    (t : Table) : ¬ (c.Wordless ∨ c.Baffled k t) := by
  obtain ⟨key, label, description, noSync, rfl⟩ := secretless
  refine Command.not_refused rfl ?_ k t
  rintro ⟨_, _, _, _, _, _, ⟨⟩, -⟩

theorem Command.Byteless.not_refused {c : Command} {why : Text.Unencodable}
    (byteless : c.Byteless why) (k : Keyring) (t : Table) :
    ¬ (c.Wordless ∨ c.Baffled k t) := by
  obtain ⟨key, secret, label, description, noSync, rfl, fails⟩ := byteless
  refine Command.not_refused ?_ ?_ k t
  · cases label <;> cases description <;> simp [Command.operation?, fails, Except.toOption]
  · rintro ⟨_, _, _, _, _, _, ⟨⟩, encoded, -⟩
    rw [fails] at encoded
    cases encoded

theorem Invocation.ending_loaded {i : Invocation} {iterations : Nat} {style : LogStyle}
    {env : List Overrides.Variable} {w : World} {k : Keyring} {file : SealedFile} {token : Bytes}
    {t : Table} (opens : i.Opens env iterations w k file)
    (there : w.files.look file.path = .ok (.file token)) (loads : file.load w.files = .ok t) :
    ((i.run iterations style env w).1.ending = .returned .invalidConfiguration ↔
      i.command.Wordless ∨ i.command.Baffled k t) ∧
    ∀ why, (i.run iterations style env w).1.ending ≠ .aborted (.store why) := by
  rcases i.command.operation_cases with ⟨operation, asks⟩ | wordless | secretless | ⟨why, byteless⟩
  · have baffled : i.command.Baffled k t ↔ Request.Baffled ⟨k, operation⟩ t := by
      simp only [Command.Baffled, asks, Option.some.injEq, exists_eq_left']
    rw [ending_operation opens asks, baffled, or_iff_right (Command.not_wordless asks),
      ← Request.invalid_loaded loads]
    rcases result : ((Request.script ⟨k, operation⟩).runSealed file w).1 with why | (e | answer)
    · obtain ⟨-, _, -, -, long⟩ := (Request.crashed_loaded there loads _ why).mp result
      obtain ⟨settings, -, opened, opens⟩ := opens
      rw [Keyring.isShort_ofSettings opens] at long
      cases long
    · have configured := (Request.outcome_runSealed _ result).1
      have refused : exitCode e = .invalidConfiguration ↔ ∃ why, e = .invalid why :=
        exitCode_invalid_iff.trans (or_iff_right fun ⟨why, same⟩ => configured why (same ▸ rfl))
      refine ⟨?_, nofun⟩
      simpa [Ending.ofResult] using refused
    · simp only [Ending.ofResult]
      rcases print_cases (answerLines answer) with printed | ⟨why, failed⟩
      · rw [printed]
        simp
      · rw [failed]
        simp
  · rw [ending_wordless opens wordless]
    exact ⟨⟨fun _ => .inl wordless, fun _ => rfl⟩, nofun⟩
  · rw [ending_secretless opens secretless]
    exact ⟨⟨nofun, fun refused => absurd refused (secretless.not_refused k t)⟩, nofun⟩
  · rw [ending_byteless opens byteless]
    exact ⟨⟨nofun, fun refused => absurd refused (byteless.not_refused k t)⟩, nofun⟩

end CommandLine

/-- On a file that is there and that is read, whatever its records hold for words,
a request is broken off exactly when it adds flags that are too long to be written,
and refuses a record exactly when it looks the record up and its words are no texts;
every other error is one that operations are meant to end with. On the command line
such a record has the exit code of a configuration that is refused. -/
theorem accepted_files_refuse_wordless_records {s : SealedFile} {w : World} {token : Bytes}
    {t : Table} (there : w.files.look s.path = .ok (.file token)) (loads : s.load w.files = .ok t) :
    (∀ r : Request,
      let result := (r.script.runSealed s w).1
      (∀ why, result = .error why ↔ why = .tooManyDigits ∧ r.Overflows t) ∧
      ((∃ why, result = .ok (.error (.invalid why))) ↔ r.Baffled t) ∧
      ∀ e, result = .ok (.error e) → e.IsOperational ∨ ∃ why, e = .invalid why) ∧
    ∀ (i : CommandLine.Invocation) (iterations : Nat) (style : CommandLine.LogStyle)
      (env : List Overrides.Variable) (k : Keyring), i.Opens env iterations w k s →
      let ending := (i.run iterations style env w).1.ending
      (ending = .returned .invalidConfiguration ↔
        i.command.Wordless ∨ i.command.Baffled k t) ∧
      ∀ why, ending ≠ .aborted (.store why) := by
  constructor
  · intro r
    refine ⟨r.crashed_loaded there loads, r.invalid_loaded loads, fun e ends => ?_⟩
    have configured := (r.outcome_runSealed ends).1
    cases e with
    | keyNotFound | store | lostUpdate => exact .inl trivial
    | misconfigured why => exact absurd rfl (configured why)
    | invalid why => exact .inr ⟨why, rfl⟩
  · intro i iterations style env k opens
    exact CommandLine.Invocation.ending_loaded opens there loads

def Document.numberedLabel : Json :=
  .obj [("records", .arr [.obj [("class", .str "genp"), ("service", .str "sealed-keyring"),
    ("account", .str "a"), ("label", .int 5), ("data", .str "")]])]

def Document.numberedRecord : Record :=
  { service := .str "sealed-keyring", account := .str "a", label := .int 5 }

theorem Document.not_hasWords_numberedRecord : ¬ numberedRecord.HasWords := by
  intro words
  obtain ⟨text, label⟩ := words.label
  cases label

theorem Document.decode_numberedLabel (levels : Levels) :
    decode levels.count (Text.Utf8.encodeChars (Json.render numberedLabel)) =
      .ok [numberedRecord] := by
  have plain : numberedLabel.IsPlain := by
    simp [numberedLabel, Json.IsPlain, Json.ArePlain, Json.FieldsPlain]
    decide
  have fits : numberedLabel.depth ≤ levels.count :=
    Nat.le_trans (by decide) (Nat.le_of_succ_le levels.enough)
  have joined : numberedLabel.joined = numberedLabel := by
    simp [numberedLabel, Json.joined, Json.joinedItems, Json.joinedFields,
      Text.joined_of_unpaired (Text.unpaired_ofString _)]
  rw [decode, Json.ofBytes_render plain fits, joined]
  rfl

namespace World

def numberedLabel (key : Token.Key) : World where
  files := { entries := [(["data"], .directory), (["data", "keyring.enc"], .file
    (Token.encrypt key 0 (List.replicate 16 0)
      (Text.Utf8.encodeChars (Json.render Document.numberedLabel))))] }

theorem look_numberedLabel (key : Token.Key) :
    (numberedLabel key).files.look ⟨"", ["data", "keyring.enc"]⟩ = .ok (.file (Token.encrypt key 0
      (List.replicate 16 0) (Text.Utf8.encodeChars (Json.render Document.numberedLabel)))) :=
  FileTree.look_eq_ok_iff.mpr ⟨["data", "keyring.enc"],
    FileTree.locate_eq_ok_iff.mpr ⟨by decide, by decide, rfl⟩, rfl⟩

theorem read_numberedLabel (key : Token.Key) :
    (numberedLabel key).files.read ⟨"", ["data", "keyring.enc"]⟩ = .ok (Token.encrypt key 0
      (List.replicate 16 0) (Text.Utf8.encodeChars (Json.render Document.numberedLabel))) := by
  have located : (numberedLabel key).files.locate ⟨"", ["data", "keyring.enc"]⟩ =
      .ok ["data", "keyring.enc"] :=
    FileTree.locate_eq_ok_iff.mpr ⟨by decide, by decide, rfl⟩
  exact FileTree.read_ok_iff.mpr ⟨look_numberedLabel key, FileTree.bars_eq located _⟩

theorem load_numberedLabel (key : Token.Key) (levels : Levels) :
    SealedFile.load ⟨⟨"", ["data", "keyring.enc"]⟩, Token.cipher key, levels⟩
      (numberedLabel key).files =
        .ok [Document.numberedRecord] := by
  have opens : (Token.cipher key).decrypt? (Token.encrypt key 0 (List.replicate 16 0)
      (Text.Utf8.encodeChars (Json.render Document.numberedLabel))) =
        some (Text.Utf8.encodeChars (Json.render Document.numberedLabel)) :=
    Token.decrypt_encrypt key 0 _ List.length_replicate
  simp only [SealedFile.load, FileTree.isThere_of_look (look_numberedLabel key),
    read_numberedLabel key, opens, Document.decode_numberedLabel]
  rfl

end World

/-- Looking that item up ends with an error that is not meant. -/
theorem get_numberedLabel_refused :
    let key : Token.Key := List.replicate 32 0
    let file : SealedFile := ⟨⟨"", ["data", "keyring.enc"]⟩, Token.cipher key, .standard⟩
    let k : Keyring := { (default : Keyring) with service := "sealed-keyring" }
    (∃ t, file.load (World.numberedLabel key).files = .ok t) ∧
      ∃ e : KeyringError, ¬ e.IsOperational ∧
        ((Request.script ⟨k, .get "a"⟩).runSealed file (World.numberedLabel key)).1 =
          .ok (.error e) := by
  intro key file k
  have loads := World.load_numberedLabel key .standard
  have baffled : Request.Baffled ⟨k, .get "a"⟩
      [Document.numberedRecord] :=
    ⟨"a", rfl, _, rfl, Document.not_hasWords_numberedRecord⟩
  obtain ⟨why, refused⟩ := (Request.invalid_loaded loads _).mpr baffled
  exact ⟨⟨_, loads⟩, .invalid why, id, refused⟩

/-- On the command line, under settings that say nothing, it ends with the exit code
of a configuration that is refused. -/
theorem accepted_files_refuse_numbered_label :
    let key := Token.deriveKey (Text.Utf8.encode "sealed-keyring-default") 1
    let file : SealedFile := ⟨⟨"", ["data", "keyring.enc"]⟩, Token.cipher key, .standard⟩
    let w := World.numberedLabel key
    let i : CommandLine.Invocation := ⟨none, false, .get "a"⟩
    (∃ token, w.files.look file.path = .ok (.file token)) ∧ (∃ t, file.load w.files = .ok t) ∧
      (i.run 1 ⟨"", ""⟩ [] w).1.ending = .returned .invalidConfiguration := by
  intro key file w i
  have there := World.look_numberedLabel key
  have loads := World.load_numberedLabel key .standard
  obtain ⟨-, endings⟩ := accepted_files_refuse_wordless_records (w := w) there loads
  have own : Keyring.primitive id 1 .standard {} none = .ok file := by
    simp only [Keyring.primitive, SealedFile.ofStorage, Text.encode_ofString]
    rfl
  obtain ⟨k, opened, opens, service⟩ : ∃ k opened,
      Keyring.ofSettings id 1 .standard {} none = .ok (k, file, opened) ∧
        k.service = "sealed-keyring" :=
    ⟨_, _, Keyring.ofSettings_eq_ok.mpr ⟨.flags, rfl, own, rfl, rfl⟩, rfl⟩
  obtain ⟨code, -⟩ := endings i 1 ⟨"", ""⟩ [] k ⟨{}, rfl, opened, opens⟩
  have found : Table.first? [Document.numberedRecord] k.service "a" =
      some Document.numberedRecord := by
    rw [service]
    rfl
  exact ⟨⟨_, there⟩, ⟨_, loads⟩, code.mpr (.inr ⟨.get "a", rfl, "a", rfl, _, found,
    Document.not_hasWords_numberedRecord⟩)⟩

end SecretStore
