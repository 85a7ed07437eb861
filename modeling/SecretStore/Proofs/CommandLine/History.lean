import SecretStore.Proofs.CommandLine.Ending
import SecretStore.Proofs.CommandLine.Phrase
import SecretStore.Proofs.Settings.Layers
import SecretStore.Proofs.Store.Vault
import SecretStore.Proofs.Text.Utf8

/-!
The command line as a map that lasts. Every command line is a run of its own, which reads
its settings and the sealed file anew. What it prints, and how it ends, is still given by
the commands before it alone: by what they set under a key, by what they removed, and by
the order in which the keys were made. This is so for texts without surrogates, and for a
service without a pair of them, which the file joins.
-/

namespace SecretStore

namespace CommandLine

structure Kept where
  secret : Text
  label : Text
  description : Text
  modified : Moment
deriving DecidableEq, Repr

/-- Commands with the times on the clock at which they were given, the latest first. -/
abbrev History := List (Int × Phrase)

namespace History

/-- What a key holds after a history: the value and the time of its latest set, and the
words of the set that made it, which is the first one since it was last removed. -/
def kept? (key : Text) : History → Option Kept
  | [] => none
  | (clock, .set k value label description _) :: past =>
    if k = key then
      match kept? key past with
      | none => some ⟨value, label.getD "", description.getD "", .ofMicros clock⟩
      | some kept => some { kept with secret := value, modified := .ofMicros clock }
    else kept? key past
  | (_, .remove k) :: past => if k = key then none else kept? key past
  | (_, .get _) :: past | (_, .metadata _) :: past | (_, .list) :: past => kept? key past

/-- The keys that are there after a history, in the order in which they were made. -/
def keys : History → List Text
  | [] => []
  | (_, .set key _ _ _ _) :: past => if key ∈ keys past then keys past else keys past ++ [key]
  | (_, .remove key) :: past => (keys past).filter (· ≠ key)
  | (_, .get _) :: past | (_, .metadata _) :: past | (_, .list) :: past => keys past

end History

def printed (text : Text) : Outcome :=
  ⟨text, "", .returned .success⟩

/-- A run that asks for a key that is not there. -/
def unknown (service key : Text) : Outcome :=
  ⟨"", "error: " ++ (KeyringError.keyNotFound service key).message ++ "\n",
    .returned .keyNotFound⟩

/-- The outcome of a command after a history. -/
def Phrase.outcome (service : Text) (past : History) : Phrase → Outcome
  | .get key => match past.kept? key with
    | none => unknown service key
    | some kept => printed (kept.secret ++ "\n")
  | .metadata key => match past.kept? key with
    | none => unknown service key
    | some kept => printed ("label: " ++ kept.label ++ "\n" ++
        "description: " ++ kept.description ++ "\n" ++
        "modified: " ++ kept.modified.text ++ "\n")
  | .set _ _ _ _ _ => printed ""
  | .remove key => match past.kept? key with
    | none => unknown service key
    | some _ => printed ""
  | .list => printed (Text.join (past.keys.map fun key => key ++ "\n"))

namespace Phrase

def operation : Phrase → Operation
  | .get key => .get key
  | .metadata key => .metadata key
  | .set key value label description noSync =>
    .set ⟨key, Text.Utf8.encodeChars value.shown, label.getD "", description.getD "", !noSync⟩
  | .remove key => .remove key
  | .list => .keys

variable {p : Phrase}

theorem operation_command (whole : p.Whole) : p.command.operation? = some p.operation := by
  cases p with
  | set key value label description noSync =>
    have value_whole : value.IsWhole := whole _ (List.mem_cons_of_mem _ List.mem_cons_self)
    simp only [command, Command.operation?, value_whole.encode, Except.toOption, Option.map_some]
    rfl
  | _ => rfl

theorem Whole.set {key value : Text} {label description : Option Text} {noSync : Bool}
    (whole : (Phrase.set key value label description noSync).Whole) :
    key.IsWhole ∧ value.IsWhole ∧ (label.getD "").IsWhole ∧ (description.getD "").IsWhole := by
  simp only [Whole, texts, List.forall_mem_cons, List.forall_mem_append] at whole
  obtain ⟨key_whole, value_whole, label_whole, description_whole⟩ := whole
  refine ⟨key_whole, value_whole, ?_, ?_⟩
  · cases label with
    | none => exact Text.isWhole_ofString _
    | some text => exact label_whole text (by simp)
  · cases description with
    | none => exact Text.isWhole_ofString _
    | some text => exact description_whole text (by simp)

theorem Whole.lasting (whole : p.Whole) {k : Keyring} (service : k.service.Unpaired)
    (flags : Json.isShort k.policy.flags.bits = true) : Request.Lasting ⟨k, p.operation⟩ := by
  refine ⟨flags, service, fun item sets => ?_⟩
  cases p with
  | set key value label description noSync =>
    cases sets
    obtain ⟨key_whole, -, label_whole, description_whole⟩ := whole.set
    exact ⟨key_whole.unpaired, label_whole.unpaired, description_whole.unpaired⟩
  | _ => cases sets

end Phrase

namespace History

variable {past : History}

theorem whole_kept (whole : ∀ step ∈ past, step.2.Whole) {key : Text} {kept : Kept}
    (there : past.kept? key = some kept) : kept.label.IsWhole ∧ kept.description.IsWhole := by
  induction past generalizing kept with
  | nil => cases there
  | cons step rest ih =>
    obtain ⟨first, others⟩ := List.forall_mem_cons.mp whole
    obtain ⟨clock, p⟩ := step
    cases p with
    | get k | metadata k | list => exact ih others there
    | set k value label description noSync =>
      rw [kept?] at there
      split at there
      · cases before : kept? key rest with
        | none =>
          rw [before] at there
          cases there
          exact ⟨first.set.2.2.1, first.set.2.2.2⟩
        | some old =>
          rw [before] at there
          cases there
          obtain ⟨label, description⟩ := ih others before
          exact ⟨label, description⟩
      · exact ih others there
    | remove k =>
      rw [kept?] at there
      split at there
      · cases there
      · exact ih others there

theorem whole_keys (whole : ∀ step ∈ past, step.2.Whole) : ∀ key ∈ past.keys, key.IsWhole := by
  induction past with
  | nil => nofun
  | cons step rest ih =>
    obtain ⟨first, others⟩ := List.forall_mem_cons.mp whole
    obtain ⟨clock, p⟩ := step
    cases p with
    | get k | metadata k | list => exact ih others
    | set k value label description noSync =>
      intro key member
      rw [keys] at member
      split at member
      · exact ih others key member
      · rcases List.mem_append.mp member with old | new
        · exact ih others key old
        · rw [List.mem_singleton.mp new]
          exact first.set.1
    | remove k =>
      intro key member
      rw [keys] at member
      exact ih others key (List.mem_filter.mp member).1

end History

theorem print_whole {lines : List Text} (whole : ∀ line ∈ lines, line.IsWhole) :
    print lines = (Text.join (lines.map fun line => line ++ "\n"), .returned .success) := by
  induction lines with
  | nil => rfl
  | cons line rest ih =>
    obtain ⟨first, others⟩ := List.forall_mem_cons.mp whole
    rw [print, first.encode]
    simp only [ih others]
    rfl

theorem conclude_whole (style : LogStyle) {lines : List Text}
    (whole : ∀ line ∈ lines, line.IsWhole) : conclude style false [] (.ok lines) =
      printed (Text.join (lines.map fun line => line ++ "\n")) := by
  rw [conclude, print_whole whole]
  rfl

def Kept.ofEntry (e : Entry) : Kept :=
  ⟨Text.ofChars (Text.Utf8.decodeLossy e.data), e.label, e.description, e.modified⟩

/-- The vault that is left by a history of commands on a service. -/
structure Reflects (service : Text) (past : History) (v : Vault) : Prop where
  kept : ∀ key, (v.find? ⟨service, key⟩).map Kept.ofEntry = past.kept? key
  keys : v.keysOf service = past.keys

namespace Reflects

variable {k : Keyring} {past : History} {v : Vault}

theorem cases {service : Text} (reflects : Reflects service past v) (key : Text) :
    (v.find? ⟨service, key⟩ = none ∧ past.kept? key = none) ∨
      ∃ e, v.find? ⟨service, key⟩ = some e ∧ past.kept? key = some (.ofEntry e) := by
  have kept := reflects.kept key
  cases there : v.find? ⟨service, key⟩ with
  | none =>
    rw [there] at kept
    exact .inl ⟨rfl, kept.symm⟩
  | some e =>
    rw [there] at kept
    exact .inr ⟨e, rfl, kept.symm⟩

theorem mem_keys {service : Text} (reflects : Reflects service past v) (key : Text) :
    key ∈ past.keys ↔ ∃ e, v.find? ⟨service, key⟩ = some e := by
  rw [← reflects.keys, Vault.mem_keysOf, Vault.mem_places]

theorem outcome (reflects : Reflects k.service past v) (whole : ∀ step ∈ past, step.2.Whole)
    (p : Phrase) (now : Moment) (style : LogStyle) :
    conclude style false [] ((v.perform now ⟨k, p.operation⟩).1.map answerLines) =
      p.outcome k.service past := by
  cases p with
  | get key =>
    simp only [Phrase.operation, Vault.perform, Phrase.outcome]
    rcases reflects.cases key with ⟨absent, none_kept⟩ | ⟨e, there, kept⟩
    · rw [absent, none_kept]
      rfl
    · rw [there, kept]
      have lines : ∀ line ∈ [Text.ofChars (Text.Utf8.decodeLossy e.data)], line.IsWhole :=
        fun line member => List.mem_singleton.mp member ▸ Text.isWhole_ofChars _
      refine (conclude_whole style lines).trans (congrArg printed (Text.ext ?_))
      simp [Text.join, Kept.ofEntry]
  | metadata key =>
    simp only [Phrase.operation, Vault.perform, Phrase.outcome]
    rcases reflects.cases key with ⟨absent, none_kept⟩ | ⟨e, there, kept⟩
    · rw [absent, none_kept]
      rfl
    · obtain ⟨label, description⟩ := History.whole_kept whole kept
      rw [there, kept]
      have lines : ∀ line ∈ metadataLines ⟨⟨key, [], e.label, e.description, true⟩, e.modified⟩,
          line.IsWhole := by
        simp only [metadataLines, List.forall_mem_cons]
        exact ⟨(Text.isWhole_ofString _).append label, (Text.isWhole_ofString _).append description,
          (Text.isWhole_ofString _).append (Text.isWhole_ofString _), List.forall_mem_nil _⟩
      refine (conclude_whole style lines).trans (congrArg printed (Text.ext ?_))
      simp [Text.join, metadataLines, Kept.ofEntry]
  | set key value label description noSync => rfl
  | remove key =>
    simp only [Phrase.operation, Vault.perform, Phrase.outcome]
    rcases reflects.cases key with ⟨absent, none_kept⟩ | ⟨e, there, kept⟩
    · rw [absent, none_kept]
      rfl
    · rw [there, kept]
      rfl
  | list =>
    have lines : answerLines (.keys (past.keys.map .str)) = past.keys := by
      rw [answerLines, List.map_map]
      exact List.map_id _
    simp only [Phrase.operation, Vault.perform, Phrase.outcome, reflects.keys, Except.map, lines]
    exact conclude_whole style (History.whole_keys whole)

theorem set (reflects : Reflects k.service past v) (clock : Int) {key value : Text}
    (whole : value.IsWhole) (label description : Option Text) (noSync : Bool) :
    Reflects k.service ((clock, .set key value label description noSync) :: past)
      (v.set k ⟨key, Text.Utf8.encodeChars value.shown, label.getD "", description.getD "", !noSync⟩
        (.ofMicros clock)) := by
  have back : Text.ofChars (Text.Utf8.decodeLossy (Text.Utf8.encodeChars value.shown)) = value := by
    rw [Text.Utf8.decodeLossy_encodeChars, whole]
  rcases reflects.cases key with ⟨absent, none_kept⟩ | ⟨e, there, kept⟩
  · rw [Vault.set_absent _ (Vault.find?_eq_none.mp absent)]
    refine ⟨fun other => ?_, ?_⟩
    · rw [Vault.find?_append, History.kept?]
      by_cases same : key = other
      · subst same
        simp only [if_true, none_kept, Option.map_some, Kept.ofEntry, Entry.ofItem, back]
      · rw [if_neg (Place.ne_of_key _ same), if_neg same, reflects.kept]
    · have fresh : key ∉ past.keys := by
        rw [reflects.mem_keys, absent]
        rintro ⟨e, ⟨⟩⟩
      rw [Vault.keysOf_append, reflects.keys, History.keys, if_neg fresh]
  · rw [Vault.set_present _ there]
    refine ⟨fun other => ?_, ?_⟩
    · rw [Vault.find?_modify, History.kept?]
      by_cases same : key = other
      · subst same
        simp only [if_true, there, kept, Option.map_some, Kept.ofEntry, Entry.rewritten, back]
      · rw [if_neg (Place.ne_of_key _ same), if_neg same, reflects.kept]
    · have old : key ∈ past.keys := (reflects.mem_keys key).mpr ⟨e, there⟩
      rw [Vault.keysOf_modify, reflects.keys, History.keys, if_pos old]

theorem remove (reflects : Reflects k.service past v) (clock : Int) (key : Text) :
    Reflects k.service ((clock, .remove key) :: past)
      (v.perform (.ofMicros clock) ⟨k, .remove key⟩).2 := by
  simp only [Vault.perform]
  rcases reflects.cases key with ⟨absent, none_kept⟩ | ⟨e, there, kept⟩
  · rw [absent]
    refine ⟨fun other => ?_, ?_⟩
    · rw [History.kept?]
      by_cases same : key = other
      · subst same
        rw [absent, if_pos rfl]
        rfl
      · rw [if_neg same, reflects.kept]
    · have fresh : key ∉ past.keys := by
        rw [reflects.mem_keys, absent]
        rintro ⟨e, ⟨⟩⟩
      rw [History.keys, reflects.keys, List.filter_eq_self.mpr]
      rintro other member
      simp only [ne_eq, decide_not, Bool.not_eq_true', decide_eq_false_iff_not]
      rintro rfl
      exact fresh member
  · rw [there]
    refine ⟨fun other => ?_, ?_⟩
    · rw [Vault.find?_erase, History.kept?]
      by_cases same : key = other
      · subst same
        rw [if_pos rfl, if_pos rfl]
        rfl
      · rw [if_neg (Place.ne_of_key _ same), if_neg same, reflects.kept]
    · rw [Vault.keysOf_erase, reflects.keys, History.keys]

theorem perform (reflects : Reflects k.service past v) {p : Phrase} (whole : p.Whole)
    (clock : Int) :
    Reflects k.service ((clock, p) :: past) (v.perform (.ofMicros clock) ⟨k, p.operation⟩).2 := by
  cases p with
  | get key | metadata key =>
    simp only [Phrase.operation, Vault.perform]
    rcases reflects.cases key with ⟨absent, -⟩ | ⟨e, there, -⟩
    · rw [absent]
      exact ⟨reflects.kept, reflects.keys⟩
    · rw [there]
      exact ⟨reflects.kept, reflects.keys⟩
  | set key value label description noSync =>
    exact reflects.set clock whole.set.2.1 label description noSync
  | remove key => exact reflects.remove clock key
  | list => exact ⟨reflects.kept, reflects.keys⟩

end Reflects

theorem conclude_quiet {style : LogStyle} {entries : List LogEntry} (quiet : warnings entries = [])
    (result : Except KeyringError (List Text)) :
    conclude style false entries result = conclude style false [] result := by
  have none_shown : shown false entries = [] := by
    rw [← quiet, shown, warnings]
    refine List.filter_congr fun e _ => ?_
    rw [Bool.false_or, beq_eq_decide]
  cases result <;> simp only [conclude, LogStyle.lines, none_shown] <;> rfl

theorem load_found {exhausts : List Char → Bool} {files files' : FileTree} {path : FilePath}
    {content : Bytes} (there : files.read path = .ok content)
    (there' : files'.read path = .ok content) (env : List Overrides.Variable) :
    Settings.load exhausts files' (some path) env =
      Settings.load exhausts files (some path) env := by
  simp only [Settings.load, Settings.fileEntries_some, Settings.isThere_of_read there,
    Settings.isThere_of_read there', there, there']

theorem name_of_file {files : FileTree} {config : Text} {content : Bytes}
    (there : files.read (.ofText config) = .ok content) : config ≠ "" := by
  rintro rfl
  have found := (FileTree.read_ok_iff.mp there).1
  cases found

theorem Invocation.run_answered {i : Invocation} {iterations : Nat} {env : List Overrides.Variable}
    {w : World} {k : Keyring} {file : SealedFile} (opens : i.Opens env iterations w k file)
    (terse : i.verbose = false) {operation : Operation}
    (asks : i.command.operation? = some operation) {answer : SecretStore.Outcome}
    {entries : List LogEntry} {w' : World}
    (ran : (Request.script ⟨k, operation⟩).runSealed file w = (.ok answer, entries, w'))
    (quiet : warnings entries = []) (style : LogStyle) :
    i.run iterations style env w = (conclude style false [] (answer.map answerLines), w') := by
  obtain ⟨settings, loads, opened, opens⟩ := opens
  obtain ⟨strategy, -, -, -, rfl⟩ := Keyring.ofSettings_eq_ok.mp opens
  have silent : warnings (k.openedEntry strategy :: entries) = [] := by
    rw [← List.singleton_append, warnings_append, quiet]
    rfl
  simp only [run, loads, opens, Command.script_operation asks, Script.runSealed_mapResult, ran,
    terse]
  exact congrArg (·, w') (conclude_quiet silent _)

/-- A command behind the name of a configuration file, as a command line at some time. -/
def give (iterations : Nat) (style : LogStyle) (env : List Overrides.Variable) (config : Text)
    (step : Int × Phrase) (w : World) : Outcome × World :=
  run iterations style env ("--config" :: config :: step.2.words) { w with clock := step.1 }

def History.add (service : Text) (step : Int × Phrase) (past : History) : Outcome × History :=
  (step.2.outcome service past, step :: past)

/-- What a history of commands leaves: a file with a vault that reflects it, beside it
the configuration file, and the room on the stack. -/
structure Left (file : SealedFile) (service : Text) (config : FilePath) (content : Bytes)
    (stack : Stack) (w : World) (past : History) (v : Vault) : Prop where
  holds : file.Holds w.files v.table
  lasting : v.table.Lasting
  beside : w.files.Beside file.path config content
  stack : w.stack = stack
  whole : ∀ step ∈ past, step.2.Whole
  reflects : Reflects service past v

theorem left_nothing {file : SealedFile} (service : Text) {w : World} {config : FilePath}
    {content : Bytes} (free : w.files.Free file.path)
    (there : w.files.read config = .ok content) :
    Left file service config content w.stack w [] .empty where
  holds := .nothing free
  lasting := .empty
  beside := free.beside there
  stack := rfl
  whole := nofun
  reflects := ⟨fun _ => rfl, rfl⟩

/-- A keyring over a file, for which a configuration file has the settings. -/
structure Configured (config : Text) (env : List Overrides.Variable) (iterations : Nat)
    (w : World) (k : Keyring) (file : SealedFile) (content : Bytes) (settings : Settings) :
    Prop where
  read : w.files.read (.ofText config) = .ok content
  loads : Settings.load w.stack.exhausts w.files (some (.ofText config)) env = .ok settings
  opens : ∃ opened, Keyring.ofSettings id iterations w.stack.json settings none =
    .ok (k, file, opened)

section Give

variable {config : Text} {env : List Overrides.Variable} {iterations : Nat} {start w : World}
  {k : Keyring} {file : SealedFile} {content : Bytes} {settings : Settings} {step : Int × Phrase}

theorem give_answered (configured : Configured config env iterations start k file content settings)
    (beside : w.files.Beside file.path (.ofText config) content) (stack : w.stack = start.stack)
    (named : Plain config) (plain : step.2.Plain) (whole : step.2.Whole)
    {answer : SecretStore.Outcome} {entries : List LogEntry} {w' : World}
    (ran : (Request.script ⟨k, step.2.operation⟩).runSealed file { w with clock := step.1 } =
      (.ok answer, entries, w')) (quiet : warnings entries = []) (style : LogStyle) :
    give iterations style env config step w =
        (conclude style false [] (answer.map answerLines), w') ∧
      w'.files.Beside file.path (.ofText config) content ∧ w'.stack = start.stack := by
  obtain ⟨clock, p⟩ := step
  obtain ⟨there, loads, opened, opens⟩ := configured
  have config_path : (Invocation.mk (some (some config)) false p.command).configPath =
      some (.ofText config) := by
    simp [Invocation.configPath, Option.filter, name_of_file there]
  have ready : (Invocation.mk (some (some config)) false p.command).Opens env iterations
      { w with clock } k file := by
    refine ⟨settings, ?_, opened, ?_⟩
    · rw [config_path, load_found there beside.file, stack]
      exact loads
    · rw [stack]
      exact opens
  have beside' := (Request.script ⟨k, p.operation⟩).runSealed_beside (w := { w with clock }) beside
  have stack' := (Request.script ⟨k, p.operation⟩).stack_runSealed file { w with clock }
  rw [ran] at beside' stack'
  refine ⟨?_, beside', stack'.trans stack⟩
  rw [give, run, Phrase.read_words named plain]
  exact Invocation.run_answered ready rfl (Phrase.operation_command whole) ran quiet style

variable (step) in
theorem give_kept (configured : Configured config env iterations start k file content settings)
    {t : Table} (keeps : file.Keeps w t)
    (beside : w.files.Beside file.path (.ofText config) content) (stack : w.stack = start.stack)
    (named : Plain config) (plain : step.2.Plain) (whole : step.2.Whole)
    (valid : (Moment.ofMicros step.1).Valid) (style : LogStyle) :
    let kept := (Keeper.sealed file).perform (step.1, ⟨k, step.2.operation⟩) t
    ∀ answer, kept.1.result = .ok answer → warnings kept.1.entries = [] →
      ∃ w', give iterations style env config step w =
          (conclude style false [] (answer.map answerLines), w') ∧ file.Keeps w' kept.2 ∧
        w'.files.Beside file.path (.ofText config) content ∧ w'.stack = start.stack := by
  intro kept answer result quiet
  obtain ⟨opened, opens⟩ := configured.opens
  obtain ⟨same, still⟩ : kept.1 = (file.perform (step.1, ⟨k, step.2.operation⟩) w).1 ∧
      file.Keeps (file.perform (step.1, ⟨k, step.2.operation⟩) w).2 kept.2 :=
    SealedFile.perform_kept (Keyring.lawful_ofSettings opens) keeps valid
  obtain ⟨ended, entries, left⟩ := (Request.script ⟨k, step.2.operation⟩).course_runSealed file
    { w with clock := step.1 }
  rcases ran : (Request.script ⟨k, step.2.operation⟩).runSealed file { w with clock := step.1 }
    with ⟨result', entries', w'⟩
  rw [ran] at ended entries left
  have result : result' = .ok answer :=
    ended.symm.trans ((congrArg Course.result same.symm).trans result)
  have quiet : warnings entries' = [] :=
    (congrArg warnings (entries.symm.trans (congrArg Course.entries same.symm))).trans quiet
  cases result
  obtain ⟨given, beside', stack'⟩ := give_answered configured beside stack named plain whole ran
    quiet style
  rw [SealedFile.perform, left] at still
  exact ⟨w', given, still, beside', stack'⟩

theorem Left.give (configured : Configured config env iterations start k file content settings)
    {past : History} {v : Vault}
    (left : Left file k.service (.ofText config) content start.stack w past v)
    (named : Plain config) (service : k.service.Unpaired) (plain : step.2.Plain)
    (whole : step.2.Whole) (valid : (Moment.ofMicros step.1).Valid) (style : LogStyle) :
    let given := CommandLine.give iterations style env config step w
    given.1 = step.2.outcome k.service past ∧
      ∃ v', Left file k.service (.ofText config) content start.stack given.2 (step :: past) v' := by
  obtain ⟨opened, opens⟩ := configured.opens
  have lasting := whole.lasting service (Keyring.isShort_ofSettings opens)
  obtain ⟨ended, warned, held, kept⟩ := Request.runSealed_vault (w := { w with clock := step.1 })
    (Keyring.lawful_ofSettings opens) lasting left.holds left.lasting valid
  rcases ran : (Request.script ⟨k, step.2.operation⟩).runSealed file { w with clock := step.1 }
    with ⟨result, entries, w'⟩
  rw [ran] at ended warned held
  cases ended
  obtain ⟨given, beside, stack⟩ := give_answered configured left.beside left.stack named plain
    whole ran warned style
  rw [given]
  exact ⟨left.reflects.outcome left.whole step.2 _ style, _, held, kept, beside, stack,
    List.forall_mem_cons.mpr ⟨whole, left.whole⟩, left.reflects.perform whole step.1⟩

end Give

end CommandLine

open CommandLine

/-- A configuration file that loads, and whose settings are those of a keyring with a free
path for its file, makes the command line a map that lasts: every command, given behind its
name, has the outcome that the commands before it give. The service has no pair of
surrogates, and the texts of the commands have none at all. -/
theorem command_lines_keep_map {config : Text} (named : Plain config) {w : World}
    {content : Bytes} (there : w.files.read (.ofText config) = .ok content)
    {env : List Overrides.Variable} {settings : Settings}
    (loads : Settings.load w.stack.exhausts w.files (some (.ofText config)) env = .ok settings)
    {iterations : Nat} {k : Keyring} {file : SealedFile} {opened : LogEntry}
    (opens : Keyring.ofSettings id iterations w.stack.json settings none = .ok (k, file, opened))
    (service : k.service.Unpaired) (free : w.files.Free file.path) {steps : List (Int × Phrase)}
    (plain : ∀ step ∈ steps, step.2.Plain) (whole : ∀ step ∈ steps, step.2.Whole)
    (valid : ∀ step ∈ steps, (Moment.ofMicros step.1).Valid) (style : LogStyle) :
    (inTurn (give iterations style env config) steps w).1 =
      (inTurn (History.add k.service) steps []).1 := by
  have configured : Configured config env iterations w k file content settings :=
    ⟨there, loads, opened, opens⟩
  have one : ∀ step ∈ steps, ∀ (past : History) (w' : World),
      (∃ v, Left file k.service (.ofText config) content w.stack w' past v) →
      let given := give iterations style env config step w'
      given.1 = step.2.outcome k.service past ∧
        ∃ v, Left file k.service (.ofText config) content w.stack given.2 (step :: past) v := by
    rintro step member past w' ⟨v, left⟩
    exact left.give configured named service (plain step member) (whole step member)
      (valid step member) style
  have same : (inTurn (give iterations style env config) (steps.map id) w).1 =
      (inTurn (History.add k.service) steps []).1.map id :=
    inTurn_related _ one ⟨.empty, left_nothing k.service free there⟩
  rwa [List.map_id, List.map_id] at same

def World.configFile (content : Bytes) : World where
  files := { entries := [(["k.yaml"], .file content)] }

theorem World.read_configFile (content : Bytes) :
    (configFile content).files.read (.ofText "k.yaml") = .ok content := by
  rfl

theorem World.free_configFile (content : Bytes) :
    (configFile content).files.Free (.ofText "./data/keyring.enc") :=
  ⟨by rfl, by rfl, by rfl, FileTree.permits_of_denied rfl _⟩

def Keyring.legacy (service : Text) : Keyring where
  service := service
  policy := ⟨.standard, .ofFactors [.biometryCurrentSet]⟩
  reuse := .zero
  synchronizable := false

theorem World.configured {content : Bytes} {service : Text}
    (named : ∃ text, Settings.decodeFile content = .ok text ∧
      Stack.standard.exhausts text = false ∧ Yaml.read text = .ok (.mapping [(.text "keyring",
        .mapping [(.text "policy", .text "legacy"), (.text "service_name", .text service)])])) :
    ∃ file settings,
      Configured "k.yaml" [] 1 (configFile content) (.legacy service) file content settings ∧
      (configFile content).files.Free file.path := by
  obtain ⟨text, decoded, room, read⟩ := named
  have there := read_configFile content
  obtain ⟨file, own, path⟩ : ∃ file, Keyring.primitive id 1 .standard {} none = .ok file ∧
      file.path = .ofText "./data/keyring.enc" := by
    simp only [Keyring.primitive, SealedFile.ofStorage, Text.encode_ofString]
    exact ⟨_, rfl, rfl⟩
  have loads : Settings.load (configFile content).stack.exhausts (configFile content).files
      (some (.ofText "k.yaml")) [] =
        .ok { keyring := { serviceName := service, policy := "legacy" } } := by
    have room : (configFile content).stack.exhausts text = false := room
    simp only [Settings.load, Settings.fileEntries_some, Settings.isThere_of_read there, there,
      decoded, room, Bool.false_eq_true, if_false, read]
    rfl
  exact ⟨file, _, ⟨there, loads, _, Keyring.ofSettings_eq_ok.mpr ⟨.legacy, rfl, own, rfl, rfl⟩⟩,
    path ▸ free_configFile content⟩

/-- A key that is set twice, shown, removed and looked up again. -/
theorem command_lines_keep_map_rewritten :
    (inTurn (give 1 ⟨"", ""⟩ [] "k.yaml") [(0, .set "x" "one" (some "old") none false),
        (1000000, .set "x" "two" (some "new") none true), (2000000, .get "x"),
        (3000000, .metadata "x"), (4000000, .list), (5000000, .remove "x"),
        (6000000, .get "x")] (.configFile (Text.Utf8.encode
          "keyring:\n  policy: legacy\n  service_name: a\n"))).1 =
      [printed "", printed "", printed "two\n",
        printed "label: old\ndescription: \nmodified: 1970-01-01T00:00:01+00:00\n",
        printed "x\n", printed "", unknown "a" "x"] := by
  obtain ⟨file, settings, ⟨there, loads, opened, opens⟩, free⟩ :=
    World.configured Settings.read_policyFile
  have named : Plain "k.yaml" := by decide
  rw [command_lines_keep_map named there loads opens (Text.unpaired_ofString "a") free
    (by decide) (by decide) (by decide) ⟨"", ""⟩]
  rfl

/-- A service that an escape in the configuration file writes as the two halves of a
surrogate pair is joined in the sealed file, and what is set in it is not found again. -/
theorem paired_service_loses_key :
    (inTurn (give 1 ⟨"", ""⟩ [] "k.yaml") [(0, .set "a" "x" none none false), (1000000, .get "a")]
      (.configFile (Text.Utf8.encode
        "keyring:\n  policy: legacy\n  service_name: \"\\ud83d\\ude00\"\n"))).1 =
      [printed "", unknown ⟨[.surrogate 0x3d, .surrogate 0x600]⟩ "a"] := by
  have read := Settings.read_of_pairedWords (Text.Utf8.encode
      "keyring:\n  policy: legacy\n  service_name: \"\\ud83d\\ude00\"\n")
    (a := "keyring") (b := "policy") (c := "legacy") (d := "service_name")
    (e := ⟨[.surrogate 0x3d, .surrogate 0x600]⟩) (by decide +kernel)
  obtain ⟨file, settings, configured, free⟩ := World.configured read
  have keeps : file.Keeps (.configFile _) [] :=
    ⟨(SealedFile.Holds.nothing free).serves .empty, .empty⟩
  have named : Plain "k.yaml" := by decide
  obtain ⟨w, set, keeps, beside, stack⟩ := give_kept (0, .set "a" "x" none none false)
    configured keeps (free.beside configured.read) rfl named (by decide) (by decide) (by decide)
    ⟨"", ""⟩ (.ok .done) rfl rfl
  obtain ⟨w', got, -⟩ := give_kept (1000000, .get "a") configured keeps beside stack
    named (by decide) (by decide) (by decide) ⟨"", ""⟩ (.error (.keyNotFound _ "a")) rfl rfl
  rw [inTurn_cons, inTurn_cons, set, got]
  rfl

end SecretStore
