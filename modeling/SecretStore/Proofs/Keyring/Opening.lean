import SecretStore.CommandLine.Run
import SecretStore.Proofs.Keyring.Authentication
import SecretStore.Proofs.Policy.Strategy

/-!
Opening a keyring. A configuration is looked at in one order, and what is reported of it
is the first thing that is wrong: the name of its strategy, then its reuse window, then
what the strategy finds. Settings are opened as their configuration is, over a primitive
that is given; without one the passphrase of the file comes in between, behind the name of
the strategy. A primitive is handed on as it is, and no file is read or written, until
there is a keyring that does so.
-/

namespace SecretStore

namespace Strategy

variable {config : KeyringConfig}

/-- What each strategy makes of a configuration, or reports of it. The legacy strategy looks
for factors that mean nothing, then at the name of the constraint, and only then says that
it takes neither. -/
inductive Settles (config : KeyringConfig) : Strategy → Except Misconfiguration AccessPolicy → Prop
  | refused {why : Misconfiguration} (refuses : Refuses config why) :
    Settles config .flags (.error why)
  | made {policy : AccessPolicy} (makes : Makes config policy) : Settles config .flags (.ok policy)
  | factor {before after : List Text} {unknown : Text}
      (list : config.controlFlags = before ++ unknown :: after)
      (known : ∀ name ∈ before, Factor.Named name) (stranger : ¬ Factor.Named unknown) :
    Settles config .legacy (.error (.unknownFactor unknown))
  | constraint (known : ∀ name ∈ config.controlFlags, Factor.Named name)
      (unsupported : ¬ Constraint.Supported config.constraint) :
    Settles config .legacy (.error (Constraint.fault config.constraint))
  | unsupported (known : ∀ name ∈ config.controlFlags, Factor.Named name)
      (supported : Constraint.Supported config.constraint)
      (given : config.controlFlags ≠ [] ∨ config.constraint ≠ "") :
    Settles config .legacy (.error .unsupportedByLegacy)
  | legacy (unlisted : config.controlFlags = []) (unnamed : config.constraint = "") :
    Settles config .legacy (.ok
      ⟨if config.accessibleWhenUnlocked then .whenUnlocked else .standard,
        .ofFactors [.biometryCurrentSet]⟩)

theorem resolve_legacy (config : KeyringConfig) : Strategy.legacy.resolve config = (do
    let _ ← Flags.resolve config.controlFlags
    let _ ← Constraint.resolve config.constraint
    if !config.controlFlags.isEmpty || config.constraint ≠ "" then .error .unsupportedByLegacy
    else
      let constraint :=
        if config.accessibleWhenUnlocked then .whenUnlocked else Constraint.standard
      return ⟨constraint, .ofFactors [.biometryCurrentSet]⟩) := rfl

theorem Settles.resolve {s : Strategy} {result : Except Misconfiguration AccessPolicy}
    (settles : Settles config s result) : s.resolve config = result := by
  cases settles with
  | refused refuses => exact refuses.resolve
  | made makes => exact makes.resolve
  | factor list known stranger =>
    rw [resolve_legacy, list, Flags.resolve, Factor.resolveAll_unknown known stranger]
    rfl
  | constraint known unsupported =>
    obtain ⟨fs, names⟩ := Factor.exists_factors known
    rw [resolve_legacy, Flags.resolve, ← names, Factor.resolveAll_names,
      Constraint.resolve_of_not_supported unsupported]
    rfl
  | unsupported known supported given =>
    obtain ⟨fs, names⟩ := Factor.exists_factors known
    obtain ⟨c, resolved⟩ := Constraint.resolve_of_supported supported
    have some_given : (!config.controlFlags.isEmpty || decide (config.constraint ≠ "")) = true := by
      simpa using given
    rw [resolve_legacy, some_given, Flags.resolve, ← names, Factor.resolveAll_names, resolved]
    rfl
  | legacy unlisted unnamed =>
    rw [resolve_legacy, unlisted, unnamed]
    rfl

theorem exists_settles (config : KeyringConfig) (s : Strategy) :
    ∃ result, Settles config s result := by
  cases s with
  | flags =>
    rcases refuses_or_makes config with ⟨why, refuses⟩ | ⟨policy, makes⟩
    · exact ⟨_, .refused refuses⟩
    · exact ⟨_, .made makes⟩
  | legacy =>
    rcases Factor.named_or_unknown config.controlFlags with
      known | ⟨before, unknown, after, list, known, stranger⟩
    · by_cases supported : Constraint.Supported config.constraint
      · by_cases given : config.controlFlags ≠ [] ∨ config.constraint ≠ ""
        · exact ⟨_, .unsupported known supported given⟩
        · rw [not_or, not_ne_iff, not_ne_iff] at given
          exact ⟨_, .legacy given.1 given.2⟩
      · exact ⟨_, .constraint known supported⟩
    · exact ⟨_, .factor list known stranger⟩

theorem settles_iff {s : Strategy} {result : Except Misconfiguration AccessPolicy} :
    Settles config s result ↔ s.resolve config = result := by
  refine ⟨Settles.resolve, ?_⟩
  rintro rfl
  obtain ⟨result, settles⟩ := exists_settles config s
  rwa [settles.resolve]

theorem legacy_accepts_iff : (∃ policy, Strategy.legacy.resolve config = .ok policy) ↔
    config.controlFlags = [] ∧ config.constraint = "" := by
  constructor
  · rintro ⟨policy, resolved⟩
    cases settles_iff.mpr resolved with
    | legacy unlisted unnamed => exact ⟨unlisted, unnamed⟩
  · exact fun ⟨unlisted, unnamed⟩ => ⟨_, (Settles.legacy unlisted unnamed).resolve⟩

theorem ofName_name (s : Strategy) : ofName s.name = .ok s := by
  cases s <;> decide

theorem ofName_unknown {given : Text} (unknown : ∀ s : Strategy, given ≠ s.name) :
    ofName given = .error (.unknownStrategy given) := by
  have flags : given ≠ "flags" := unknown .flags
  have legacy : given ≠ "legacy" := unknown .legacy
  rw [ofName, if_neg flags, if_neg legacy]

end Strategy

namespace Keyring

variable {config : KeyringConfig}

inductive Opening (config : KeyringConfig) : Except Misconfiguration Keyring → Prop
  | unknown (unknown : ∀ s : Strategy, config.policy ≠ s.name) :
    Opening config (.error (.unknownStrategy config.policy))
  | negative {s : Strategy} (named : config.policy = s.name)
      (negative : config.reuse.micros < 0) :
    Opening config (.error (.negativeReuse config.reuse))
  | refused {s : Strategy} {why : Misconfiguration} (named : config.policy = s.name)
      (window : 0 ≤ config.reuse.micros) (settles : s.Settles config (.error why)) :
    Opening config (.error why)
  | opened {s : Strategy} {policy : AccessPolicy} (named : config.policy = s.name)
      (window : 0 ≤ config.reuse.micros) (settles : s.Settles config (.ok policy)) :
    Opening config (.ok ⟨config.serviceName, policy, config.reuse, config.synchronizable⟩)

theorem open_by_name (config : KeyringConfig) : Keyring.open? config =
    (Strategy.ofName config.policy).bind fun s => Keyring.open? config (some s) := by
  cases named : Strategy.ofName config.policy with
  | error why =>
    rw [open_eq, Option.elim, named]
    rfl
  | ok s =>
    rw [open_eq, Option.elim, named]
    exact (open_eq config (some s)).symm

theorem open_named {s : Strategy} (named : config.policy = s.name) :
    Keyring.open? config = Keyring.open? config (some s) := by
  rw [open_by_name, named, Strategy.ofName_name]
  rfl

theorem open_window (window : 0 ≤ config.reuse.micros) (s : Strategy) :
    Keyring.open? config (some s) = (s.resolve config).map fun policy =>
      ⟨config.serviceName, policy, config.reuse, config.synchronizable⟩ := by
  have checked : checkReuse config.reuse = .ok config.reuse := if_neg (Int.not_lt.mpr window)
  rw [open_eq, checked, Option.elim]
  simp only [bind, Except.bind, pure, Except.pure]
  cases s.resolve config <;> rfl

theorem open_negative (negative : config.reuse.micros < 0) (s : Strategy) :
    Keyring.open? config (some s) = .error (.negativeReuse config.reuse) := by
  have checked : checkReuse config.reuse = .error (.negativeReuse config.reuse) := if_pos negative
  rw [open_eq, checked]
  rfl

theorem Opening.open {result : Except Misconfiguration Keyring} (opening : Opening config result) :
    Keyring.open? config = result := by
  cases opening with
  | unknown unknown =>
    rw [open_eq, Option.elim, Strategy.ofName_unknown unknown]
    rfl
  | negative named negative => rw [open_named named, open_negative negative]
  | refused named window settles =>
    rw [open_named named, open_window window, settles.resolve]
    rfl
  | opened named window settles =>
    rw [open_named named, open_window window, settles.resolve]
    rfl

theorem exists_opening (config : KeyringConfig) : ∃ result, Opening config result := by
  by_cases known : ∃ s : Strategy, config.policy = s.name
  · obtain ⟨s, named⟩ := known
    by_cases window : 0 ≤ config.reuse.micros
    · obtain ⟨why | policy, settles⟩ := Strategy.exists_settles config s
      · exact ⟨_, .refused named window settles⟩
      · exact ⟨_, .opened named window settles⟩
    · exact ⟨_, .negative named (Int.not_le.mp window)⟩
  · exact ⟨_, .unknown fun s named => known ⟨s, named⟩⟩

theorem opening_iff {result : Except Misconfiguration Keyring} :
    Opening config result ↔ Keyring.open? config = result := by
  refine ⟨Opening.open, ?_⟩
  rintro rfl
  obtain ⟨result, opening⟩ := exists_opening config
  rwa [opening.open]

theorem opens_iff : (∃ k, Keyring.open? config = .ok k) ↔ 0 ≤ config.reuse.micros ∧
    (config.policy = "flags" ∧ (∃ policy, Strategy.flags.resolve config = .ok policy) ∨
      config.policy = "legacy" ∧ config.controlFlags = [] ∧ config.constraint = "") := by
  rw [← Strategy.legacy_accepts_iff]
  constructor
  · rintro ⟨k, opens⟩
    cases opening_iff.mpr opens with
    | @opened s policy named window settles =>
      refine ⟨window, ?_⟩
      cases s with
      | flags => exact .inl ⟨named, policy, settles.resolve⟩
      | legacy => exact .inr ⟨named, policy, settles.resolve⟩
  · rintro ⟨window, ⟨named, policy, resolved⟩ | ⟨named, policy, resolved⟩⟩
    · have settles := Strategy.settles_iff.mpr resolved
      exact ⟨_, (Opening.opened (s := .flags) named window settles).open⟩
    · have settles := Strategy.settles_iff.mpr resolved
      exact ⟨_, (Opening.opened (s := .legacy) named window settles).open⟩

theorem mapError_eq_ok {α ε ε' : Type} {f : ε → ε'} {x : Except ε α} {a : α} :
    x.mapError f = .ok a ↔ x = .ok a := by
  cases x <;> simp [Except.mapError]

section Settings

variable {π : Type} {own : SealedFile → π} {iterations : Nat} {levels : Levels}
  {settings : Settings} {given : Option π}

theorem ofSettings_eq_ok {k : Keyring} {p : π} {opened : LogEntry} :
    ofSettings own iterations levels settings given = .ok (k, p, opened) ↔
      ∃ strategy, Strategy.ofName settings.keyring.policy = .ok strategy ∧
        primitive own iterations levels settings.storage given = .ok p ∧
        Keyring.open? settings.keyring (some strategy) = .ok k ∧
        opened = k.openedEntry strategy := by
  constructor
  · intro opens
    rw [ofSettings] at opens
    obtain ⟨strategy, named, opens⟩ := exists_of_bind opens
    obtain ⟨p, there, opens⟩ := exists_of_bind opens
    obtain ⟨k, made, opens⟩ := exists_of_bind opens
    cases opens
    exact ⟨strategy, mapError_eq_ok.mp named, there, mapError_eq_ok.mp made, rfl⟩
  · rintro ⟨strategy, named, there, made, rfl⟩
    have made := mapError_eq_ok (f := Unopened.misconfigured).mpr made
    simp only [ofSettings, mapError_eq_ok.mpr named, there, bind, Except.bind, made]
    rfl

variable (settings)

theorem ofSettings_over {p : π}
    (there : primitive own iterations levels settings.storage given = .ok p) :
    (ofSettings own iterations levels settings given).map (fun (k, p, _) => (k, p)) =
      ((Keyring.open? settings.keyring).map (·, p)).mapError .misconfigured := by
  rw [open_by_name, ofSettings, there]
  cases Strategy.ofName settings.keyring.policy with
  | error why => rfl
  | ok s =>
    simp only [bind, Except.bind, Except.mapError]
    cases Keyring.open? settings.keyring (some s) <;> rfl

/-- A strategy that nobody knows is reported whatever the primitive is. -/
theorem ofSettings_unknown (unknown : ∀ s : Strategy, settings.keyring.policy ≠ s.name) :
    ofSettings own iterations levels settings given =
      .error (.misconfigured (.unknownStrategy settings.keyring.policy)) := by
  rw [ofSettings, Strategy.ofName_unknown unknown]
  rfl

theorem ofSettings_without {s : Strategy} (named : settings.keyring.policy = s.name)
    {why : Unopened}
    (absent : primitive own iterations levels settings.storage given = .error why) :
    ofSettings own iterations levels settings given = .error why := by
  rw [ofSettings, named, Strategy.ofName_name, absent]
  rfl

variable {settings}

theorem primitive_error_iff {c : StorageConfig} {why : Unopened} :
    primitive own iterations levels c given = .error why ↔
      given = none ∧ ∃ text, why = .passphrase text ∧ Text.encode c.passphrase = .error text := by
  cases given with
  | some p => simp [primitive]
  | none =>
    simp only [primitive, SealedFile.ofStorage, true_and]
    cases Text.encode c.passphrase with
    | error text => simp [bind, Except.bind, Except.map, Except.mapError, eq_comm]
    | ok passphrase => simp [bind, Except.bind, pure, Except.pure, Except.map, Except.mapError]

theorem ofSettings_passphrase_iff {why : Text.Unencodable} :
    ofSettings own iterations levels settings given = .error (.passphrase why) ↔
      given = none ∧ Text.encode settings.storage.passphrase = .error why ∧
        ∃ s : Strategy, settings.keyring.policy = s.name := by
  constructor
  · intro fails
    by_cases known : ∃ s : Strategy, settings.keyring.policy = s.name
    · obtain ⟨s, named⟩ := known
      cases there : primitive own iterations levels settings.storage given with
      | error other =>
        cases (ofSettings_without settings named there).symm.trans fails
        obtain ⟨absent, text, same, unencodable⟩ := primitive_error_iff.mp there
        cases same
        exact ⟨absent, unencodable, s, named⟩
      | ok p =>
        have settled := ofSettings_over settings there
        rw [fails] at settled
        cases result : Keyring.open? settings.keyring <;> rw [result] at settled <;> cases settled
    · rw [ofSettings_unknown settings fun s named => known ⟨s, named⟩] at fails
      cases fails
  · rintro ⟨rfl, unencodable, s, named⟩
    exact ofSettings_without settings named (primitive_error_iff.mpr ⟨rfl, why, rfl, unencodable⟩)

theorem primitive_map {π' : Type} (f : π → π') (c : StorageConfig) :
    primitive (f ∘ own) iterations levels c (given.map f) =
      (primitive own iterations levels c given).map f := by
  cases given with
  | some p => rfl
  | none =>
    simp only [primitive, Option.map_none]
    cases SealedFile.ofStorage c iterations levels <;> rfl

/-- A primitive that is handed on is not looked at: another one takes its place. -/
theorem ofSettings_map {π' : Type} (f : π → π') :
    ofSettings (f ∘ own) iterations levels settings (given.map f) =
      (ofSettings own iterations levels settings given).map fun (k, p, opened) =>
        (k, f p, opened) := by
  rw [ofSettings, ofSettings, primitive_map]
  cases Strategy.ofName settings.keyring.policy with
  | error why => rfl
  | ok s =>
    cases primitive own iterations levels settings.storage given with
    | error why => rfl
    | ok p =>
      simp only [bind, Except.bind, Except.mapError, Except.map]
      cases Keyring.open? settings.keyring (some s) <;> rfl

end Settings

end Keyring

namespace CommandLine.Invocation

variable {i : Invocation} {env : List Overrides.Variable} {w : World} {settings : Settings}
  {iterations : Nat} (style : LogStyle)

theorem run_misconfigured {why : Misconfiguration}
    (loads : Settings.load w.stack.exhausts w.files i.configPath env = .ok settings)
    (fails : Keyring.ofSettings id iterations w.stack.json settings none =
      .error (.misconfigured why)) : i.run iterations style env w =
      (conclude style i.verbose [] (.error (.misconfigured why)), w) := by
  simp only [run, loads, fails]

theorem run_without_passphrase {why : Text.Unencodable}
    (loads : Settings.load w.stack.exhausts w.files i.configPath env = .ok settings)
    (fails : Keyring.ofSettings id iterations w.stack.json settings none =
      .error (.passphrase why)) : i.run iterations style env w =
      (abort style i.verbose [] (.unencodable why), w) := by
  simp only [run, loads, fails]

theorem run_opened {k : Keyring} {file : SealedFile} {opened : LogEntry}
    {script : Script (List Text)}
    (loads : Settings.load w.stack.exhausts w.files i.configPath env = .ok settings)
    (opens : Keyring.ofSettings id iterations w.stack.json settings none = .ok (k, file, opened))
    (command : i.command.script k = .ok script) :
    (i.run iterations style env w).2 = (script.runSealed file w).2.2 := by
  simp only [run, loads, opens, command]
  rcases script.runSealed file w with ⟨why | result, entries, w'⟩ <;> rfl

end CommandLine.Invocation

/-- A configuration opens exactly if it names a strategy that takes it and its reuse window
is not negative; the legacy strategy takes it if it gives no factors and no constraint. What
is reported of any other is the first thing that is wrong. Settings come to the same over a
primitive that is given, which is handed on and not looked at. Without one they come to the
same if the passphrase has bytes; one that has none is what is reported of settings that
name a strategy, before anything else is checked. On the command line the world in which a
command starts is the one before, and it stays so if nothing opens. -/
theorem keyrings_open_exactly (config : KeyringConfig) :
    ((∃ k, Keyring.open? config = .ok k) ↔ 0 ≤ config.reuse.micros ∧
      (config.policy = "flags" ∧ (∃ policy, Strategy.flags.resolve config = .ok policy) ∨
        config.policy = "legacy" ∧ config.controlFlags = [] ∧ config.constraint = "")) ∧
    (∀ result, Keyring.open? config = result ↔ Keyring.Opening config result) ∧
    (∀ {π : Type} (own : SealedFile → π) (iterations : Nat) (levels : Levels)
      (storage : StorageConfig),
      let settled := Keyring.ofSettings own iterations levels ⟨config, storage⟩
      let same (p : π) := ((Keyring.open? config).map (·, p)).mapError Unopened.misconfigured
      (∀ p, (settled (some p)).map (fun (k, p, _) => (k, p)) = same p) ∧
      (∀ passphrase, Text.encode storage.passphrase = .ok passphrase →
        (settled none).map (fun (k, p, _) => (k, p)) = same (own ⟨.ofText storage.path,
          Token.cipher (Token.deriveKey passphrase iterations), levels⟩)) ∧
      (∀ why, Text.encode storage.passphrase = .error why →
        ((∃ s : Strategy, config.policy = s.name) → settled none = .error (.passphrase why)) ∧
        ((∀ s : Strategy, config.policy ≠ s.name) →
          settled none = .error (.misconfigured (.unknownStrategy config.policy)))) ∧
      ∀ {π' : Type} (f : π → π') (given : Option π),
        Keyring.ofSettings (f ∘ own) iterations levels ⟨config, storage⟩ (given.map f) =
          (settled given).map fun (k, p, opened) => (k, f p, opened)) ∧
    ∀ (i : CommandLine.Invocation) (env : List Overrides.Variable) (w : World)
      (iterations : Nat) (style : CommandLine.LogStyle) (storage : StorageConfig),
      Settings.load w.stack.exhausts w.files i.configPath env = .ok ⟨config, storage⟩ →
      let settled := Keyring.ofSettings id iterations w.stack.json ⟨config, storage⟩ none
      (∀ why, settled = .error (.misconfigured why) → i.run iterations style env w =
        (CommandLine.conclude style i.verbose [] (.error (.misconfigured why)), w)) ∧
      (∀ why, settled = .error (.passphrase why) → i.run iterations style env w =
        (CommandLine.abort style i.verbose [] (.unencodable why), w)) ∧
      ∀ k file opened script, settled = .ok (k, file, opened) → i.command.script k = .ok script →
        (i.run iterations style env w).2 = (script.runSealed file w).2.2 := by
  refine ⟨Keyring.opens_iff, fun result => Keyring.opening_iff.symm, ?_, ?_⟩
  · intro π own iterations levels storage
    refine ⟨fun p => Keyring.ofSettings_over ⟨config, storage⟩ rfl,
      fun passphrase encoded => ?_, fun why fails =>
        ⟨?_, Keyring.ofSettings_unknown ⟨config, storage⟩⟩,
      fun f given => Keyring.ofSettings_map f⟩
    · refine Keyring.ofSettings_over ⟨config, storage⟩ ?_
      simp only [Keyring.primitive, SealedFile.ofStorage, encoded]
      rfl
    · rintro ⟨s, named⟩
      exact Keyring.ofSettings_without ⟨config, storage⟩ named
        (Keyring.primitive_error_iff.mpr ⟨rfl, why, rfl, fails⟩)
  · intro i env w iterations style storage loads
    exact ⟨fun why => CommandLine.Invocation.run_misconfigured style loads,
      fun why => CommandLine.Invocation.run_without_passphrase style loads,
      fun k file opened script => CommandLine.Invocation.run_opened style loads⟩

/-- A configuration that is refused, and is not looked at behind a passphrase that is no text. -/
theorem unencodable_passphrase_precedes_check :
    let config : KeyringConfig := { reuse := ⟨-1⟩ }
    let storage : StorageConfig := { passphrase := ⟨[.surrogate 0]⟩ }
    Keyring.open? config = .error (.negativeReuse ⟨-1⟩) ∧
      ∀ iterations levels, Keyring.ofSettings id iterations levels ⟨config, storage⟩ none =
        .error (.passphrase ⟨⟨[.surrogate 0]⟩, 0, 1⟩) := by
  intro config storage
  refine ⟨rfl, fun iterations levels => ?_⟩
  have absent : Keyring.primitive id iterations levels storage none =
      .error (.passphrase ⟨⟨[.surrogate 0]⟩, 0, 1⟩) :=
    Keyring.primitive_error_iff.mpr ⟨rfl, _, rfl, by decide⟩
  exact Keyring.ofSettings_without (s := .flags) ⟨config, storage⟩ rfl absent

example :
    let config : KeyringConfig :=
      { policy := "legacy", controlFlags := ["Watch", "Retina"], constraint := "never" }
    Keyring.open? config = .error (.unknownFactor "Retina") ∧
      Keyring.open? { config with reuse := ⟨-1⟩ } = .error (.negativeReuse ⟨-1⟩) := by
  constructor <;> rfl

end SecretStore
