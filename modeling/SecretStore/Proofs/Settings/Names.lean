import SecretStore.Policy.Strategy
import SecretStore.Proofs.Json.Short
import SecretStore.Proofs.Settings.Overrides
import SecretStore.Proofs.Text.Listed
import SecretStore.Validation.Fields

/-!
The names of factors in the settings of a keyring. A text that lists names is read as a
list of them would be, whatever the other settings are; and every text is read like the
names that it lists, joined by commas.
-/

namespace SecretStore

namespace Check

variable {α β : Type}

theorem map_eq_ok {f : α → β} {x : Check α} {b : β} :
    x.map f = .ok b ↔ ∃ a, x = .ok a ∧ f a = b := by
  cases x <;> simp [map]

theorem apply_eq_ok {f : Check (α → β)} {x : Check α} {b : β} :
    f.apply x = .ok b ↔ ∃ g a, f = .ok g ∧ x = .ok a ∧ g a = b := by
  cases f <;> cases x <;> simp [apply]

theorem settle_eq_ok {subject : String} {r : Except Span.Overflow (Check α)} {a : α} :
    settle subject r = .ok a ↔ r = .ok (.ok a) := by
  rcases r with why | (a | problems) <;> simp [settle, toExcept, Except.mapError]

theorem texts_text (path : List Step) (n : Nat) (names : List Text) :
    texts path n (names.map .text) = .ok names := by
  induction names generalizing n with
  | nil => rfl
  | cons name names ih =>
    rw [List.map_cons, texts, ih]
    rfl

theorem names_list (path : List Step) (names : List Text) :
    Check.names path (.list (names.map .text)) = .ok names :=
  texts_text path 0 names

theorem names_text (path : List Step) {names : List Text} {s : Text}
    (listed : Text.Lists (names.map Text.points) s.points) :
    Check.names path (.text s) = .ok names := by
  have read : Coerce.namesFirst (.text s) = .list (names.map .text) := by
    rw [Coerce.namesFirst, Text.lists_iff.mp listed, List.map_map]
    rfl
  rw [Check.names, read]
  exact names_list path names

end Check

namespace KeyringConfig

variable {v w : Value} {names : List Text} {s : Text}

def withNames (v : Value) (entries : List (Value × Value)) : List (Value × Value) :=
  Value.insert (.text "access_control_flags") v entries

theorem lookup_withNames (v : Value) (entries : List (Value × Value)) (name : Text) :
    Value.lookup (.text name) (withNames v entries) =
      if Text.ofString "access_control_flags" = name then some v
      else Value.lookup (.text name) entries :=
  Value.lookup_insert name _ v entries

theorem check_withNames (same : ∀ path, Check.names path v = Check.names path w)
    (path : List Step) (entries : List (Value × Value)) :
    check path (withNames v entries) = check path (withNames w entries) := by
  simp only [check, Check.optional, Check.ifGiven, lookup_withNames, Text.ofString_inj,
    String.reduceEq, if_true, if_false, same]

theorem controlFlags_withNames {path : List Step} {entries : List (Value × Value)}
    {config : KeyringConfig} (read : ∀ path, Check.names path v = .ok names)
    (accepted : check path (withNames v entries) = .ok (.ok config)) :
    config.controlFlags = names := by
  obtain ⟨reuse, -, accepted⟩ := exists_of_bind accepted
  -- settings are accepted if each of the seven fields is; the names are the third
  simp only [pure, Except.pure, Except.ok.injEq, Check.apply_eq_ok, Check.map_eq_ok] at accepted
  obtain ⟨_, _, ⟨_, _, ⟨_, _, ⟨_, _, ⟨_, held, ⟨_, _, ⟨_, _, rfl⟩, _, rfl⟩, there, rfl⟩, _, rfl⟩, _,
    rfl⟩, _, rfl⟩, _, rfl⟩ := accepted
  rw [Check.optional, Check.ifGiven, lookup_withNames, if_pos rfl] at there
  exact (Check.ok.inj ((read _).symm.trans there)).symm

/-- A value for the names of factors is read as a list of names. Alone it makes settings
with these names. With other settings of a keyring it does what the list would do, so any
strategy comes to the same policy or refusal, and so it does in a whole configuration. -/
structure ReadAs (v : Value) (names : List Text) : Prop where
  alone : ofEntries (withNames v []) = .ok { controlFlags := names }
  held : ∀ entries config, ofEntries (withNames v entries) = .ok config →
    config.controlFlags = names
  listed : ∀ entries, ofEntries (withNames v entries) =
    ofEntries (withNames (.list (names.map .text)) entries)
  resolved : ∀ entries (strategy : Strategy),
    (ofEntries (withNames v entries)).map strategy.resolve =
      (ofEntries (withNames (.list (names.map .text)) entries)).map strategy.resolve
  loaded : ∀ entries others,
    Settings.ofEntries (Value.insert (.text "keyring") (.mapping (withNames v entries)) others) =
      Settings.ofEntries (Value.insert (.text "keyring")
        (.mapping (withNames (.list (names.map .text)) entries)) others)

theorem readAs_of_names (read : ∀ path, Check.names path v = .ok names) : ReadAs v names := by
  have same (path : List Step) (entries : List (Value × Value)) :
      check path (withNames v entries) =
        check path (withNames (.list (names.map .text)) entries) :=
    check_withNames (fun path => (read path).trans (Check.names_list path names).symm) path entries
  have listed (entries : List (Value × Value)) : ofEntries (withNames v entries) =
      ofEntries (withNames (.list (names.map .text)) entries) := by
    rw [ofEntries, ofEntries, same]
  refine ⟨?_, fun entries config accepted => ?_, listed,
    fun entries strategy => congrArg _ (listed entries), fun entries others => ?_⟩
  · rw [ofEntries, check]
    simp only [Check.optional, Check.ifGiven, lookup_withNames, Text.ofString_inj, String.reduceEq,
      if_true, if_false, Value.lookup, read]
    rfl
  · exact controlFlags_withNames read (Check.settle_eq_ok.mp accepted)
  · simp only [Settings.ofEntries, Settings.check, Check.ifGiven, Value.lookup_insert,
      Text.ofString_inj, String.reduceEq, if_true, if_false, Settings.mappingOr, same]

/-- Names are read from any text that lists them, as from a list of them. And every text is
read as some names, as which these, joined by commas, are read again. -/
theorem listed_names_are_read :
    (∀ (names : List Text) (s : Text), Text.Lists (names.map Text.points) s.points →
      ReadAs (.text s) names) ∧
    ∀ s : Text, ∃ names : List Text,
      ReadAs (.text s) names ∧ ReadAs (.text (Text.intercalate "," names)) names := by
  have read {names : List Text} {s : Text}
      (listed : Text.Lists (names.map Text.points) s.points) : ReadAs (.text s) names :=
    readAs_of_names fun path => Check.names_text path listed
  refine ⟨fun names s => read, fun s => ?_⟩
  have parsed : ((Text.commaSeparated s.points).map Text.mk).map Text.points =
      Text.commaSeparated s.points := by
    rw [List.map_map]
    exact List.map_id _
  refine ⟨(Text.commaSeparated s.points).map Text.mk, read ?_, read ?_⟩
  · rw [parsed]
    exact Text.lists_iff.mpr rfl
  · rw [Text.intercalate, parsed]
    exact Text.lists_iff.mpr (Text.commaSeparated_again s.points)

theorem listed_names_are_read_spaced :
    Text.Lists ([("Watch" : Text), "BiometryAny"].map Text.points)
        (" Watch\t,,\u2003,BiometryAny\n," : Text).points ∧
      ReadAs (.text " Watch\t,,\u2003,BiometryAny\n,") ["Watch", "BiometryAny"] :=
  have listed := Text.lists_iff.mpr (by decide +kernel)
  ⟨listed, listed_names_are_read.1 ["Watch", "BiometryAny"] _ listed⟩

end KeyringConfig

end SecretStore
