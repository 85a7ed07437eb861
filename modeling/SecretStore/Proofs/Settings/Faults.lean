import SecretStore.Proofs.Settings.Layers

/-!
Where loading settings breaks off: at a configuration file that cannot be read, decoded
or parsed, or for which the stack has no room, at a variable that others block, at a
section whose name is no text, or at a reuse duration that cannot be held. The first of
these tells what is wrong. What is then loaded may still be refused.
-/

namespace SecretStore.Settings

open Overrides (Variable Blocks BlocksFar FirstBlocked collect collect_ok_iff collect_error_iff
  gathered_collect)

variable {exhausts : List Char → Bool} {files : FileTree} {path : Option FilePath}
  {env : List Variable}

inductive Unusable (exhausts : List Char → Bool) (files : FileTree) :
    Option FilePath → LoadFault → Prop
  | unseen {path : FilePath} {why : FileReason} (kind : why = .nameTooLong ∨ why = .permission)
      (unseen : files.look path = .error why) :
      Unusable exhausts files (some path) (.file ⟨why, path⟩)
  | barred {path : FilePath} {e : FileEntry} (there : files.look path = .ok e)
      (barred : files.bars path .read = true) :
      Unusable exhausts files (some path) (.file ⟨.permission, path⟩)
  | directory {path : FilePath} (there : files.look path = .ok .directory)
      (readable : files.bars path .read = false) :
      Unusable exhausts files (some path) (.file ⟨.isDirectory, path⟩)
  | undecodable {path : FilePath} {content : Bytes} {why : Text.Undecodable}
      (there : files.read path = .ok content) (fails : decodeFile content = .error why) :
      Unusable exhausts files (some path) (.undecodable why)
  | tooDeep {path : FilePath} {content : Bytes} {text : List Char}
      (there : files.read path = .ok content) (decoded : decodeFile content = .ok text)
      (deep : exhausts text = true) : Unusable exhausts files (some path) .tooDeep
  | yaml {path : FilePath} {content : Bytes} {text : List Char} {why : Yaml.Fault}
      (there : files.read path = .ok content) (decoded : decodeFile content = .ok text)
      (room : exhausts text = false) (fails : Yaml.read text = .error why) :
      Unusable exhausts files (some path) (.yaml why)

theorem Unusable.fileEntries {why : LoadFault} (unusable : Unusable exhausts files path why) :
    fileEntries exhausts files path = .error why := by
  cases unusable with
  | unseen kind unseen =>
    rw [fileEntries_some, FileTree.isThere_error_iff.mpr ⟨_, kind, unseen, rfl⟩]
  | barred there barred =>
    rw [fileEntries_some, FileTree.isThere_of_look there]
    simp only [FileTree.read, there, barred, if_true]
  | directory there readable =>
    rw [fileEntries_some, FileTree.isThere_of_look there]
    simp only [FileTree.read, there, readable, Bool.false_eq_true, if_false]
  | undecodable there undecoded =>
    rw [fileEntries_some, isThere_of_read there, there]
    simp only [undecoded]
  | tooDeep there decoded deep =>
    rw [fileEntries_some, isThere_of_read there, there]
    simp only [decoded, deep, if_true]
  | yaml there decoded room unread =>
    rw [fileEntries_some, isThere_of_read there, there]
    simp only [decoded, room, Bool.false_eq_true, if_false, unread]

theorem fileEntries_error_iff {why : LoadFault} :
    fileEntries exhausts files path = .error why ↔ Unusable exhausts files path why := by
  refine ⟨fun fails => ?_, Unusable.fileEntries⟩
  rcases path with _ | path
  · cases fails
  rw [fileEntries_some] at fails
  split at fails
  · next failed =>
    cases fails
    obtain ⟨reason, kind, unseen, rfl⟩ := FileTree.isThere_error_iff.mp failed
    exact .unseen kind unseen
  · cases fails
  · next there =>
    split at fails
    · next unread =>
      cases fails
      rcases FileTree.read_error_of_isThere there unread with
        ⟨e, there, barred, rfl⟩ | ⟨there, readable, rfl⟩
      · exact .barred there barred
      · exact .directory there readable
    · next content there =>
      split at fails
      · next why undecoded =>
        cases fails
        exact .undecodable there undecoded
      · next text decoded =>
        split at fails
        · next deep =>
          cases fails
          exact .tooDeep there decoded deep
        · next room =>
          split at fails
          · next why unread =>
            cases fails
            exact .yaml there decoded (Bool.eq_false_iff.mpr room) unread
          · cases fails
          · cases fails

theorem seconds_error_iff (path : List Step) {v : Value} {why : Span.Overflow} :
    Check.seconds path v = .error why ↔
      ∃ s, Coerce.span (Coerce.secondsFirst v) = .ok s ∧ s.held = .error why := by
  simp only [Check.seconds]
  cases Coerce.span (Coerce.secondsFirst v) with
  | error complaint => simp
  | ok s => cases held : s.held <;> simp [held, Except.map]

theorem keyring_check_error_iff (path : List Step) {inner : List (Value × Value)}
    {why : Span.Overflow} : KeyringConfig.check path inner = .error why ↔
      ∃ v, Value.lookup (.text "biometrics_reuse_duration") inner = some v ∧
        ∃ s, Coerce.span (Coerce.secondsFirst v) = .ok s ∧ s.held = .error why := by
  rw [KeyringConfig.check, Check.ifGiven]
  cases Value.lookup (.text "biometrics_reuse_duration") inner with
  | none => simp [bind, Except.bind, pure, Except.pure]
  | some v =>
    simp only [Option.some.injEq, exists_eq_left']
    rw [← seconds_error_iff (path ++ [.field "biometrics_reuse_duration"])]
    cases Check.seconds (path ++ [.field "biometrics_reuse_duration"]) v <;>
      simp [bind, Except.bind, pure, Except.pure]

/-- The reuse duration of a configuration is a length of time that cannot be held. -/
def Overlong (entries : List (Value × Value)) (why : Span.Overflow) : Prop :=
  ∃ v, (Value.mapping entries).at? ["keyring", "biometrics_reuse_duration"] = some v ∧
    ∃ s, Coerce.span (Coerce.secondsFirst v) = .ok s ∧ s.held = .error why

theorem storage_section_ok (entries : List (Value × Value)) :
    ∃ storage, Check.ifGiven [] entries "storage" (.ok (.ok {}))
      (mappingOr "StorageConfig" fun path inner => .ok (StorageConfig.check path inner)) =
        .ok storage := by
  rw [Check.ifGiven]
  rcases Value.lookup (.text "storage") entries with _ | v
  · exact ⟨_, rfl⟩
  · cases v <;> exact ⟨_, rfl⟩

theorem keyring_section_error_iff {entries : List (Value × Value)} {why : Span.Overflow} :
    Check.ifGiven [] entries "keyring" (.ok (.ok {}))
      (mappingOr "KeyringConfig" KeyringConfig.check) = .error why ↔ Overlong entries why := by
  have field : (Value.mapping entries).at? ["keyring", "biometrics_reuse_duration"] =
      (Value.lookup (.text "keyring") entries).bind fun v =>
        v.field? "biometrics_reuse_duration" := by
    rw [Value.at?, Value.field?]
    exact congrArg _ (funext fun v => v.at?_single _)
  rw [Overlong, field, Check.ifGiven]
  rcases Value.lookup (.text "keyring") entries with _ | v
  · simp
  · cases v with
    | mapping inner => exact keyring_check_error_iff _
    | _ => simp [mappingOr, Value.field?]

theorem settle_overflow_iff {α : Type} {subject : String} {r : Except Span.Overflow (Check α)}
    {why : Span.Overflow} : Check.settle subject r = .error (.overflow why) ↔ r = .error why := by
  rcases r with other | (a | problems) <;> simp [Check.settle, Check.toExcept, Except.mapError]

theorem ofEntries_overflow_iff {entries : List (Value × Value)} {why : Span.Overflow} :
    ofEntries entries = .error (.overflow why) ↔ Overlong entries why := by
  obtain ⟨storage, checked⟩ := storage_section_ok entries
  rw [← keyring_section_error_iff, ofEntries, settle_overflow_iff, check, checked]
  generalize Check.ifGiven [] entries "keyring" _ _ = keyring
  cases keyring <;> simp [bind, Except.bind, pure, Except.pure]

inductive Breaks (exhausts : List Char → Bool) (files : FileTree) (path : Option FilePath)
    (env : List Variable) : LoadFault → Prop
  | file {why : LoadFault} (unusable : Unusable exhausts files path why) :
    Breaks exhausts files path env why
  | blocked {lower : List (Value × Value)} {front : List Variable} {v : Variable}
      {fault : Overrides.Fault} (usable : fileEntries exhausts files path = .ok lower)
      (first : FirstBlocked env front v)
      (kind : fault = .textOnTheWay ↔ ∃ u ∈ front, BlocksFar u v) :
      Breaks exhausts files path env (.overrides fault)
  | unnamed {lower : List (Value × Value)} {entry : Value × Value}
      (usable : fileEntries exhausts files path = .ok lower)
      (free : env.Pairwise fun u v => ¬ Blocks u v)
      (member : entry ∈ lower) (name : isText entry.1 = false) :
      Breaks exhausts files path env .sectionName
  | overlong {lower upper : List (Value × Value)} {why : Span.Overflow}
      (usable : fileEntries exhausts files path = .ok lower) (collected : collect env = .ok upper)
      (named : ∀ entry ∈ lower, isText entry.1 = true)
      (long : Overlong (Value.mergeEntries lower upper) why) :
      Breaks exhausts files path env (.overflow why)

theorem load_steps (exhausts : List Char → Bool) (files : FileTree) (path : Option FilePath)
    (env : List Variable) :
    load exhausts files path env = match fileEntries exhausts files path with
      | .error why => .error why
      | .ok lower => match collect env with
        | .error fault => .error (.overrides fault)
        | .ok upper =>
          if lower.all fun e => isText e.1 then
            (ofEntries (Value.mergeEntries lower upper)).mapError .ofUnset
          else .error .sectionName := by
  rw [load]
  rcases fileEntries exhausts files path with why | lower
  · rfl
  · cases collected : collect env with
    | error fault => rfl
    | ok upper =>
      have named := all_isText_merge lower (gathered_collect collected).nested
      simp only [bind, Except.bind, Except.mapError, named]
      rfl

theorem Breaks.load {why : LoadFault} (breaks : Breaks exhausts files path env why) :
    load exhausts files path env = .error why := by
  rw [load_steps]
  cases breaks with
  | file unusable => rw [unusable.fileEntries]
  | blocked usable first kind =>
    rw [usable, collect_error_iff.mpr ⟨_, _, first, kind⟩]
  | unnamed usable free member name =>
    obtain ⟨upper, collected⟩ := collect_ok_iff.mpr free
    have unnamed := List.all_eq_false (p := fun e => isText e.1).mpr
      ⟨_, member, Bool.eq_false_iff.mp name⟩
    rw [usable, collected]
    simp only [unnamed, Bool.false_eq_true, if_false]
  | overlong usable collected named long =>
    rw [usable, collected]
    simp only [List.all_eq_true.mpr named, if_true, ofEntries_overflow_iff.mpr long]
    rfl

/-- Loading settings breaks off so, and otherwise gives settings or refuses them. -/
theorem load_error_iff {why : LoadFault} (broken : ∀ rejection, why ≠ .invalid rejection) :
    load exhausts files path env = .error why ↔ Breaks exhausts files path env why := by
  refine ⟨fun fails => ?_, Breaks.load⟩
  rw [load_steps] at fails
  split at fails
  · next fault unused =>
    cases fails
    exact .file (fileEntries_error_iff.mp unused)
  · next lower usable =>
    split at fails
    · next fault collected =>
      cases fails
      obtain ⟨front, v, first, kind⟩ := collect_error_iff.mp collected
      exact .blocked usable first kind
    · next upper collected =>
      split at fails
      · next named =>
        rcases checked : ofEntries (Value.mergeEntries lower upper)
          with (long | rejection) | settings <;> rw [checked] at fails <;> cases fails
        · exact .overlong usable collected (List.all_eq_true.mp named)
            (ofEntries_overflow_iff.mp checked)
        · exact absurd rfl (broken rejection)
      · next unnamed =>
        cases fails
        obtain ⟨entry, member, name⟩ := List.all_eq_false.mp (Bool.eq_false_iff.mpr unnamed)
        exact .unnamed usable (collect_ok_iff.mp ⟨upper, collected⟩) member
          (Bool.eq_false_iff.mpr name)

theorem Breaks.not_invalid {why : LoadFault} (breaks : Breaks exhausts files path env why)
    (rejection : Rejection) : why ≠ .invalid rejection := by
  rintro rfl
  cases breaks with
  | file unusable => cases unusable

end SecretStore.Settings
