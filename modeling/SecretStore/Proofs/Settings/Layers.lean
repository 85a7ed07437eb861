import Mathlib.Data.List.Basic
import Mathlib.Data.List.Pairwise
import SecretStore.Proofs.Files.Tree
import SecretStore.Proofs.Settings.Merge
import SecretStore.Settings.Load
import SecretStore.Stack

/-!
Settings by layers: the defaults, a configuration file over them, the environment
over both. A check of settings looks at nothing but the fields of their two sections.
So what is loaded is what is checked when each field has the text of the variable
that names it, or else the value in the file, or else its default.
-/

namespace SecretStore

open Overrides (Variable path? textAt)

namespace Settings

def fields : (heading : String) → List String
  | "keyring" => ["service_name", "policy", "access_control_flags", "protection_constraint",
      "biometrics_reuse_duration", "synchronizable", "accessible_when_unlocked"]
  | "storage" => ["path", "passphrase"]
  | _ => []

def given (names : List String) (field : String → Option Value) : List (Value × Value) :=
  names.filterMap fun name => (field name).map fun v => (.text name, v)

/-- Settings from the value of each field of each section. A field that has none has
its default. -/
def ofFields (field : (heading name : String) → Option Value) : Except Unset Settings :=
  Check.settle "Settings" do
    let keyring ←
      KeyringConfig.check [.field "keyring"] (given (fields "keyring") (field "keyring"))
    return (keyring.map Settings.mk).apply
      (StorageConfig.check [.field "storage"] (given (fields "storage") (field "storage")))

theorem lookup_given (names : List String) (field : String → Option Value) (name : String) :
    Value.lookup (.text name) (given names field) = if name ∈ names then field name else none := by
  induction names with
  | nil => rfl
  | cons first rest ih =>
    rw [given] at ih ⊢
    rw [List.filterMap_cons]
    by_cases same : first = name
    · subst same
      cases there : field first with
      | none => simpa [there] using ih
      | some v => simp [Value.lookup, Value.sameKey_text]
    · have later : (name ∈ first :: rest) = (name ∈ rest) := by simp [Ne.symm same]
      simp only [later]
      cases there : field first with
      | none => exact ih
      | some v => simpa [Value.lookup, Value.sameKey_text, same] using ih

theorem given_congr {names : List String} {field field' : String → Option Value}
    (same : ∀ name ∈ names, field' name = field name) : given names field' = given names field := by
  refine List.filterMap_congr fun name member => ?_
  rw [same name member]

theorem keyring_check_congr {entries entries' : List (Value × Value)}
    (same : ∀ name ∈ fields "keyring",
      Value.lookup (.text name) entries' = Value.lookup (.text name) entries) (path : List Step) :
    KeyringConfig.check path entries' = KeyringConfig.check path entries := by
  simp only [fields, List.forall_mem_cons] at same
  obtain ⟨service, policy, flags, constraint, reuse, sync, unlocked, -⟩ := same
  simp only [KeyringConfig.check, Check.optional, Check.ifGiven, service, policy, flags,
    constraint, reuse, sync, unlocked]

theorem storage_check_congr {entries entries' : List (Value × Value)}
    (same : ∀ name ∈ fields "storage",
      Value.lookup (.text name) entries' = Value.lookup (.text name) entries) (path : List Step) :
    StorageConfig.check path entries' = StorageConfig.check path entries := by
  simp only [fields, List.forall_mem_cons] at same
  obtain ⟨file, passphrase, -⟩ := same
  simp only [StorageConfig.check, Check.optional, Check.ifGiven, file, passphrase]

def Sectioned (entries : List (Value × Value)) : Prop :=
  ∀ heading ∈ (["keyring", "storage"] : List String), ∀ v,
    Value.lookup (.text heading) entries = some v →
    ∃ inner, v = .mapping inner

theorem ifGiven_section {α : Type} {entries : List (Value × Value)} {heading subject : String}
    {check : List Step → List (Value × Value) → Except Span.Overflow (Check α)}
    {standard : α}
    (sectioned : ∀ v, Value.lookup (.text heading) entries = some v → ∃ inner, v = .mapping inner)
    (congr : ∀ inner inner', (∀ name ∈ fields heading,
      Value.lookup (.text name) inner' = Value.lookup (.text name) inner) →
        ∀ path, check path inner' = check path inner)
    (empty : check [.field heading] [] = .ok (.ok standard)) :
    Check.ifGiven [] entries heading (.ok (.ok standard)) (mappingOr subject check) =
      check [.field heading]
        (given (fields heading) fun name => (Value.mapping entries).at? [heading, name]) := by
  have field (name : String) : (Value.mapping entries).at? [heading, name] =
      (Value.lookup (.text heading) entries).bind fun v => v.field? name := by
    rw [Value.at?, Value.field?]
    exact congrArg _ (funext fun v => v.at?_single name)
  simp only [Check.ifGiven, field]
  cases there : Value.lookup (.text heading) entries with
  | none =>
    refine empty.symm.trans (congr _ _ (fun name member => ?_) _)
    rw [lookup_given, if_pos member]
    rfl
  | some v =>
    obtain ⟨inner, rfl⟩ := sectioned v there
    refine congr _ _ (fun name member => ?_) _
    rw [lookup_given, if_pos member]
    rfl

theorem ofEntries_fields {entries : List (Value × Value)} (sectioned : Sectioned entries) :
    ofEntries entries =
      ofFields fun heading name => (Value.mapping entries).at? [heading, name] := by
  rw [ofEntries, check, ofFields]
  rw [ifGiven_section (sectioned "keyring" (by simp)) (fun _ _ => keyring_check_congr) rfl,
    ifGiven_section (sectioned "storage" (by simp))
      (fun _ _ same path => congrArg _ (storage_check_congr same path)) rfl]
  rfl

theorem ofFields_congr {field field' : (heading name : String) → Option Value}
    (same : ∀ heading, ∀ name ∈ fields heading, field' heading name = field heading name) :
    ofFields field' = ofFields field := by
  rw [ofFields, ofFields, given_congr (same "keyring"), given_congr (same "storage")]

/-- What a configuration file contributes: nothing if there is none, or if it holds no
mapping, and else the entries of its mapping, of which the sections are mappings. -/
inductive FileLayer (exhausts : List Char → Bool) (files : FileTree) :
    Option FilePath → List (Value × Value) → Prop
  | unnamed : FileLayer exhausts files none []
  | missing {path : FilePath} (absent : files.isThere path = .ok false) :
      FileLayer exhausts files (some path) []
  | other {path : FilePath} {content : Bytes} {text : List Char} {v : Value}
      (there : files.read path = .ok content) (decoded : decodeFile content = .ok text)
      (room : exhausts text = false) (read : Yaml.read text = .ok v)
      (other : ∀ entries, v ≠ .mapping entries) : FileLayer exhausts files (some path) []
  | mapping {path : FilePath} {content : Bytes} {text : List Char} {entries : List (Value × Value)}
      (there : files.read path = .ok content) (decoded : decodeFile content = .ok text)
      (room : exhausts text = false) (read : Yaml.read text = .ok (.mapping entries))
      (named : (entries.all fun e => isText e.1) = true) (sectioned : Sectioned entries) :
      FileLayer exhausts files (some path) entries

variable {exhausts : List Char → Bool} {files : FileTree} {path : Option FilePath}
  {lower upper : List (Value × Value)}

theorem FileLayer.named (layer : FileLayer exhausts files path lower) :
    (lower.all fun e => isText e.1) = true := by
  cases layer with
  | unnamed | missing | other => rfl
  | mapping there decoded room read named => exact named

theorem FileLayer.sectioned (layer : FileLayer exhausts files path lower) : Sectioned lower := by
  cases layer with
  | unnamed | missing | other => exact fun heading member v there => nomatch there
  | mapping there decoded room read named sectioned => exact sectioned

theorem fileEntries_some (exhausts : List Char → Bool) (files : FileTree) (path : FilePath) :
    fileEntries exhausts files (some path) = match files.isThere path with
      | .error why => .error (.file why)
      | .ok false => .ok []
      | .ok true => match files.read path with
        | .error why => .error (.file why)
        | .ok content => match decodeFile content with
          | .error why => .error (.undecodable why)
          | .ok text =>
            if exhausts text then .error .tooDeep
            else match Yaml.read text with
              | .error why => .error (.yaml why)
              | .ok (.mapping entries) => .ok entries
              | .ok _ => .ok [] := by
  rw [fileEntries]
  rcases files.isThere path with why | (_ | _)
  · rfl
  · rfl
  · rcases files.read path with why | content
    · rfl
    · cases decoded : decodeFile content with
      | error why => simp only [bind, Except.bind, Except.mapError, if_true, decoded]
      | ok text =>
        simp only [bind, Except.bind, Except.mapError, if_true, decoded]
        cases exhausts text with
        | true => rfl
        | false =>
          simp only [Bool.false_eq_true, if_false]
          rcases Yaml.read text with why | v
          · rfl
          · cases v <;> rfl

theorem isThere_of_read {path : FilePath} {content : Bytes}
    (there : files.read path = .ok content) : files.isThere path = .ok true :=
  FileTree.isThere_of_look (FileTree.read_ok_iff.mp there).1

theorem FileLayer.fileEntries (layer : FileLayer exhausts files path lower) :
    fileEntries exhausts files path = .ok lower := by
  cases layer with
  | unnamed => rfl
  | missing absent =>
    rw [fileEntries_some, absent]
  | other there decoded room read other =>
    rw [fileEntries_some, isThere_of_read there, there]
    simp only [decoded, room, Bool.false_eq_true, if_false, read]
  | mapping there decoded room read =>
    rw [fileEntries_some, isThere_of_read there, there]
    simp only [decoded, room, Bool.false_eq_true, if_false, read]

theorem all_isText_insert (name : Text) (v : Value) (entries : List (Value × Value)) :
    ((Value.insert (.text name) v entries).all fun e => isText e.1) =
      entries.all fun e => isText e.1 := by
  induction entries with
  | nil => rfl
  | cons entry rest ih =>
    rw [Value.insert]
    split
    · rfl
    · rw [List.all_cons, List.all_cons, ih]

theorem all_isText_merge (lower : List (Value × Value)) (nested : Value.Nested (.mapping upper)) :
    ((Value.mergeEntries lower upper).all fun e => isText e.1) =
      lower.all fun e => isText e.1 := by
  generalize whole : Value.mapping upper = m at nested
  induction nested generalizing lower upper with
  | text t => cases whole
  | nil =>
    cases whole
    rfl
  | cons new first nested _ ih =>
    cases whole
    rw [Value.mergeEntries, ih _ rfl, all_isText_insert]

end Settings

namespace Overrides

/-- An environment of which each variable has a place: the ways are apart, and those
into the sections lead to fields. -/
structure Orderly (env : List Variable) : Prop where
  apart : Apart env
  pairs : ∀ v ∈ env, ∀ heading ∈ (["keyring", "storage"] : List String), ∀ rest,
    path? v.1 = some ((heading : Text) :: rest) → rest.length = 1

variable {env : List Variable}

theorem Apart.textAt_iff (apart : Apart env) (way : List Text) (t : Text) :
    textAt env way = some t ↔ ∃ v ∈ env, path? v.1 = some way ∧ v.2 = t := by
  constructor
  · intro named
    obtain ⟨v, found, rfl⟩ := Option.map_eq_some_iff.mp named
    exact ⟨v, List.mem_of_find?_eq_some found, by simpa using List.find?_some found, rfl⟩
  · rintro ⟨v, member, leads, rfl⟩
    cases found : env.find? fun v => path? v.1 == some way with
    | none =>
      exact absurd (beq_iff_eq.mpr leads) (List.find?_eq_none.mp found v member)
    | some u =>
      have leads' : path? u.1 = some way := by simpa using List.find?_some found
      have same : u = v := by
        by_contra different
        have far : Far u v := apart.forall (List.mem_of_find?_eq_some found) member different
        exact (far way way leads' leads).1 List.prefix_rfl
      rw [textAt, found, Option.map_some, same]

theorem Orderly.perm {env' : List Variable} (orderly : Orderly env) (perm : env'.Perm env) :
    Orderly env' where
  apart := (perm.pairwise_iff fun far => Std.Symm.symm _ _ far).mpr orderly.apart
  pairs v member := orderly.pairs v (perm.mem_iff.mp member)

theorem Orderly.filter (orderly : Orderly env) (keep : Variable → Bool) :
    Orderly (env.filter keep) where
  apart := orderly.apart.filter keep
  pairs v member := orderly.pairs v (List.mem_of_mem_filter member)

variable {entries : List (Value × Value)} {heading name : String}

theorem Orderly.whole (orderly : Orderly env)
    (member : heading ∈ (["keyring", "storage"] : List String))
    {v : Variable} (there : v ∈ env) {way : List Text} (leads : path? v.1 = some way)
    (starts : [(heading : Text), (name : Text)] <+: way) :
    [(heading : Text), (name : Text)] = way := by
  obtain ⟨rest, rfl⟩ := starts
  have one : ([(name : Text)] ++ rest).length = 1 := orderly.pairs v there heading member _ leads
  have none_left : rest = [] := List.eq_nil_of_length_eq_zero (by simpa using one)
  rw [none_left, List.append_nil]

theorem Orderly.headed (orderly : Orderly env)
    (member : heading ∈ (["keyring", "storage"] : List String))
    (collected : collect env = .ok entries) (t : Text) :
    (Value.mapping entries).at? [heading] ≠ some (.text t) := by
  intro there
  obtain ⟨v, found, leads, -⟩ := (gathered_collect collected).text _ _ there
  cases orderly.pairs v found heading member _ leads

theorem Orderly.flat (orderly : Orderly env)
    (member : heading ∈ (["keyring", "storage"] : List String))
    (collected : collect env = .ok entries) (inner : List (Value × Value)) :
    (Value.mapping entries).at? [heading, name] ≠ some (.mapping inner) := by
  intro there
  obtain ⟨v, found, way, leads, starts, short⟩ :=
    (gathered_collect collected).mapping _ _ there (List.cons_ne_nil _ _)
  exact short (orderly.whole member found leads starts)

end Overrides

namespace Settings

variable {exhausts : List Char → Bool} {files : FileTree} {path : Option FilePath}
  {lower upper : List (Value × Value)} {env : List Variable}

/-- The text of the variable that names a field, or else what the file has there. -/
def layered (lower : List (Value × Value)) (env : List Variable) (heading name : String) :
    Option Value :=
  ((textAt env [heading, name]).map .text).or ((Value.mapping lower).at? [heading, name])

theorem heading_of_fields {heading name : String} (member : name ∈ fields heading) :
    heading ∈ (["keyring", "storage"] : List String) := by
  unfold fields at member
  split at member
  · simp
  · simp
  · cases member

theorem sectioned_merge (nested : Value.Nested (.mapping upper)) (sectioned : Sectioned lower)
    (headed : ∀ heading ∈ (["keyring", "storage"] : List String), ∀ t,
      (Value.mapping upper).at? [heading] ≠ some (.text t)) :
    Sectioned (Value.mergeEntries lower upper) := by
  intro heading member v there
  rw [Value.lookup_merge nested.keyed.distinct] at there
  cases above : Value.lookup (.text heading) upper with
  | none =>
    rw [above] at there
    exact sectioned heading member v there
  | some w =>
    rw [above] at there
    cases there
    rcases (nested.field above).text_or_mapping with ⟨t, rfl⟩ | ⟨inner, rfl⟩
    · refine absurd ?_ (headed heading member t)
      rw [Value.at?_single, Value.field?, above]
    · cases below : Value.lookup (.text heading) lower with
      | none => exact ⟨inner, Value.mergeValue_none _⟩
      | some w =>
        obtain ⟨under, rfl⟩ := sectioned heading member w below
        exact ⟨_, rfl⟩

theorem load_layered (layer : FileLayer exhausts files path lower)
    (orderly : Overrides.Orderly env) :
    load exhausts files path env = (ofFields (layered lower env)).mapError .ofUnset := by
  obtain ⟨upper, collected⟩ := Overrides.collect_ok_iff.mpr orderly.apart.free
  have nested := (Overrides.gathered_collect collected).nested
  have named : ((Value.mergeEntries lower upper).all fun e => isText e.1) = true :=
    (all_isText_merge lower nested).trans layer.named
  have sectioned := sectioned_merge nested layer.sectioned
    fun heading member => orderly.headed member collected
  have same : ofEntries (Value.mergeEntries lower upper) = ofFields (layered lower env) := by
    rw [ofEntries_fields sectioned]
    refine ofFields_congr fun heading name field => ?_
    have member := heading_of_fields field
    rw [Value.at?_mergeEntries nested (layer.sectioned heading member)
        (orderly.headed member collected) (orderly.flat member collected),
      Overrides.at?_collect_textAt orderly.apart collected (List.cons_ne_nil _ _)
        (fun v found way leads starts => orderly.whole member found leads starts), layered]
  rw [load, layer.fileEntries, collected]
  simp only [bind, Except.bind, Except.mapError, named, if_true, same]

theorem layered_congr {lower' : List (Value × Value)} {env' : List Variable}
    {heading name : String}
    (above : textAt env' [heading, name] = textAt env [heading, name])
    (below : (Value.mapping lower').at? [heading, name] =
      (Value.mapping lower).at? [heading, name]) :
    layered lower' env' heading name = layered lower env heading name := by
  rw [layered, layered, above, below]

end Settings

theorem Overrides.textAt_perm {env env' : List Variable} (apart : Apart env) (apart' : Apart env')
    (perm : env'.Perm env) (way : List Text) : textAt env' way = textAt env way := by
  refine Option.ext fun t => ?_
  rw [apart'.textAt_iff, apart.textAt_iff]
  simp only [perm.mem_iff]

theorem Overrides.textAt_filter {env : List Variable} (apart : Apart env) {keep : Variable → Bool}
    {way : List Text} (kept : ∀ v ∈ env, path? v.1 = some way → keep v = true) :
    textAt (env.filter keep) way = textAt env way := by
  refine Option.ext fun t => ?_
  rw [Apart.textAt_iff (apart.filter keep), apart.textAt_iff]
  constructor
  · rintro ⟨v, member, named⟩
    exact ⟨v, List.mem_of_mem_filter member, named⟩
  · rintro ⟨v, member, leads, same⟩
    exact ⟨v, List.mem_filter.mpr ⟨member, kept v member leads⟩, leads, same⟩

def Settings.pairedWords : Except Yaml.Fault Value → Option (List Text)
  | .ok (.mapping [(.text a, .mapping [(.text b, .text c), (.text d, .text e)])]) =>
    some [a, b, c, d, e]
  | _ => none

theorem Settings.eq_of_pairedWords {result : Except Yaml.Fault Value} {a b c d e : Text}
    (words : pairedWords result = some [a, b, c, d, e]) :
    result = .ok (.mapping [(.text a, .mapping [(.text b, .text c), (.text d, .text e)])]) := by
  unfold pairedWords at words
  split at words
  · cases words
    rfl
  · cases words

theorem Settings.read_of_pairedWords (content : Bytes) {a b c d e : Text}
    (words : (decodeFile content).toOption.map (fun text =>
      (Stack.standard.exhausts text, pairedWords (Yaml.read text))) =
        some (false, some [a, b, c, d, e])) :
    ∃ text, decodeFile content = .ok text ∧ Stack.standard.exhausts text = false ∧
      Yaml.read text =
        .ok (.mapping [(.text a, .mapping [(.text b, .text c), (.text d, .text e)])]) := by
  cases decoded : decodeFile content with
  | error why =>
    rw [decoded] at words
    cases words
  | ok text =>
    rw [decoded] at words
    obtain ⟨room, words⟩ := Prod.mk.inj (Option.some.inj words)
    exact ⟨text, rfl, room, Settings.eq_of_pairedWords words⟩

theorem Settings.read_policyFile :
    ∃ text, decodeFile (Text.Utf8.encode "keyring:\n  policy: legacy\n  service_name: a\n") =
        .ok text ∧ Stack.standard.exhausts text = false ∧
      Yaml.read text = .ok (.mapping [(.text "keyring",
        .mapping [(.text "policy", .text "legacy"), (.text "service_name", .text "a")])]) :=
  read_of_pairedWords _ (by decide +kernel)

def Settings.overflowDays : Except LoadFault Settings → Option Int
  | .error (.overflow why) => some why.days
  | _ => none

end SecretStore
