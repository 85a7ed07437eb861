import SecretStore.Proofs.Keyring.Course
import SecretStore.Proofs.Keyring.Interleaved

/-!
How a request ends, from the responses to its calls. Whatever store answers, and
however it changes its mind, the calls of a request have one of a few shapes, the
last of them decides the outcome, and a warning is logged for a lost update only.
-/

namespace SecretStore

theorem map_eq_error_iff {ε α β : Type} {r : Except ε α} {f : α → β} {e : ε} :
    r.map f = .error e ↔ r = .error e := by
  cases r <;> simp [Except.map]

structure Record.HasWords (r : Record) : Prop where
  label : ∃ s, r.label = .str s
  description : ∃ s, r.description = .str s

namespace Keyring

/-- A record without words is no item, whatever else it has in their place. -/
theorem itemOf_refused (key : Text) {r : Record} (wordless : ¬ r.HasWords) :
    ∃ why, itemOf key r = .error (.invalid why) := by
  obtain ⟨service, account, label, description⟩ := r
  rw [itemOf]
  cases label <;> cases description <;>
    first | exact ⟨_, rfl⟩ | exact absurd ⟨⟨_, rfl⟩, _, rfl⟩ wordless

theorem metadataOf_refused (key : Text) {r : Record} (wordless : ¬ r.HasWords) :
    ∃ why, metadataOf key r = .error (.invalid why) := by
  obtain ⟨service, account, label, description⟩ := r
  rw [metadataOf]
  cases label <;> cases description <;>
    first | exact ⟨_, rfl⟩ | exact absurd ⟨⟨_, rfl⟩, _, rfl⟩ wordless

theorem itemOf_invalid_iff (key : Text) (r : Record) :
    (∃ why, itemOf key r = .error (.invalid why)) ↔ ¬ r.HasWords := by
  refine ⟨fun ⟨why, invalid⟩ words => ?_, itemOf_refused key⟩
  obtain ⟨⟨label, hl⟩, description, hd⟩ := words
  rw [itemOf_text key hl hd] at invalid
  cases invalid

theorem metadataOf_invalid_iff (key : Text) (r : Record) :
    (∃ why, metadataOf key r = .error (.invalid why)) ↔ ¬ r.HasWords := by
  refine ⟨fun ⟨why, invalid⟩ words => ?_, metadataOf_refused key⟩
  obtain ⟨⟨label, hl⟩, description, hd⟩ := words
  rw [metadataOf_text key hl hd] at invalid
  cases invalid

end Keyring

inductive Hearing
  /-- An answer to end with or to go on from; a duplicate is one when an item is added. -/
  | answer
  | miss
  | trouble (e : NativeError)

def Call.hearing : Call → Hearing
  | .query _ (.ok (.ok [])) => .miss
  | .query _ (.ok (.error e)) => if e.kind = .notFound then .miss else .trouble e
  | .write (.add _) (.ok (.error e)) => if e.kind = .duplicate then .answer else .trouble e
  | .write _ (.ok (.error e)) => if e.kind = .notFound then .miss else .trouble e
  | _ => .answer

def Operation.name : Operation → String
  | .get _ => "get"
  | .metadata _ => "get_metadata"
  | .set _ => "set"
  | .remove _ => "remove"
  | .keys => "keys"

def Operation.wanted? : Operation → Option Text
  | .get key | .metadata key | .remove key => some key
  | .set _ | .keys => none

namespace Request

/-- The calls of a request. Setting an item goes on from a duplicate to a query,
and from a record to an update; everything else is one call. -/
inductive Calls : Request → List Call → Prop
  | get (k : Keyring) (key : Text) (answer : Except NativeError (List Record)) :
      Calls ⟨k, .get key⟩ [.query (k.itemQuery key true false) (.ok answer)]
  | metadata (k : Keyring) (key : Text) (answer : Except NativeError (List Record)) :
      Calls ⟨k, .metadata key⟩ [.query (k.itemQuery key false true) (.ok answer)]
  | remove (k : Keyring) (key : Text) (answer : Except NativeError Unit) :
      Calls ⟨k, .remove key⟩
        [.write (.delete { service := k.service, account := some key }) (.ok answer)]
  | keys (k : Keyring) (answer : Except NativeError (List Record)) :
      Calls ⟨k, .keys⟩ [.query k.serviceQuery (.ok answer)]
  | added (k : Keyring) (item : Item) (answer : Except NativeError Unit)
      (new : ∀ message, answer ≠ .error ⟨.duplicate, message⟩) :
      Calls ⟨k, .set item⟩ [.write (.add (k.recordOf item)) (.ok answer)]
  | sought (k : Keyring) (item : Item) (message : Text)
      (answer : Except NativeError (List Record)) (none : ∀ r rest, answer ≠ .ok (r :: rest)) :
      Calls ⟨k, .set item⟩
        [.write (.add (k.recordOf item)) (.ok (.error ⟨.duplicate, message⟩)),
          .query (k.itemQuery item.key false false) (.ok answer)]
  | updated (k : Keyring) (item : Item) (message : Text) (r : Record) (rest : List Record)
      (answer : Except NativeError Unit) :
      Calls ⟨k, .set item⟩
        [.write (.add (k.recordOf item)) (.ok (.error ⟨.duplicate, message⟩)),
          .query (k.itemQuery item.key false false) (.ok (.ok (r :: rest))),
          .write (.update (k.itemQuery item.key false false) { data := some item.data })
            (.ok answer)]

def missing (r : Request) : Outcome :=
  match r.operation with
  | .get key | .metadata key | .remove key => .error (.keyNotFound r.keyring.service key)
  | .set item => .error (.lostUpdate
      (r.keyring.setFailure item.key "item was removed before it could be updated"))
  | .keys => .ok (.keys [])

def detail (r : Request) (c : Call) (e : NativeError) : Text :=
  match r.operation, c with
  | .set _, .query _ _ => "failed to query existing item: " ++ e.message
  | .set _, .write (.update _ _) _ => "failed to update item: " ++ e.message
  | _, _ => e.message

def failure (r : Request) (c : Call) (e : NativeError) : StoreFailure :=
  ⟨r.operation.name, r.keyring.service, r.operation.key?, r.detail c e⟩

def answered (r : Request) (c : Call) : Outcome :=
  match r.operation, c with
  | .get key, .query _ (.ok (.ok (record :: _))) => (Keyring.itemOf key record).map .item
  | .metadata key, .query _ (.ok (.ok (record :: _))) =>
    (Keyring.metadataOf key record).map .metadata
  | .keys, .query _ (.ok (.ok records)) => .ok (.keys (records.map (·.account)))
  | _, _ => .ok .done

def verdict (r : Request) (last : Call) : Outcome :=
  match last.hearing with
  | .answer => r.answered last
  | .miss => r.missing
  | .trouble e => .error (.store (r.failure last e) e.kind)

def warning (r : Request) : LogEntry :=
  ⟨.warning, Keyring.logger, "Item " ++ r.keyring.target (r.operation.key?.getD "") ++
    " vanished between add and update"⟩

end Request

def warnings (entries : List LogEntry) : List LogEntry :=
  entries.filter fun e => e.level = .warning

namespace Script

variable {α σ : Type}

def calls (store : Store σ) (script : Script α) (s : σ) : List Call :=
  (script.course store.machine s).1.calls

end Script

/-- A course that comes to its end as the last of its calls decides. -/
structure Request.Decided (r : Request) (c : Course Answer) : Prop where
  calls : r.Calls c.calls
  outcome : ∀ last ∈ c.calls.getLast?, c.result = .ok (r.verdict last)
  warned : ∀ last ∈ c.calls.getLast?, warnings c.entries =
    if isLost (r.verdict last) then [r.warning] else []

namespace Request

variable {σ : Type}

theorem decided_of {r : Request} {c : Course Answer} (before : List Call) {last : Call}
    (calls : r.Calls (before ++ [last])) (made : c.calls = before ++ [last])
    (outcome : c.result = .ok (r.verdict last))
    (warned : warnings c.entries = if isLost (r.verdict last) then [r.warning] else []) :
    r.Decided c where
  calls := made ▸ calls
  outcome := by
    rw [made, List.getLast?_concat]
    rintro _ ⟨⟩
    exact outcome
  warned := by
    rw [made, List.getLast?_concat]
    rintro _ ⟨⟩
    exact warned

theorem answered_cases (r : Request) (c : Call) :
    (∃ answer, r.answered c = .ok answer) ∨ ∃ why, r.answered c = .error (.invalid why) := by
  unfold answered
  split
  · next key _ record _ _ =>
    rw [Keyring.itemOf]
    cases Item.ofEntries _ with
    | ok item => exact .inl ⟨_, rfl⟩
    | error why => exact .inr ⟨why, rfl⟩
  · next key _ record _ _ =>
    rw [Keyring.metadataOf]
    cases Item.ofEntries _ with
    | ok item => exact .inl ⟨_, rfl⟩
    | error why => exact .inr ⟨why, rfl⟩
  · exact .inl ⟨_, rfl⟩
  · exact .inl ⟨_, rfl⟩

theorem isLost_verdict {r : Request} {c : Call} (answer : c.hearing = .answer) :
    isLost (r.verdict c) = false := by
  rw [verdict, answer]
  rcases r.answered_cases c with ⟨_, eq⟩ | ⟨_, eq⟩ <;> rw [eq] <;> rfl

theorem decided_get (store : Script.Store σ) (k : Keyring) (key : Text) (s : σ) :
    Decided ⟨k, .get key⟩ ((script ⟨k, .get key⟩).course store.machine s).1 := by
  have shape (answer) := Calls.get k key answer
  simp only [script, Keyring.get, Keyring.debug, Keyring.queryOne, Script.mapResult,
    Script.course, Script.Store.machine]
  rcases (store.query s (k.itemQuery key true false)).1 with ⟨kind, message⟩ | (_ | ⟨record, rest⟩)
  · cases kind <;> exact decided_of [] (shape _) rfl rfl rfl
  · exact decided_of [] (shape _) rfl rfl rfl
  · have quiet : isLost (verdict ⟨k, .get key⟩
        (.query (k.itemQuery key true false) (.ok (.ok (record :: rest))))) = false :=
      isLost_verdict rfl
    exact decided_of [] (shape _) rfl rfl (by rw [quiet]; rfl)

theorem decided_metadata (store : Script.Store σ) (k : Keyring) (key : Text) (s : σ) :
    Decided ⟨k, .metadata key⟩ ((script ⟨k, .metadata key⟩).course store.machine s).1 := by
  have shape (answer) := Calls.metadata k key answer
  simp only [script, Keyring.getMetadata, Keyring.debug, Keyring.queryOne, Script.mapResult,
    Script.course, Script.Store.machine]
  rcases (store.query s (k.itemQuery key false true)).1 with ⟨kind, message⟩ | (_ | ⟨record, rest⟩)
  · cases kind <;> exact decided_of [] (shape _) rfl rfl rfl
  · exact decided_of [] (shape _) rfl rfl rfl
  · have quiet : isLost (verdict ⟨k, .metadata key⟩
        (.query (k.itemQuery key false true) (.ok (.ok (record :: rest))))) = false :=
      isLost_verdict rfl
    exact decided_of [] (shape _) rfl rfl (by rw [quiet]; rfl)

theorem decided_remove (store : Script.Store σ) (k : Keyring) (key : Text) (s : σ) :
    Decided ⟨k, .remove key⟩ ((script ⟨k, .remove key⟩).course store.machine s).1 := by
  have shape (answer) := Calls.remove k key answer
  simp only [script, Keyring.remove, Keyring.debug, Script.mapResult, Script.course,
    Script.Store.machine]
  rcases (store.write s (.delete { service := k.service, account := some key })).1
    with ⟨kind, message⟩ | _
  · cases kind <;> exact decided_of [] (shape _) rfl rfl rfl
  · exact decided_of [] (shape _) rfl rfl rfl

theorem decided_keys (store : Script.Store σ) (k : Keyring) (s : σ) :
    Decided ⟨k, .keys⟩ ((script ⟨k, .keys⟩).course store.machine s).1 := by
  have shape (answer) := Calls.keys k answer
  simp only [script, Keyring.keys, Keyring.debug, Script.mapResult, Script.course,
    Script.Store.machine]
  rcases (store.query s k.serviceQuery).1 with ⟨kind, message⟩ | (_ | ⟨record, rest⟩)
  · cases kind <;> exact decided_of [] (shape _) rfl rfl rfl
  · exact decided_of [] (shape _) rfl rfl rfl
  · exact decided_of [] (shape _) rfl rfl rfl

theorem decided_set (store : Script.Store σ) (k : Keyring) (item : Item) (s : σ) :
    Decided ⟨k, .set item⟩ ((script ⟨k, .set item⟩).course store.machine s).1 := by
  have added (answer) (new : ∀ message, answer ≠ .error ⟨.duplicate, message⟩) :=
    Calls.added k item answer new
  have failed (message e) := Calls.sought k item message (.error e) (by rintro r rest ⟨⟩)
  have empty (message) := Calls.sought k item message (.ok []) (by rintro r rest ⟨⟩)
  have updated (message r rest answer) := Calls.updated k item message r rest answer
  simp only [script, Keyring.set, Keyring.debug, Script.mapResult, Script.course,
    Script.Store.machine]
  generalize store.write s (.add (k.recordOf item)) = response
  obtain ⟨⟨kind, message⟩ | _, s₁⟩ := response
  · cases kind with
    | notFound =>
      exact decided_of [] (added (.error ⟨.notFound, message⟩) (by rintro _ ⟨⟩)) rfl rfl rfl
    | other =>
      exact decided_of [] (added (.error ⟨.other, message⟩) (by rintro _ ⟨⟩)) rfl rfl rfl
    | duplicate =>
      simp only [Keyring.replaceData, Keyring.debug, Script.mapResult, Script.course]
      generalize store.query s₁ (k.itemQuery item.key false false) = response
      obtain ⟨⟨kind, words⟩ | (_ | ⟨r, rest⟩), s₂⟩ := response
      · cases kind <;> exact decided_of [_] (failed message _) rfl rfl rfl
      · exact decided_of [_] (empty message) rfl rfl rfl
      · simp only [Keyring.overwrite, Script.mapResult, Script.course]
        generalize store.write s₂ (.update (k.itemQuery item.key false false)
          { data := some item.data }) = response
        obtain ⟨⟨kind, words⟩ | _, s₃⟩ := response
        · cases kind <;> exact decided_of [_, _] (updated message r rest _) rfl rfl rfl
        · exact decided_of [_, _] (updated message r rest _) rfl rfl rfl
  · exact decided_of [] (added (.ok ()) (by rintro _ ⟨⟩)) rfl rfl rfl

theorem decided (store : Script.Store σ) (r : Request) (s : σ) :
    r.Decided (r.script.course store.machine s).1 := by
  obtain ⟨k, operation⟩ := r
  cases operation with
  | get key => exact decided_get store k key s
  | metadata key => exact decided_metadata store k key s
  | set item => exact decided_set store k item s
  | remove key => exact decided_remove store k key s
  | keys => exact decided_keys store k s

/-- Every call but the last was answered, so what else was heard was heard last. -/
theorem Calls.decisive {r : Request} {calls : List Call} (h : r.Calls calls) :
    ∃ before last, calls = before ++ [last] ∧ ∀ c ∈ before, c.hearing = .answer := by
  cases h with
  | get | metadata | remove | keys | added => exact ⟨[], _, rfl, by simp⟩
  | sought => exact ⟨[_], _, rfl, by simp [Call.hearing]⟩
  | updated => exact ⟨[_, _], _, rfl, by simp [Call.hearing]⟩

theorem Calls.single {r : Request} {calls : List Call} (h : r.Calls calls)
    (other : ∀ item, r.operation ≠ .set item) : ∃ call, calls = [call] := by
  cases h with
  | get | metadata | remove | keys => exact ⟨_, rfl⟩
  | added k item | sought k item | updated k item => exact absurd rfl (other item)

theorem exists_decisive {before : List Call} {last : Call} {p : Call → Prop}
    (passed : ∀ c ∈ before, c.hearing = .answer) (other : ∀ c, p c → c.hearing ≠ .answer) :
    (∃ c ∈ before ++ [last], p c) ↔ p last := by
  constructor
  · rintro ⟨c, member, holds⟩
    rcases List.mem_append.mp member with early | final
    · exact absurd (passed c early) (other c holds)
    · rwa [← List.mem_singleton.mp final]
  · exact fun holds => ⟨last, by simp, holds⟩

theorem verdict_keyNotFound {r : Request} {c : Call} {service key : Text} :
    r.verdict c = .error (.keyNotFound service key) ↔
      r.keyring.service = service ∧ r.operation.wanted? = some key ∧ c.hearing = .miss := by
  rw [verdict]
  cases c.hearing with
  | answer => rcases r.answered_cases c with ⟨_, eq⟩ | ⟨_, eq⟩ <;> simp [eq]
  | trouble e => simp
  | miss => cases op : r.operation <;> simp [missing, Operation.wanted?, op]

theorem verdict_lost {r : Request} {c : Call} :
    isLost (r.verdict c) = true ↔ (∃ item, r.operation = .set item) ∧ c.hearing = .miss := by
  rw [verdict]
  cases c.hearing with
  | answer => rcases r.answered_cases c with ⟨_, eq⟩ | ⟨_, eq⟩ <;> simp [eq, isLost]
  | trouble e => simp [isLost]
  | miss => cases op : r.operation <;> simp [missing, isLost, op]

theorem verdict_store {r : Request} {c : Call} {failure : StoreFailure} {cause : NativeKind} :
    r.verdict c = .error (.store failure cause) ↔
      ∃ e, c.hearing = .trouble e ∧ failure = r.failure c e ∧ cause = e.kind := by
  rw [verdict]
  cases c.hearing with
  | answer => rcases r.answered_cases c with ⟨_, eq⟩ | ⟨_, eq⟩ <;> simp [eq]
  | trouble e => simp [eq_comm]
  | miss => cases op : r.operation <;> simp [missing, op]

theorem verdict_invalid {r : Request} {c : Call} :
    (∃ why, r.verdict c = .error (.invalid why)) ↔
      ∃ key q record rest, (r.operation = .get key ∨ r.operation = .metadata key) ∧
        c = .query q (.ok (.ok (record :: rest))) ∧ ¬ record.HasWords := by
  constructor
  · rintro ⟨why, invalid⟩
    have answer : r.answered c = .error (.invalid why) := by
      rw [verdict] at invalid
      cases heard : c.hearing with
      | answer => rwa [heard] at invalid
      | miss => cases op : r.operation <;> simp [heard, missing, op] at invalid
      | trouble e => simp [heard] at invalid
    unfold answered at answer
    split at answer
    · next key q record rest op =>
      rw [map_eq_error_iff] at answer
      exact ⟨key, q, record, rest, .inl op, rfl,
        (Keyring.itemOf_invalid_iff key record).mp ⟨why, answer⟩⟩
    · next key q record rest op =>
      rw [map_eq_error_iff] at answer
      exact ⟨key, q, record, rest, .inr op, rfl,
        (Keyring.metadataOf_invalid_iff key record).mp ⟨why, answer⟩⟩
    · cases answer
    · cases answer
  · rintro ⟨key, q, record, rest, op | op, rfl, words⟩
    · obtain ⟨why, refused⟩ := Keyring.itemOf_refused key words
      exact ⟨why, by simp [verdict, Call.hearing, answered, op, refused, Except.map]⟩
    · obtain ⟨why, refused⟩ := Keyring.metadataOf_refused key words
      exact ⟨why, by simp [verdict, Call.hearing, answered, op, refused, Except.map]⟩

theorem verdict_set {r : Request} {item : Item} {calls : List Call} {last : Call}
    (sets : r.operation = .set item) (shape : r.Calls calls) (ends : calls.getLast? = some last) :
    r.verdict last = .ok .done ↔ ∃ change, .write change (.ok (.ok ())) ∈ calls := by
  cases shape with
  | get | metadata | remove | keys => cases sets
  | added k item answer new =>
    cases ends
    rcases answer with ⟨kind, message⟩ | _
    · cases kind with
      | duplicate => exact absurd rfl (new message)
      | notFound => simp [verdict, Call.hearing]
      | other => simp [verdict, Call.hearing]
    · simp [verdict, Call.hearing, answered]
  | sought k item message answer none =>
    cases ends
    rcases answer with ⟨kind, words⟩ | (_ | ⟨found, rest⟩)
    · cases kind <;> simp [verdict, Call.hearing, missing]
    · simp [verdict, Call.hearing, missing]
    · exact absurd rfl (none found rest)
  | updated k item message found rest answer =>
    cases ends
    rcases answer with ⟨kind, words⟩ | _
    · cases kind <;> simp [verdict, Call.hearing, missing]
    · simp [verdict, Call.hearing, answered]

end Request

structure Request.Accounts (r : Request) (calls : List Call) (entries : List LogEntry)
    (outcome : Outcome) : Prop where
  shape : r.Calls calls
  /-- A key is not found exactly when nothing was there for an operation that wants it. -/
  keyNotFound (service key : Text) : outcome = .error (.keyNotFound service key) ↔
    r.keyring.service = service ∧ r.operation.wanted? = some key ∧ ∃ c ∈ calls, c.hearing = .miss
  /-- A service without records has no keys. -/
  noKeys : r.operation = .keys → (∃ c ∈ calls, c.hearing = .miss) → outcome = .ok (.keys [])
  /-- An item is set exactly when it was added or updated. -/
  set (item : Item) : r.operation = .set item →
    (outcome = .ok .done ↔ ∃ change, .write change (.ok (.ok ())) ∈ calls)
  /-- An update is lost exactly when nothing was there behind a duplicate. -/
  lost : isLost outcome = true ↔ (∃ item, r.operation = .set item) ∧ ∃ c ∈ calls, c.hearing = .miss
  warned : warnings entries = if isLost outcome then [r.warning] else []
  /-- A failure is one of the store exactly when a call failed, and says which. -/
  failed (failure : StoreFailure) (cause : NativeKind) : outcome = .error (.store failure cause) ↔
    ∃ c ∈ calls, ∃ e, c.hearing = .trouble e ∧ failure = r.failure c e ∧ cause = e.kind
  /-- A record is refused exactly when it was looked up and its words are no texts. -/
  invalid : (∃ why, outcome = .error (.invalid why)) ↔
    ∃ key q record rest, (r.operation = .get key ∨ r.operation = .metadata key) ∧
      .query q (.ok (.ok (record :: rest))) ∈ calls ∧ ¬ record.HasWords
  configured (why : Misconfiguration) : outcome ≠ .error (.misconfigured why)

namespace Request

theorem accounts_of_decided {r : Request} {c : Course Answer} (decided : r.Decided c)
    {outcome : Outcome} (ends : c.result = .ok outcome) : r.Accounts c.calls c.entries outcome := by
  obtain ⟨before, last, eq, passed⟩ := decided.calls.decisive
  have final : c.calls.getLast? = some last := by rw [eq, List.getLast?_concat]
  have verdict : outcome = r.verdict last := by
    have same := decided.outcome last final
    rw [ends] at same
    exact Except.ok.inj same
  have missed : (∃ call ∈ c.calls, call.hearing = .miss) ↔ last.hearing = .miss := by
    rw [eq]
    exact exists_decisive passed fun c miss => by rw [miss]; nofun
  subst verdict
  refine ⟨decided.calls, fun service key => ?_, fun keys miss => ?_, fun item sets => ?_, ?_,
    decided.warned last final, fun failure cause => ?_, ?_, fun why => ?_⟩
  · rw [missed, verdict_keyNotFound]
  · rw [Request.verdict, missed.mp miss, missing, keys]
  · exact verdict_set sets decided.calls final
  · rw [missed, verdict_lost]
  · rw [verdict_store, eq]
    have troubled : ∀ c : Call, (∃ e, c.hearing = .trouble e ∧ failure = r.failure c e ∧
        cause = e.kind) → c.hearing ≠ .answer := by
      rintro c ⟨e, trouble, -⟩
      rw [trouble]
      nofun
    exact (exists_decisive passed troubled).symm
  · rw [verdict_invalid]
    constructor
    · rintro ⟨key, q, record, rest, op, rfl, wordless⟩
      exact ⟨key, q, record, rest, op, by simp [eq], wordless⟩
    · rintro ⟨key, q, record, rest, op, member, wordless⟩
      obtain ⟨call, single⟩ := decided.calls.single fun item sets => by
        rcases op with op | op <;> rw [sets] at op <;> cases op
      rw [single, List.mem_singleton] at member
      rw [single] at final
      cases final
      exact ⟨key, q, record, rest, op, member.symm, wordless⟩
  · rw [Request.verdict]
    cases last.hearing with
    | answer => rcases r.answered_cases last with ⟨_, eq⟩ | ⟨_, eq⟩ <;> simp [eq]
    | miss => cases op : r.operation <;> simp [missing, op]
    | trouble e => simp

theorem accounts {σ : Type} (store : Script.Store σ) (r : Request) (s : σ) :
    r.Accounts (r.script.calls store s) (r.script.run store s).2.1 (r.script.run store s).1 := by
  obtain ⟨ends, logged, -⟩ := Script.course_run store r.script s
  rw [← logged]
  exact accounts_of_decided (decided store r s) ends

end Request

def Script.Store.Worded {σ : Type} (store : Script.Store σ) : Prop :=
  ∀ s q records, (store.query s q).1 = .ok records → ∀ record ∈ records, record.HasWords

theorem Script.calls_worded {α σ : Type} {store : Script.Store σ} (worded : store.Worded)
    (script : Script α) (s : σ) :
    ∀ q records, .query q (.ok (.ok records)) ∈ script.calls store s →
      ∀ record ∈ records, record.HasWords := by
  induction script generalizing s with
  | done result =>
    intro q records member
    cases member
  | log entry next ih => exact ih s
  | query q next ih =>
    intro q' records member
    rcases List.mem_cons.mp member with first | later
    · simp only [Call.query.injEq, Except.ok.injEq] at first
      exact worded s q records first.2.symm
    · exact ih _ _ q' records later
  | write c next ih =>
    intro q records member
    rcases List.mem_cons.mp member with first | later
    · cases first
    · exact ih _ _ q records later

/-- Whatever a store answers, and however it changes its mind: a request makes the
calls that its answers lead to and no others, ends as the last of them decides,
and logs a warning for a lost update alone. -/
theorem requests_account_for_responses {σ : Type} {store : Script.Store σ} (worded : store.Worded)
    (r : Request) (s : σ) :
    let (outcome, entries, _) := r.script.run store s
    r.Accounts (r.script.calls store s) entries outcome ∧
      ∀ why, outcome ≠ .error (.invalid why) := by
  have accounts := Request.accounts store r s
  refine ⟨accounts, fun why invalid => ?_⟩
  obtain ⟨key, q, record, rest, -, member, wordless⟩ := accounts.invalid.mp ⟨why, invalid⟩
  exact wordless (Script.calls_worded worded r.script s q _ member record (List.mem_cons_self ..))

/-- A store that refuses an item as a duplicate, finds it, and then has it no more. -/
def Script.Store.fickle : Script.Store Nat where
  query s _ := (.ok [{ service := .str "s", account := .str "a" }], s + 1)
  write s _ := (.error ⟨if s = 0 then .duplicate else .notFound, "no"⟩, s + 1)

/-- Setting an item there takes three calls, and the update is lost. -/
theorem requests_account_for_fickle_responses :
    let r : Request := ⟨{ (default : Keyring) with service := "s" }, .set { key := "a" }⟩
    Script.Store.fickle.Worded ∧ (r.script.calls .fickle 0).length = 3 ∧
      isLost (r.script.run .fickle 0).1 = true ∧
      warnings (r.script.run .fickle 0).2.1 = [r.warning] := by
  intro r
  have worded : Script.Store.fickle.Worded := by
    rintro s q _ ⟨⟩ record member
    rw [List.mem_singleton.mp member]
    exact ⟨⟨_, rfl⟩, _, rfl⟩
  obtain ⟨accounts, -⟩ := requests_account_for_responses worded r 0
  have lost : isLost (r.script.run .fickle 0).1 = true :=
    accounts.lost.mpr ⟨⟨_, rfl⟩, _, List.mem_of_getLast? rfl, rfl⟩
  exact ⟨worded, rfl, lost, accounts.warned.trans (if_pos lost)⟩

end SecretStore
