import SecretStore.Proofs.Keyring.Changes
import SecretStore.Proofs.Keyring.Course
import SecretStore.Proofs.Json.Short

/-!
The queries of keyrings. Whatever store answers, every query that an operation
hands to it, to find a record, to update one or to delete one, names the service
of the keyring. Those of every operation but one carry the reuse window that the
keyring was opened with. A removal is a single deletion, and carries none.
-/

namespace SecretStore

def Write.query? : Write → Option Query
  | .add _ => none
  | .update q _ | .delete q => some q

namespace Call

def query? : Call → Option Query
  | .query q _ => some q
  | .write c _ => c.query?

def IsFor (seeks : Query → Prop) (asks : Write → Prop) : Call → Prop
  | .query q _ => seeks q
  | .write c _ => asks c

end Call

namespace Script

variable {α σ : Type} {seeks : Query → Prop} {asks : Write → Prop}

theorem calls_of_ending {script : Script α} {result : Except KeyringError α}
    (ends : script.ending? = some result) (m : Machine σ) (s : σ) :
    (script.course m s).1.calls = [] := by
  induction script with
  | done r => rfl
  | log entry next ih => exact ih ends
  | query q next => cases ends
  | write c next => cases ends

theorem calls_course {script : Script α} (sought : script.Seeks seeks)
    (asked : script.ChangesOnce asks) (m : Machine σ) (s : σ) :
    ∀ call ∈ (script.course m s).1.calls, call.IsFor seeks asks := by
  induction script generalizing s with
  | done result => exact List.forall_mem_nil _
  | log entry next ih => exact ih sought asked s
  | query q next ih =>
    rw [course]
    rcases m.query s q with ⟨why | answer, s'⟩
    · exact List.forall_mem_singleton.mpr sought.1
    · exact List.forall_mem_cons.mpr ⟨sought.1, ih answer (sought.2 answer) (asked answer) s'⟩
  | write c next ih =>
    obtain ⟨kind, last, others⟩ := asked
    rw [course]
    rcases m.write s c with ⟨why | answer, entries, s'⟩
    · exact List.forall_mem_singleton.mpr kind
    · refine List.forall_mem_cons.mpr ⟨kind, ?_⟩
      rcases answer with e | _
      · exact ih (.error e) (sought _) (others e) s'
      · -- a change that was made is the last call
        obtain ⟨result, ends⟩ := last (.ok ()) trivial
        rw [calls_of_ending ends m s']
        exact List.forall_mem_nil _

end Script

theorem Request.Asks.query {r : Request} {c : Write} (asks : r.Asks c) {q : Query}
    (selects : q ∈ c.query?) : q.service = r.keyring.service ∧
      ((∀ key, r.operation ≠ .remove key) → q.reuse = some r.keyring.reuse) := by
  cases asks with
  | add k item => cases selects
  | update k item =>
    cases selects
    exact ⟨rfl, fun _ => rfl⟩
  | delete k key =>
    cases selects
    exact ⟨rfl, fun other => absurd rfl (other key)⟩

theorem Request.query_of_call {r : Request} {call : Call} (made : call.IsFor r.SeeksBy r.Asks)
    {q : Query} (handed : q ∈ call.query?) : q.service = r.keyring.service ∧
      ((∀ key, r.operation ≠ .remove key) → q.reuse = some r.keyring.reuse) := by
  cases call with
  | query _ response =>
    cases handed
    exact ⟨made.service, fun _ => made.reuse⟩
  | write c response => exact made.query handed

theorem Request.calls_remove {σ : Type} (k : Keyring) (key : Text) (m : Machine σ) (s : σ) :
    ∃ response, ((Request.mk k (.remove key)).script.course m s).1.calls =
      [.write (.delete { service := k.service, account := some key }) response] := by
  simp only [script, Keyring.remove, Keyring.debug, Script.mapResult, Script.course]
  rcases m.write s (.delete { service := k.service, account := some key })
    with ⟨why | ⟨⟨kind, message⟩ | _⟩, entries, s'⟩
  · exact ⟨_, rfl⟩
  · cases kind <;> exact ⟨_, rfl⟩
  · exact ⟨_, rfl⟩

/-- Opening, step by step: the strategy, the reuse window, the policy. -/
theorem Keyring.open_eq (config : KeyringConfig) (strategy : Option Strategy) :
    Keyring.open? config strategy = do
      let strategy ← strategy.elim (Strategy.ofName config.policy) .ok
      let reuse ← checkReuse config.reuse
      let policy ← strategy.resolve config
      return ⟨config.serviceName, policy, reuse, config.synchronizable⟩ := by
  cases strategy <;> rfl

theorem Keyring.open_ok {config : KeyringConfig} {strategy : Option Strategy} {k : Keyring}
    (opened : Keyring.open? config strategy = .ok k) :
    k.service = config.serviceName ∧ k.reuse = config.reuse ∧
      ∃ used : Strategy, used.resolve config = .ok k.policy := by
  rw [open_eq] at opened
  obtain ⟨used, -, opened⟩ := exists_of_bind opened
  obtain ⟨reuse, accepted, opened⟩ := exists_of_bind opened
  obtain ⟨policy, resolved, opened⟩ := exists_of_bind opened
  rw [checkReuse] at accepted
  split at accepted
  · cases accepted
  · cases accepted
    cases opened
    exact ⟨rfl, rfl, used, resolved⟩

/-- Every query of an opened keyring names its service. Finding records and updating
them goes under the configured reuse window, on every path of every operation;
removing goes without one. -/
theorem queries_carry_reuse_windows {σ : Type} {config : KeyringConfig}
    {strategy : Option Strategy} {k : Keyring} (opened : Keyring.open? config strategy = .ok k)
    (operation : Operation) (m : Machine σ) (s : σ) :
    let calls := ((Request.mk k operation).script.course m s).1.calls
    (∀ call ∈ calls, ∀ q ∈ call.query?, q.service = config.serviceName ∧
      ((∀ key, operation ≠ .remove key) → q.reuse = some config.reuse)) ∧
    ∀ key, operation = .remove key → ∃ response, calls =
      [.write (.delete { service := config.serviceName, account := some key, reuse := none })
        response] := by
  obtain ⟨service, reuse, -⟩ := Keyring.open_ok opened
  rw [← service, ← reuse]
  constructor
  · intro call made q handed
    exact Request.query_of_call (r := ⟨k, operation⟩)
      (Script.calls_course (Request.seeks _) (Request.changesOnce _) m s call made) handed
  · rintro key rfl
    exact Request.calls_remove k key m s

/-- Setting an item that is there takes an addition, a query and an update; the last
two carry the window. -/
theorem queries_carry_reuse_windows_replaced :
    let config : KeyringConfig := { serviceName := "s", reuse := ⟨300000000⟩ }
    let k : Keyring := ⟨"s", ⟨.standard, .empty⟩, ⟨300000000⟩, false⟩
    let course := ((Request.mk k (.set { key := "a" })).script.course
      (Table.store default).machine [k.recordOf { key := "a" }]).1
    Keyring.open? config = .ok k ∧ (course.calls.filterMap Call.query?).length = 2 ∧
      ∀ call ∈ course.calls, ∀ q ∈ call.query?,
        q.service = "s" ∧ q.reuse = some ⟨300000000⟩ := by
  intro config k course
  have opened : Keyring.open? config = .ok k := rfl
  obtain ⟨carried, -⟩ := queries_carry_reuse_windows opened (.set { key := "a" })
    (Table.store default).machine [k.recordOf { key := "a" }]
  refine ⟨opened, rfl, fun call made q handed => ?_⟩
  obtain ⟨service, reuse⟩ := carried call made q handed
  exact ⟨service, reuse nofun⟩

/-- The deletion of a removal is without the window that the keyring has. -/
theorem removal_carries_no_window :
    let k : Keyring := ⟨"s", ⟨.standard, .empty⟩, ⟨300000000⟩, false⟩
    let course := ((Request.mk k (.remove "a")).script.course (Table.store default).machine []).1
    Keyring.open? { serviceName := "s", reuse := ⟨300000000⟩ } = .ok k ∧
      ∃ call ∈ course.calls, ∃ q ∈ call.query?, q.reuse ≠ some k.reuse := by
  refine ⟨rfl, .write (.delete { service := "s", account := some "a" }) _, List.mem_cons_self .., _,
    rfl, nofun⟩

end SecretStore
