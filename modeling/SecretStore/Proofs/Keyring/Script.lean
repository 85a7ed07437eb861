import SecretStore.Keyring.Script

/-!
A script call by call: what it does with its next call, and whether that was
its last one.
-/

namespace SecretStore

namespace Script

variable {α β σ : Type}

def call (store : Store σ) : Script α → σ → Script α × σ
  | .done result, s => (.done result, s)
  | .log _ next, s => next.call store s
  | .query q next, s => (next (store.query s q).1, (store.query s q).2)
  | .write w next, s => (next (store.write s w).1, (store.write s w).2)

/-- The result of a script that makes no more calls. -/
def ending? : Script α → Option (Except KeyringError α)
  | .done result => some result
  | .log _ next => next.ending?
  | .query _ _ | .write _ _ => none

theorem run_of_ending (store : Store σ) {script : Script α} {result : Except KeyringError α}
    (h : script.ending? = some result) (s : σ) :
    (script.run store s).1 = result ∧ (script.run store s).2.2 = s := by
  induction script with
  | done r => exact ⟨Option.some.inj h, rfl⟩
  | log entry next ih => exact ih h
  | query q next => cases h
  | write w next => cases h

theorem run_of_call (store : Store σ) {script : Script α} {result : Except KeyringError α}
    {s : σ} (h : (script.call store s).1.ending? = some result) :
    (script.run store s).1 = result ∧ (script.run store s).2.2 = (script.call store s).2 := by
  induction script with
  | done r => exact run_of_ending store h s
  | log entry next ih => exact ih h
  | query q next => exact run_of_ending store h _
  | write w next => exact run_of_ending store h _

theorem call_mapResult (store : Store σ) (f : Except KeyringError α → Except KeyringError β)
    (script : Script α) (s : σ) :
    (script.mapResult f).call store s =
      ((script.call store s).1.mapResult f, (script.call store s).2) := by
  induction script with
  | done result => rfl
  | log entry next ih => exact ih
  | query q next => rfl
  | write w next => rfl

theorem ending_mapResult (f : Except KeyringError α → Except KeyringError β)
    (script : Script α) : (script.mapResult f).ending? = script.ending?.map f := by
  induction script with
  | done result => rfl
  | log entry next ih => exact ih
  | query q next => rfl
  | write w next => rfl

theorem mapResult_mapResult {γ : Type} (f : Except KeyringError α → Except KeyringError β)
    (g : Except KeyringError β → Except KeyringError γ) (script : Script α) :
    (script.mapResult f).mapResult g = script.mapResult (g ∘ f) := by
  induction script with
  | done result => rfl
  | log entry next ih => exact congrArg (Script.log entry) ih
  | query q next ih => exact congrArg (Script.query q) (funext ih)
  | write c next ih => exact congrArg (Script.write c) (funext ih)

theorem mapResult_map {γ : Type} (f : α → β) (g : β → γ) (script : Script α) :
    (script.mapResult fun result => result.map f).mapResult (fun result => result.map g) =
      script.mapResult fun result => result.map fun a => g (f a) := by
  rw [mapResult_mapResult]
  congr 1
  funext result
  cases result <;> rfl

end Script

end SecretStore
