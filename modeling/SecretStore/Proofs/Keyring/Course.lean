import SecretStore.Keyring.Sealed
import SecretStore.Proofs.Keyring.Operation
import SecretStore.Proofs.Keyring.Script

/-!
All that shows of a script while it runs: its calls with the responses to them,
the entries that it and the store log, and how it ends. A machine is a store of
which all this shows. A store that only answers is one, and so is a sealed file,
which may break a call off and logs what it writes; on both, the course of a
script is its run.
-/

namespace SecretStore

abbrev Response (α : Type) := Except Crash (Except NativeError α)

inductive Call
  | query (q : Query) (response : Response (List Record))
  | write (c : Write) (response : Response Unit)

structure Machine (σ : Type) where
  query : σ → Query → Response (List Record) × σ
  write : σ → Write → Response Unit × List LogEntry × σ

/-- What shows of a script, from some place on. -/
structure Course (α : Type) where
  result : Except Crash (Except KeyringError α)
  entries : List LogEntry
  calls : List Call

namespace Course

variable {α : Type}

def behind (entries : List LogEntry) (c : Course α) : Course α :=
  { c with entries := entries ++ c.entries }

def after (call : Call) (c : Course α) : Course α :=
  { c with calls := call :: c.calls }

end Course

namespace Script

variable {α β σ : Type}

def course (m : Machine σ) : Script α → σ → Course α × σ
  | .done result, s => (⟨.ok result, [], []⟩, s)
  | .log entry next, s =>
    let (c, s) := next.course m s
    (c.behind [entry], s)
  | .query q next, s => match m.query s q with
    | (.error why, s) => (⟨.error why, [], [.query q (.error why)]⟩, s)
    | (.ok answer, s) =>
      let (c, s) := (next answer).course m s
      (c.after (.query q (.ok answer)), s)
  | .write change next, s => match m.write s change with
    | (.error why, entries, s) => (⟨.error why, entries, [.write change (.error why)]⟩, s)
    | (.ok answer, entries, s) =>
      let (c, s) := (next answer).course m s
      ((c.after (.write change (.ok answer))).behind entries, s)

def Store.machine (store : Store σ) : Machine σ where
  query s q := (.ok (store.query s q).1, (store.query s q).2)
  write s c := (.ok (store.write s c).1, [], (store.write s c).2)

theorem course_of_ending {script : Script α} {result : Except KeyringError α}
    (ends : script.ending? = some result) :
    ∃ c : Course α, c.result = .ok result ∧
      ∀ {σ : Type} (m : Machine σ) (state : σ), script.course m state = (c, state) := by
  induction script with
  | done r => exact ⟨_, congrArg _ (Option.some.inj ends), fun m state => rfl⟩
  | log entry next ih =>
    obtain ⟨c, final, same⟩ := ih ends
    exact ⟨c.behind [entry], final, fun m state => by rw [course, same]⟩
  | query q next => cases ends
  | write c next => cases ends

theorem course_run (store : Store σ) (script : Script α) (s : σ) :
    (script.course store.machine s).1.result = .ok (script.run store s).1 ∧
    (script.course store.machine s).1.entries = (script.run store s).2.1 ∧
    (script.course store.machine s).2 = (script.run store s).2.2 := by
  induction script generalizing s with
  | done result => exact ⟨rfl, rfl, rfl⟩
  | log entry next ih =>
    obtain ⟨result, entries, state⟩ := ih s
    exact ⟨result, congrArg (entry :: ·) entries, state⟩
  | query q next ih => exact ih _ _
  | write c next ih => exact ih _ _

end Script

def StoreFault.response {α : Type} : Except StoreFault α → Response α
  | .ok a => .ok (.ok a)
  | .error (.reported e) => .ok (.error e)
  | .error (.crashed why) => .error why

def SealedFile.machine (s : SealedFile) : Machine World where
  query w q := (StoreFault.response (s.query w.files q), w)
  write w c := (StoreFault.response (s.write w c).1, (s.write w c).2)

theorem Script.course_runSealed {α : Type} (file : SealedFile) (script : Script α) (w : World) :
    (script.course file.machine w).1.result = (script.runSealed file w).1 ∧
    (script.course file.machine w).1.entries = (script.runSealed file w).2.1 ∧
    (script.course file.machine w).2 = (script.runSealed file w).2.2 := by
  induction script generalizing w with
  | done result => exact ⟨rfl, rfl, rfl⟩
  | log entry next ih =>
    obtain ⟨result, entries, state⟩ := ih w
    exact ⟨result, congrArg (entry :: ·) entries, state⟩
  | query q next ih =>
    simp only [course, SealedFile.machine, runSealed]
    rcases file.query w.files q with (e | why) | records
    · exact ih (.error e) w
    · exact ⟨rfl, rfl, rfl⟩
    · exact ih (.ok records) w
  | write c next ih =>
    simp only [course, SealedFile.machine, runSealed]
    rcases file.write w c with ⟨(e | why) | done, entries, w'⟩
    · obtain ⟨result, more, state⟩ := ih (.error e) w'
      exact ⟨result, congrArg (entries ++ ·) more, state⟩
    · exact ⟨rfl, rfl, rfl⟩
    · obtain ⟨result, more, state⟩ := ih (.ok ()) w'
      exact ⟨result, congrArg (entries ++ ·) more, state⟩

/-- Steps one after another, each from the state that the one before it left. -/
def inTurn {σ ρ α : Type} (perform : ρ → σ → α × σ) : List ρ → σ → List α × σ
  | [], s => ([], s)
  | step :: rest, s =>
    let (a, s) := perform step s
    let (others, s) := inTurn perform rest s
    (a :: others, s)

theorem inTurn_cons {σ ρ α : Type} (perform : ρ → σ → α × σ) (step : ρ) (rest : List ρ) (s : σ) :
    inTurn perform (step :: rest) s =
      ((perform step s).1 :: (inTurn perform rest (perform step s).2).1,
        (inTurn perform rest (perform step s).2).2) := rfl

/-- Two runs of which each step leaves related states, and shows in one what it
shows in the other, changed. -/
theorem inTurn_related {σ σ' ρ ρ' α β : Type} {perform : ρ → σ → α × σ}
    {perform' : ρ' → σ' → β × σ'} {f : ρ → ρ'} {g : α → β} (related : σ → σ' → Prop)
    {steps : List ρ}
    (one : ∀ step ∈ steps, ∀ s s', related s s' →
      (perform' (f step) s').1 = g (perform step s).1 ∧
        related (perform step s).2 (perform' (f step) s').2) {s : σ} {s' : σ'}
    (start : related s s') :
    (inTurn perform' (steps.map f) s').1 = (inTurn perform steps s).1.map g := by
  induction steps generalizing s s' with
  | nil => rfl
  | cons step rest ih =>
    rw [List.forall_mem_cons] at one
    obtain ⟨same, next⟩ := one.1 s s' start
    rw [List.map_cons, inTurn_cons, inTurn_cons, List.map_cons, same, ih one.2 next]

end SecretStore
