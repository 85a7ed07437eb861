import SecretStore.Keyring.Error
import SecretStore.Record

/-!
What an operation of a keyring does, step by step: it writes to the log, asks
the store, and goes on from the store's answer, until it ends with a result or
an error. A script says nothing of the store that answers, so it can be run
against any of them, alone or between the steps of others.
-/

namespace SecretStore

inductive LogLevel
  | debug
  | warning
deriving DecidableEq, Repr

def LogLevel.name : LogLevel → String
  | .debug => "DEBUG"
  | .warning => "WARNING"

structure LogEntry where
  level : LogLevel
  logger : String
  message : Text
deriving DecidableEq, Repr

inductive Script (α : Type)
  | done (result : Except KeyringError α)
  | log (entry : LogEntry) (next : Script α)
  | query (q : Query) (next : Except NativeError (List Record) → Script α)
  | write (w : Write) (next : Except NativeError Unit → Script α)

namespace Script

variable {α β σ : Type}

def mapResult (f : Except KeyringError α → Except KeyringError β) : Script α → Script β
  | .done result => .done (f result)
  | .log entry next => .log entry (next.mapResult f)
  | .query q next => .query q fun answer => (next answer).mapResult f
  | .write w next => .write w fun answer => (next answer).mapResult f

/-- A store as a machine: it answers each call and goes to its next state. -/
structure Store (σ : Type) where
  query : σ → Query → Except NativeError (List Record) × σ
  write : σ → Write → Except NativeError Unit × σ

/-- The result of a script that has a store to itself, the entries it logged
and the state in which it leaves the store. -/
def run (store : Store σ) : Script α → σ → Except KeyringError α × List LogEntry × σ
  | .done result, s => (result, [], s)
  | .log entry next, s =>
    let (result, entries, s') := next.run store s
    (result, entry :: entries, s')
  | .query q next, s =>
    let (answer, s) := store.query s q
    (next answer).run store s
  | .write w next, s =>
    let (answer, s) := store.write s w
    (next answer).run store s

@[simp] theorem run_log (store : Store σ) (entry : LogEntry) (next : Script α) (s : σ) :
    (Script.log entry next).run store s =
      ((next.run store s).1, entry :: (next.run store s).2.1, (next.run store s).2.2) := rfl

@[simp] theorem run_query (store : Store σ) (q : Query)
    (next : Except NativeError (List Record) → Script α) (s : σ) :
    (Script.query q next).run store s =
      (next (store.query s q).1).run store (store.query s q).2 := rfl

@[simp] theorem run_write (store : Store σ) (w : Write) (next : Except NativeError Unit → Script α)
    (s : σ) :
    (Script.write w next).run store s =
      (next (store.write s w).1).run store (store.write s w).2 := rfl

@[simp] theorem run_mapResult (store : Store σ) (f : Except KeyringError α → Except KeyringError β)
    (script : Script α) (s : σ) :
    (script.mapResult f).run store s =
      (f (script.run store s).1, (script.run store s).2) := by
  induction script generalizing s with
  | done result => rfl
  | log entry next ih => simp only [mapResult, run_log, ih]
  | query q next ih => simp only [mapResult, run_query, ih]
  | write w next ih => simp only [mapResult, run_write, ih]

end Script

end SecretStore
