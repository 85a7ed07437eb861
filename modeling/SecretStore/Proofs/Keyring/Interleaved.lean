import SecretStore.Proofs.Keyring.Operation
import SecretStore.Proofs.Keyring.Script
import Mathlib.Logic.Function.Basic

/-!
Clients that share a table and make their native calls in any order. A turn
is one call of one client; between two calls of a request any number of calls
of others may come. Every request that takes effect does so at its last call,
as if it had the table to itself at that moment. The one exception to serial
behaviour is an update that is lost, and it leaves the table alone.
-/

namespace SecretStore

/-- What a client asks next, given the outcomes it has had, the last one first;
nothing when it is through. -/
abbrev Program := List Outcome → Option Request

/-- A request that is under way, and the tables that its calls found, the last
one first. -/
structure Ongoing where
  request : Request
  rest : Script Answer
  found : List Table

structure Client where
  ongoing : Option Ongoing
  outcomes : List Outcome

structure System (ι : Type) where
  table : Table
  clients : ι → Client

/-- A native call of a client's request, and the outcome if it was the last one. -/
structure Event (ι : Type) where
  client : ι
  time : Moment
  request : Request
  earlier : List Table
  before : Table
  after : Table
  outcome : Option Outcome

def Client.current? (program : Program) (c : Client) : Option Ongoing :=
  match c.ongoing with
  | some o => some o
  | none => (program c.outcomes).map fun r => ⟨r, r.script, []⟩

namespace Ongoing

variable {ι : Type}

def event (o : Ongoing) (i : ι) (now : Moment) (t : Table) : Event ι :=
  ⟨i, now, o.request, o.found, t, (o.rest.call (Table.store now) t).2,
    (o.rest.call (Table.store now) t).1.ending?⟩

def advanced (o : Ongoing) (now : Moment) (t : Table) : Ongoing :=
  ⟨o.request, (o.rest.call (Table.store now) t).1, t :: o.found⟩

def client (o : Ongoing) (now : Moment) (t : Table) (outcomes : List Outcome) : Client :=
  match (o.rest.call (Table.store now) t).1.ending? with
  | none => ⟨some (o.advanced now t), outcomes⟩
  | some outcome => ⟨none, outcome :: outcomes⟩

theorem client_outcomes (o : Ongoing) (i : ι) (now : Moment) (t : Table)
    (outcomes : List Outcome) :
    (o.client now t outcomes).outcomes = (o.event i now t).outcome.toList ++ outcomes := by
  rw [client, event]
  cases (o.rest.call (Table.store now) t).1.ending? <;> rfl

end Ongoing

namespace System

variable {ι : Type}

def start (t : Table) : System ι := ⟨t, fun _ => ⟨none, []⟩⟩

variable [DecidableEq ι]

def advanced (i : ι) (o : Ongoing) (now : Moment) (s : System ι) : System ι :=
  ⟨(o.event i now s.table).after,
    Function.update s.clients i (o.client now s.table (s.clients i).outcomes)⟩

def turn (programs : ι → Program) (i : ι) (now : Moment) (s : System ι) :
    Option (Event ι) × System ι :=
  match (s.clients i).current? (programs i) with
  | none => (none, s)
  | some o => (some (o.event i now s.table), s.advanced i o now)

def run (programs : ι → Program) : List (ι × Moment) → System ι → List (Event ι) × System ι
  | [], s => ([], s)
  | (i, now) :: rest, s =>
    let (event, s) := s.turn programs i now
    let (events, s) := run programs rest s
    (event.toList ++ events, s)

end System

def isLost : Outcome → Bool
  | .error (.lostUpdate _) => true
  | _ => false

namespace Event

variable {ι : Type}

def effect? (e : Event ι) : Option ((Moment × Request) × Outcome) :=
  (e.outcome.filter fun outcome => !isLost outcome).map fun outcome =>
    ((e.time, e.request), outcome)

/-- What a client sees of an event: the outcome, if its request ended. -/
def seen [DecidableEq ι] (i : ι) (e : Event ι) : List Outcome :=
  if e.client = i then e.outcome.toList else []

/-- What the call of an event does to the table, and what its request had seen before. -/
inductive Explained (e : Event ι) : Prop
  /-- An item is being set; the request goes on, and the table is as it was. -/
  | passing (item : Item) (sets : e.request.operation = .set item) (goes : e.outcome = none)
      (same : e.after = e.before)
  /-- The request did with this call all that it does when it is alone. Setting an
  item has then either added it, with its first call, where there was none, or
  replaced the secret of one, with its third. Any other request has no other call. -/
  | effective (outcome : Outcome) (ends : e.outcome = some outcome)
      (kept : isLost outcome = false)
      (alone : Table.perform e.time e.request e.before = (outcome, e.after))
      (upsert : ∀ item, e.request.operation = .set item →
        outcome = .ok .done ∧
        e.after = e.before.upsert e.time e.request.keyring item ∧
        e.earlier.length = if e.before.hasKey e.request.keyring.service item.key then 2 else 0)
      (single : (∀ item, e.request.operation ≠ .set item) → e.earlier = [])
  /-- The item was there when it was to be added, and was gone when it was looked
  up or when it was to be updated. -/
  | lost (item : Item) (failure : StoreFailure) (first : Table)
      (sets : e.request.operation = .set item)
      (ends : e.outcome = some (.error (.lostUpdate failure)))
      (same : e.after = e.before)
      (calls : e.earlier.getLast? = some first ∧ e.earlier.length ≤ 2)
      (there : first.hasKey e.request.keyring.service item.key = true)
      (gone : e.before.hasKey e.request.keyring.service item.key = false)

end Event

/-- How far a request that is under way has come: it has made no call, or it
sets an item that was found to be there, once or twice. -/
inductive Ongoing.Reached : Ongoing → Prop
  | fresh (r : Request) : Reached ⟨r, r.script, []⟩
  | refused (k : Keyring) (item : Item) (first : Table)
      (there : first.hasKey k.service item.key = true) :
      Reached ⟨⟨k, .set item⟩,
        (k.replaceData item).mapResult fun a => a.map fun _ => .done, [first]⟩
  | found (k : Keyring) (item : Item) (first second : Table)
      (there : first.hasKey k.service item.key = true) :
      Reached ⟨⟨k, .set item⟩,
        (k.overwrite item.key item.data).mapResult fun a => a.map fun _ => .done,
        [second, first]⟩

namespace Ongoing

variable {ι : Type}

theorem perform_of_ending {r : Request} {now : Moment} {t : Table} {outcome : Outcome}
    (h : (r.script.call (Table.store now) t).1.ending? = some outcome) :
    Table.perform now r t = (outcome, (r.script.call (Table.store now) t).2) := by
  obtain ⟨result, state⟩ := Script.run_of_call (Table.store now) h
  rw [Table.perform, ← result, ← state]

theorem queryOne_ends {α : Type} {k : Keyring} {operation : String} {key : Text} {q : Query}
    {next : Record → Except KeyringError α} {f : Except KeyringError α → Outcome} {t : Table}
    (now : Moment) (kept : ∀ r, isLost (f (next r)) = false)
    (absent : isLost (f (.error (.keyNotFound k.service key))) = false) :
    ∃ outcome, (((k.queryOne operation key q next).mapResult f).call
      (Table.store now) t).1.ending? = some outcome ∧ isLost outcome = false := by
  simp only [Script.call_mapResult, Script.ending_mapResult, Keyring.queryOne, Script.call,
    Table.store_query]
  cases there : t.any (fun r => r.meets q) with
  | false =>
    rw [Table.query_missing there]
    exact ⟨_, rfl, absent⟩
  | true =>
    obtain ⟨r, rest, found⟩ := Table.query_there there
    rw [found]
    exact ⟨_, rfl, kept r⟩

theorem single_call {r : Request} (now : Moment) (t : Table)
    (other : ∀ item, r.operation ≠ .set item) :
    ∃ outcome, (r.script.call (Table.store now) t).1.ending? = some outcome ∧
      isLost outcome = false := by
  obtain ⟨k, operation⟩ := r
  cases operation with
  | get key =>
    refine queryOne_ends now (fun r => ?_) rfl
    rw [Keyring.itemOf]
    cases Item.ofEntries _ <;> rfl
  | metadata key =>
    refine queryOne_ends now (fun r => ?_) rfl
    rw [Keyring.metadataOf]
    cases Item.ofEntries _ <;> rfl
  | set item => exact absurd rfl (other item)
  | remove key =>
    simp only [Request.script, Keyring.remove, Keyring.debug, Script.call_mapResult,
      Script.ending_mapResult, Script.call]
    cases there : t.any (fun r => r.meets { service := k.service, account := some key }) with
    | false =>
      rw [Table.store_write_error (Table.write_delete_absent now there)]
      exact ⟨_, rfl, rfl⟩
    | true =>
      rw [Table.store_write_ok (Table.write_delete_present now there)]
      exact ⟨_, rfl, rfl⟩
  | keys =>
    simp only [Request.script, Keyring.keys, Keyring.debug, Script.call_mapResult,
      Script.ending_mapResult, Script.call, Table.store_query]
    cases there : t.any (fun r => r.meets k.serviceQuery) with
    | false =>
      rw [Table.query_missing there]
      exact ⟨_, rfl, rfl⟩
    | true =>
      obtain ⟨r, rest, found⟩ := Table.query_there there
      rw [found]
      exact ⟨_, rfl, rfl⟩

theorem effective_of_single {r : Request} (i : ι) (now : Moment) (t : Table)
    (other : ∀ item, r.operation ≠ .set item) :
    ((⟨r, r.script, []⟩ : Ongoing).event i now t).Explained := by
  obtain ⟨outcome, ends, kept⟩ := single_call now t other
  exact .effective outcome ends kept (perform_of_ending ends)
    (fun item sets => absurd sets (other item)) fun _ => rfl

theorem set_first (k : Keyring) (item : Item) (now : Moment) (t : Table) :
    (Request.script ⟨k, .set item⟩).call (Table.store now) t =
      if t.hasKey k.service item.key then
        ((k.replaceData item).mapResult fun a => a.map fun _ => .done, t)
      else (.done (.ok .done), t.upsert now k item) := by
  simp only [Request.script, Keyring.set, Keyring.debug, Script.call_mapResult, Script.call]
  cases there : t.hasKey k.service item.key with
  | false =>
    rw [Table.store_write_ok (Table.write_add_absent now there)]
    rfl
  | true =>
    rw [Table.store_write_error (Table.write_add_present now there)]
    rfl

theorem set_second (k : Keyring) (item : Item) (now : Moment) (t : Table) :
    (k.replaceData item).call (Table.store now) t =
      (if t.hasKey k.service item.key then k.overwrite item.key item.data
        else k.lostUpdate item.key, t) := by
  simp only [Keyring.replaceData, Keyring.debug, Script.call, Table.store_query]
  cases there : t.hasKey k.service item.key with
  | false =>
    rw [Table.query_missing (q := k.itemQuery item.key false false) there]
    rfl
  | true =>
    obtain ⟨r, rest, found⟩ :=
      Table.query_there (q := k.itemQuery item.key false false) there
    rw [found]
    rfl

theorem set_third (k : Keyring) (item : Item) (now : Moment) (t : Table) :
    (k.overwrite item.key item.data).call (Table.store now) t =
      if t.hasKey k.service item.key then (.done (.ok ()), t.upsert now k item)
      else (k.lostUpdate item.key, t) := by
  simp only [Keyring.overwrite, Script.call]
  cases there : t.hasKey k.service item.key with
  | false =>
    rw [Table.store_write_error
      (Table.write_update_absent (q := k.itemQuery item.key false false) now _ there)]
    rfl
  | true =>
    rw [Table.store_write_ok (Table.write_update_present now there)]
    rfl

theorem ends_of_single {r : Request} (i : ι) (now : Moment) (t : Table)
    (other : ∀ item, r.operation ≠ .set item) :
    ((⟨r, r.script, []⟩ : Ongoing).event i now t).outcome ≠ none := by
  obtain ⟨outcome, ends, _⟩ := single_call now t other
  rw [event, ends]
  exact Option.some_ne_none outcome

theorem event_of_call {o : Ongoing} {now : Moment} {t after : Table} {rest : Script Answer}
    (i : ι) (h : o.rest.call (Table.store now) t = (rest, after)) :
    o.event i now t = ⟨i, now, o.request, o.found, t, after, rest.ending?⟩ := by
  rw [event, h]

theorem Reached.explained {o : Ongoing} (h : o.Reached) (i : ι) (now : Moment) (t : Table) :
    (o.event i now t).Explained := by
  cases h with
  | fresh r =>
    obtain ⟨k, operation⟩ := r
    cases operation with
    | set item =>
      have first := set_first k item now t
      cases there : t.hasKey k.service item.key with
      | true =>
        rw [there, if_pos rfl] at first
        rw [event_of_call i first]
        exact .passing item rfl rfl rfl
      | false =>
        rw [there, if_neg Bool.false_ne_true] at first
        rw [event_of_call i first]
        refine .effective (.ok .done) rfl rfl (Table.perform_set now k item t) ?_ fun _ => rfl
        rintro _ ⟨⟩
        exact ⟨rfl, rfl, by rw [there]; rfl⟩
    | _ => exact effective_of_single i now t fun item sets => by cases sets
  | refused k item first there =>
    have second := Script.call_mapResult (Table.store now)
      (fun a => a.map fun _ => Answer.done) (k.replaceData item) t
    rw [set_second] at second
    rw [event_of_call i second]
    cases still : t.hasKey k.service item.key with
    | true => exact .passing item rfl rfl rfl
    | false => exact .lost item _ first rfl rfl rfl ⟨rfl, by simp⟩ there still
  | found k item first second there =>
    have third := Script.call_mapResult (Table.store now)
      (fun a => a.map fun _ => Answer.done) (k.overwrite item.key item.data) t
    rw [set_third] at third
    rw [event_of_call i third]
    cases still : t.hasKey k.service item.key with
    | true =>
      refine .effective (.ok .done) rfl rfl (Table.perform_set now k item t) ?_
        fun other => absurd rfl (other item)
      rintro _ ⟨⟩
      exact ⟨rfl, rfl, by rw [still]; rfl⟩
    | false => exact .lost item _ first rfl rfl rfl ⟨rfl, by simp⟩ there still

theorem Reached.advanced {o : Ongoing} (h : o.Reached) (i : ι) (now : Moment) (t : Table)
    (goes : (o.event i now t).outcome = none) : (o.advanced now t).Reached := by
  cases h with
  | fresh r =>
    obtain ⟨k, operation⟩ := r
    cases operation with
    | set item =>
      have first := set_first k item now t
      cases there : t.hasKey k.service item.key with
      | true =>
        rw [there, if_pos rfl] at first
        rw [Ongoing.advanced, first]
        exact .refused k item t there
      | false =>
        rw [there, if_neg Bool.false_ne_true] at first
        rw [event_of_call i first] at goes
        cases goes
    | _ => exact absurd goes (ends_of_single i now t fun item sets => by cases sets)
  | refused k item first there =>
    have second := Script.call_mapResult (Table.store now)
      (fun a => a.map fun _ => Answer.done) (k.replaceData item) t
    rw [set_second] at second
    cases still : t.hasKey k.service item.key with
    | true =>
      rw [Ongoing.advanced, second, still]
      exact .found k item first t there
    | false =>
      rw [event_of_call i second, still] at goes
      cases goes
  | found k item first second there =>
    have third := Script.call_mapResult (Table.store now)
      (fun a => a.map fun _ => Answer.done) (k.overwrite item.key item.data) t
    rw [set_third] at third
    rw [event_of_call i third] at goes
    cases still : t.hasKey k.service item.key with
    | true =>
      rw [still] at goes
      cases goes
    | false =>
      rw [still] at goes
      cases goes

theorem Reached.client {o : Ongoing} (h : o.Reached) (now : Moment) (t : Table)
    (outcomes : List Outcome) : ∀ o' ∈ (o.client now t outcomes).ongoing, o'.Reached := by
  intro o' ongoing
  rw [Ongoing.client] at ongoing
  cases goes : (o.rest.call (Table.store now) t).1.ending? with
  | none =>
    rw [goes] at ongoing
    cases ongoing
    exact h.advanced () now t goes
  | some outcome =>
    rw [goes] at ongoing
    cases ongoing

end Ongoing

theorem Event.Explained.serial_effect {ι : Type} {e : Event ι} (h : e.Explained) :
    serial Table.perform (([e].filterMap effect?).map Prod.fst) e.before =
      (([e].filterMap effect?).map Prod.snd, e.after) := by
  cases h with
  | passing item sets goes same =>
    simp only [List.filterMap, effect?, goes, same]
    rfl
  | effective outcome ends kept alone upsert single =>
    simp only [List.filterMap, effect?, ends, Option.filter_some, kept, Bool.not_false, if_true,
      Option.map_some, List.map_cons, List.map_nil, serial_cons, alone]
    rfl
  | lost item failure first sets ends same calls there gone =>
    simp only [List.filterMap, effect?, ends, same]
    rfl

theorem Event.Explained.single {ι : Type} {e : Event ι} (h : e.Explained)
    (other : ∀ item, e.request.operation ≠ .set item) : e.earlier = [] ∧ e.effect? ≠ none := by
  cases h with
  | passing item sets => exact absurd sets (other item)
  | effective outcome ends kept alone upsert single =>
    refine ⟨single other, ?_⟩
    rw [effect?, ends, Option.filter_some, kept]
    exact Option.some_ne_none _
  | lost item failure first sets => exact absurd sets (other item)

namespace System

variable {ι : Type}

/-- Every request that is under way has come as far as requests come. -/
def Sound (s : System ι) : Prop :=
  ∀ i, ∀ o ∈ (s.clients i).ongoing, o.Reached

theorem sound_start (t : Table) : (start t : System ι).Sound := by
  intro i o ongoing
  cases ongoing

theorem reached_current {s : System ι} (h : s.Sound) {program : Program} {i : ι} {o : Ongoing}
    (current : (s.clients i).current? program = some o) : o.Reached := by
  rw [Client.current?] at current
  cases going : (s.clients i).ongoing with
  | some o' =>
    rw [going] at current
    cases current
    exact h i o going
  | none =>
    rw [going] at current
    obtain ⟨r, _, rfl⟩ := Option.map_eq_some_iff.mp current
    exact .fresh r

variable [DecidableEq ι]

theorem turn_through {s : System ι} {programs : ι → Program} {i : ι} (now : Moment)
    (through : (s.clients i).current? (programs i) = none) :
    s.turn programs i now = (none, s) := by
  simp only [turn, through]

theorem turn_current {s : System ι} {programs : ι → Program} {i : ι} {o : Ongoing} (now : Moment)
    (current : (s.clients i).current? (programs i) = some o) :
    s.turn programs i now = (some (o.event i now s.table), s.advanced i o now) := by
  simp only [turn, current]

theorem advanced_self (s : System ι) (i : ι) (o : Ongoing) (now : Moment) :
    (s.advanced i o now).clients i = o.client now s.table (s.clients i).outcomes :=
  Function.update_self ..

theorem advanced_other (s : System ι) {i j : ι} (o : Ongoing) (now : Moment) (h : j ≠ i) :
    (s.advanced i o now).clients j = s.clients j :=
  Function.update_of_ne h ..

theorem sound_turn {s : System ι} (h : s.Sound) (programs : ι → Program) (i : ι)
    (now : Moment) : (s.turn programs i now).2.Sound := by
  cases current : (s.clients i).current? (programs i) with
  | none =>
    rw [turn_through now current]
    exact h
  | some o =>
    rw [turn_current now current]
    intro j o' ongoing
    by_cases same : j = i
    · subst same
      rw [advanced_self] at ongoing
      exact (reached_current h current).client now s.table _ o' ongoing
    · rw [advanced_other s o now same] at ongoing
      exact h j o' ongoing

theorem outcomes_turn (s : System ι) (programs : ι → Program) (i j : ι) (now : Moment) :
    ((s.turn programs i now).2.clients j).outcomes =
      (s.turn programs i now).1.toList.flatMap (Event.seen j) ++ (s.clients j).outcomes := by
  cases current : (s.clients i).current? (programs i) with
  | none =>
    rw [turn_through now current]
    rfl
  | some o =>
    rw [turn_current now current, Option.toList_some, List.flatMap_singleton, Event.seen]
    by_cases same : i = j
    · subst same
      have ends : (if (o.event i now s.table).client = i then
          (o.event i now s.table).outcome.toList else []) =
            (o.event i now s.table).outcome.toList := if_pos rfl
      rw [advanced_self, Ongoing.client_outcomes o i, ends]
    · have other : (if (o.event i now s.table).client = j then
          (o.event i now s.table).outcome.toList else []) = [] := if_neg same
      rw [advanced_other s o now (Ne.symm same), other, List.nil_append]

theorem explained_turn {s : System ι} (h : s.Sound) (programs : ι → Program) (i : ι)
    (now : Moment) : ∀ e ∈ (s.turn programs i now).1.toList, e.Explained := by
  intro e event
  cases current : (s.clients i).current? (programs i) with
  | none =>
    rw [turn_through now current] at event
    cases event
  | some o =>
    rw [turn_current now current, Option.toList_some, List.mem_singleton] at event
    rw [event]
    exact (reached_current h current).explained i now s.table

theorem serial_turn {s : System ι} (h : s.Sound) (programs : ι → Program) (i : ι)
    (now : Moment) :
    let effects := (s.turn programs i now).1.toList.filterMap Event.effect?
    serial Table.perform (effects.map Prod.fst) s.table =
      (effects.map Prod.snd, (s.turn programs i now).2.table) := by
  cases current : (s.clients i).current? (programs i) with
  | none =>
    rw [turn_through now current]
    rfl
  | some o =>
    rw [turn_current now current]
    exact ((reached_current h current).explained i now s.table).serial_effect

theorem run_cons (programs : ι → Program) (i : ι) (now : Moment) (rest : List (ι × Moment))
    (s : System ι) :
    run programs ((i, now) :: rest) s =
      ((s.turn programs i now).1.toList ++ (run programs rest (s.turn programs i now).2).1,
        (run programs rest (s.turn programs i now).2).2) := rfl

theorem serial_run {s : System ι} (h : s.Sound) (programs : ι → Program)
    (schedule : List (ι × Moment)) :
    let effects := (run programs schedule s).1.filterMap Event.effect?
    serial Table.perform (effects.map Prod.fst) s.table =
      (effects.map Prod.snd, (run programs schedule s).2.table) := by
  induction schedule generalizing s with
  | nil => rfl
  | cons turn rest ih =>
    obtain ⟨i, now⟩ := turn
    have first := serial_turn h programs i now
    have rest := ih (sound_turn h programs i now)
    simp only at first rest
    simp only [run_cons, List.filterMap_append, List.map_append, serial_append, first, rest]

theorem explained_run {s : System ι} (h : s.Sound) (programs : ι → Program)
    (schedule : List (ι × Moment)) : ∀ e ∈ (run programs schedule s).1, e.Explained := by
  induction schedule generalizing s with
  | nil =>
    intro e event
    cases event
  | cons turn rest ih =>
    obtain ⟨i, now⟩ := turn
    intro e event
    rw [run_cons] at event
    rcases List.mem_append.mp event with event | event
    · exact explained_turn h programs i now e event
    · exact ih (sound_turn h programs i now) e event

theorem outcomes_run (programs : ι → Program) (schedule : List (ι × Moment)) (s : System ι)
    (j : ι) :
    ((run programs schedule s).2.clients j).outcomes =
      ((run programs schedule s).1.reverse.flatMap (Event.seen j)) ++ (s.clients j).outcomes := by
  induction schedule generalizing s with
  | nil => rfl
  | cons turn rest ih =>
    obtain ⟨i, now⟩ := turn
    rw [run_cons, ih, outcomes_turn, List.reverse_append, List.flatMap_append, List.append_assoc]
    cases (s.turn programs i now).1 <;> rfl

end System

/-- However the calls of any clients fall between each other: every call is that of a
request that goes on or takes effect or is lost, where only setting an item is ever
more than one call or lost; the requests that take effect give one after another,
each at the moment of its last call, the outcomes and the table that came about, and
these are the outcomes that the clients saw. -/
theorem interleaving_is_serial {ι : Type} [DecidableEq ι] (programs : ι → Program)
    (schedule : List (ι × Moment)) (t : Table) :
    let (events, s) := System.run programs schedule (.start t)
    let effects := events.filterMap Event.effect?
    (∀ e ∈ events, e.Explained ∧
      ((∀ item, e.request.operation ≠ .set item) → e.earlier = [] ∧ e.effect? ≠ none)) ∧
    serial Table.perform (effects.map Prod.fst) t = (effects.map Prod.snd, s.table) ∧
    ∀ i, (s.clients i).outcomes = events.reverse.flatMap (Event.seen i) := by
  refine ⟨fun e event => ?_,
    System.serial_run (System.sound_start t) programs schedule, fun i => ?_⟩
  · have explained := System.explained_run (System.sound_start t) programs schedule e event
    exact ⟨explained, explained.single⟩
  · rw [System.outcomes_run]
    exact List.append_nil _

end SecretStore
