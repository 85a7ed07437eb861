import SecretStore.Proofs.Store.Failure

/-!
Keys and services do not meddle with each other. What a request asks for lies in
any scope that covers the request, and outside of any that does not. So a table
restricted to a scope answers the requests that the scope covers as the whole
table does, and the others leave it as it is. On a path where no file can be written
every request gets what it would get first, unless the directories that an attempt
to write has made show.
-/

namespace SecretStore

/-- The records of a service, or of one account of it. -/
structure Scope where
  service : Text
  account : Option Text
deriving DecidableEq, Repr

namespace Scope

def has (scope : Scope) (r : Record) : Bool :=
  r.meets { service := scope.service, account := scope.account }

def covers (scope : Scope) (r : Request) : Bool :=
  r.keyring.service == scope.service &&
    scope.account.all fun account => r.operation.key? == some account

/-- A query that finds nothing outside of the scope. -/
def Inside (scope : Scope) (q : Query) : Prop :=
  ∀ r : Record, r.meets q = true → scope.has r = true

end Scope

def Write.Touches (p : Record → Bool) : Write → Prop
  | .add r => p r = true ∧ ∀ s : Record, s.sameIdentity r = true → p s = true
  | .update q _ | .delete q => ∀ r : Record, r.meets q = true → p r = true

namespace Record

theorem isText_unique {j : Json} {s s' : Text} (one : isText s j = true)
    (other : isText s' j = true) : s = s' := by
  cases j with
  | str t => exact (beq_iff_eq.mp one).symm.trans (beq_iff_eq.mp other)
  | _ => cases one

theorem meets_iff {r : Record} {q : Query} : r.meets q = true ↔
    isText q.service r.service = true ∧ ∀ account ∈ q.account, isText account r.account = true := by
  cases account : q.account <;> simp [meets, account]

end Record

namespace Scope

variable {scope : Scope} {r : Request}

theorem covers_iff : scope.covers r = true ↔ r.keyring.service = scope.service ∧
    ∀ account ∈ scope.account, r.operation.key? = some account := by
  cases account : scope.account <;> simp [covers, account]

theorem inside_of_covers (covers : scope.covers r = true) {q : Query}
    (service : q.service = r.keyring.service) (account : q.account = r.operation.key?) :
    scope.Inside q := by
  obtain ⟨same, keyed⟩ := covers_iff.mp covers
  intro record meets
  obtain ⟨serves, named⟩ := Record.meets_iff.mp meets
  refine Record.meets_iff.mpr ⟨?_, fun key there => named key ?_⟩
  · rwa [service, same] at serves
  · rw [account, keyed key there]
    rfl

theorem misses_of_not_covers (covers : scope.covers r = false) {key : Text}
    (keyed : r.operation.key? = some key) {record : Record}
    (meets : record.meets { service := r.keyring.service, account := some key } = true) :
    scope.has record = false := by
  refine Bool.eq_false_iff.mpr fun has => Bool.eq_false_iff.mp covers ?_
  obtain ⟨serves, named⟩ := Record.meets_iff.mp meets
  obtain ⟨serves', named'⟩ := Record.meets_iff.mp has
  refine covers_iff.mpr ⟨Record.isText_unique serves serves', fun other there => ?_⟩
  rw [keyed, Record.isText_unique (named key rfl) (named' other there)]

end Scope

theorem Request.Asks.touches {r : Request} {c : Write} (asks : r.Asks c) :
    ∃ key, r.operation.key? = some key ∧ ∀ p : Record → Bool,
      (∀ record : Record,
        record.meets { service := r.keyring.service, account := some key } = true →
          p record = true) → c.Touches p := by
  cases asks with
  | add k item =>
    refine ⟨item.key, rfl, fun p holds => ⟨holds _ ?_, fun s same => holds s ?_⟩⟩
    · exact Record.meets_iff.mpr ⟨by simp [Keyring.recordOf, Record.isText],
        by simp [Keyring.recordOf, Record.isText]⟩
    · rwa [← Record.sameIdentity_recordOf]
  | update k item => exact ⟨item.key, rfl, fun p holds => holds⟩
  | delete k key => exact ⟨key, rfl, fun p holds => holds⟩

namespace Scope

variable {scope : Scope} {r : Request}

theorem touches_of_covers (covers : scope.covers r = true) {c : Write} (asks : r.Asks c) :
    c.Touches scope.has := by
  obtain ⟨key, keyed, touches⟩ := asks.touches
  exact touches _ (inside_of_covers covers rfl keyed.symm)

theorem touches_of_not_covers (covers : scope.covers r = false) {c : Write} (asks : r.Asks c) :
    c.Touches fun record => !scope.has record := by
  obtain ⟨key, keyed, touches⟩ := asks.touches
  refine touches _ fun record meets => ?_
  rw [misses_of_not_covers covers keyed meets]
  rfl

end Scope

namespace Table

variable {t t' : Table} {c : Write} {now : Moment} {p : Record → Bool}

/-- A predicate that looks at nothing that a change of a record changes. -/
def Steady (p : Record → Bool) : Prop :=
  (∀ (r : Record) (patch : Patch) (now : Moment), p (r.patched patch now) = p r) ∧
    ∀ (r : Record) (created modified : Option Moment),
      p { r with created, modified } = p r

theorem steady_has (scope : Scope) : Steady scope.has :=
  ⟨fun _ _ _ => rfl, fun _ _ _ => rfl⟩

theorem Steady.not (steady : Steady p) : Steady fun r => !p r :=
  ⟨fun r patch now => congrArg Bool.not (steady.1 r patch now),
    fun r created modified => congrArg Bool.not (steady.2 r created modified)⟩

theorem filter_update (steady : Steady p) (q : Query) (patch : Patch) (now : Moment) (t : Table) :
    (t.map fun r => if r.meets q then r.patched patch now else r).filter p =
      (t.filter p).map fun r => if r.meets q then r.patched patch now else r := by
  rw [List.filter_map]
  refine congrArg _ (List.filter_congr fun r _ => ?_)
  rw [Function.comp_apply]
  split
  · exact steady.1 r patch now
  · rfl

theorem filter_write (steady : Steady p) (touches : c.Touches fun r => !p r)
    (changed : t.write now c = .ok t') : t'.filter p = t.filter p := by
  cases c with
  | add r =>
    rw [write] at changed
    split at changed
    · cases changed
    · cases changed
      have misses : p r = false := by simpa using touches.1
      simp [List.filter_append, steady.2, misses]
  | update q patch =>
    rw [write] at changed
    split at changed
    · cases changed
      rw [filter_update steady]
      refine (List.map_congr_left fun r member => ?_).trans (List.map_id _)
      have kept : p r = true := (List.mem_filter.mp member).2
      have misses : r.meets q = false := by
        refine Bool.eq_false_iff.mpr fun meets => ?_
        simpa [kept] using touches r meets
      simp [misses]
    · cases changed
  | delete q =>
    rw [write] at changed
    split at changed
    · cases changed
      rw [List.filter_filter]
      refine List.filter_congr fun r _ => ?_
      cases meets : r.meets q with
      | false => simp
      | true => simpa using touches r meets
    · cases changed

theorem any_filter_of_implies {q : Record → Bool} (implies : ∀ r, q r = true → p r = true)
    (t : Table) : (t.filter p).any q = t.any q := by
  rw [List.any_filter]
  refine congrArg (List.any t) (funext fun r => ?_)
  cases there : q r with
  | false => simp
  | true => simp [implies r there]

theorem write_filter (steady : Steady p) (touches : c.Touches p) (t : Table) (now : Moment) :
    write now (t.filter p) c = (t.write now c).map (List.filter p) := by
  cases c with
  | add r =>
    have same : holds (t.filter p) r = t.holds r := any_filter_of_implies touches.2 t
    rw [write, write, same]
    split
    · rfl
    · simp [Except.map, List.filter_append, steady.2, touches.1]
  | update q patch =>
    rw [write, write, any_filter_of_implies touches]
    split
    · simp only [Except.map, filter_update steady]
    · rfl
  | delete q =>
    rw [write, write, any_filter_of_implies touches]
    split
    · simp only [Except.map, List.filter_filter, Bool.and_comm]
    · rfl

theorem query_filter {q : Query} (inside : ∀ r : Record, r.meets q = true → p r = true)
    (t : Table) : query (t.filter p) q = t.query q := by
  have same : found (t.filter p) q = t.found q := by
    rw [found, found, List.filter_filter]
    refine congrArg _ (List.filter_congr fun r _ => ?_)
    cases meets : r.meets q with
    | false => rfl
    | true => simp [inside r meets]
  rw [query, query, same]

end Table

namespace Keeper

/-- A keeper that keeps the records of which a predicate holds apart from the others, in fine
tables and under changes of some kind. -/
structure Parts (K : Keeper) (now : Moment) (fine : Table → Prop) (kind : Write → Prop)
    (p : Record → Bool) : Prop where
  room : ∀ t, fine t → K.holds t = true
  still : ∀ t, fine t → K.kept (t.filter p) = t.filter p
  kept : ∀ t c t', fine t → kind c → t.write now c = .ok t' → K.holds t' = true →
    fine (K.kept t') ∧ K.kept (t'.filter p) = (K.kept t').filter p

theorem parts_memory (now : Moment) (p : Record → Bool) :
    memory.Parts now (fun _ => True) (fun _ => True) p where
  room t _ := List.all_eq_true.mpr fun r _ => by cases r.policy <;> rfl
  still _ _ := rfl
  kept _ _ _ _ _ _ _ := ⟨trivial, rfl⟩

variable {K : Keeper} {now : Moment} {fine : Table → Prop} {kind : Write → Prop} {t : Table}
  {c : Write} {p : Record → Bool}

theorem holds_filter_write (room : K.holds t = true) (steady : Table.Steady p)
    (touches : c.Touches p) {t' : Table} (changed : t.write now c = .ok t') :
    K.holds (t'.filter p) = K.holds t' := by
  have others : t'.filter (fun r => !p r) = t.filter fun r => !p r :=
    Table.filter_write steady.not (by simpa using touches) changed
  rw [holds, holds, Bool.eq_iff_iff, List.all_eq_true, List.all_eq_true]
  constructor
  · intro fits r member
    cases touched : p r with
    | true => exact fits r (List.mem_filter.mpr ⟨member, touched⟩)
    | false =>
      have old : r ∈ t.filter fun r => !p r := by
        rw [← others]
        exact List.mem_filter.mpr ⟨member, by simp [touched]⟩
      exact List.all_eq_true.mp room r (List.mem_filter.mp old).1
  · exact fun fits r member => fits r (List.mem_filter.mp member).1

theorem write_filter (parts : K.Parts now fine kind p) (good : fine t) (steady : Table.Steady p)
    (new : kind c) (touches : c.Touches p) :
    ∃ response entries entries' u, (K.machine now).write t c = (response, entries, u) ∧
      (K.machine now).write (t.filter p) c = (response, entries', u.filter p) ∧ fine u := by
  have same := Table.write_filter steady touches t now
  cases changed : t.write now c with
  | error e =>
    rw [changed] at same
    exact ⟨_, _, _, t, write_error changed, write_error same, good⟩
  | ok t' =>
    rw [changed] at same
    have fits := holds_filter_write (parts.room t good) steady touches changed
    cases kept : K.holds t' with
    | true =>
      obtain ⟨still, part⟩ := parts.kept t c t' good new changed kept
      have there := write_kept same (fits.trans kept)
      rw [part] at there
      exact ⟨_, _, _, K.kept t', write_kept changed kept, there, still⟩
    | false =>
      exact ⟨_, _, _, t, write_refused changed kept, write_refused same (fits.trans kept), good⟩

theorem filter_write (parts : K.Parts now fine kind p) (good : fine t) (steady : Table.Steady p)
    (new : kind c) (touches : c.Touches fun r => !p r) :
    ∃ response entries u, (K.machine now).write t c = (response, entries, u) ∧
      u.filter p = t.filter p ∧ fine u := by
  cases changed : t.write now c with
  | error e => exact ⟨_, _, t, write_error changed, rfl, good⟩
  | ok t' =>
    cases kept : K.holds t' with
    | true =>
      obtain ⟨still, part⟩ := parts.kept t c t' good new changed kept
      refine ⟨_, _, K.kept t', write_kept changed kept, ?_, still⟩
      rw [← part, Table.filter_write steady touches changed, parts.still t good]
    | false => exact ⟨_, _, t, write_refused changed kept, rfl, good⟩

end Keeper

namespace Script

variable {α : Type} {K : Keeper} {now : Moment} {fine : Table → Prop} {kind : Write → Prop}
  {t : Table} {p : Record → Bool}

theorem course_filter (parts : K.Parts now fine kind p) (steady : Table.Steady p)
    {script : Script α}
    (seeks : script.Seeks fun q => ∀ r : Record, r.meets q = true → p r = true)
    (changes : script.ChangesOnce fun c => kind c ∧ c.Touches p) (good : fine t) :
    let whole := script.course (K.machine now) t
    let part := script.course (K.machine now) (t.filter p)
    part.1.result = whole.1.result ∧ part.2 = whole.2.filter p ∧ fine whole.2 := by
  induction script generalizing t with
  | done result => exact ⟨rfl, rfl, good⟩
  | log entry next ih => exact ih seeks changes good
  | query q next ih =>
    obtain ⟨inside, rest⟩ := seeks
    have same : (K.machine now).query (t.filter p) q = (.ok (t.query q), t.filter p) := by
      rw [← Table.query_filter inside t]
      rfl
    simp only [course, same]
    exact ih (t.query q) (rest _) (changes _) good
  | write c next ih =>
    obtain ⟨⟨new, touches⟩, last, others⟩ := changes
    obtain ⟨response, entries, entries', u, wrote, wrote', kept⟩ :=
      Keeper.write_filter parts good steady new touches
    simp only [course, wrote, wrote']
    rcases response with why | (e | _)
    · exact ⟨rfl, rfl, kept⟩
    · exact ih (.error e) (seeks _) (others e) kept
    · obtain ⟨result, ends⟩ := last (.ok ()) trivial
      obtain ⟨c, final, everywhere⟩ := course_of_ending ends
      simp only [everywhere]
      exact ⟨rfl, trivial, kept⟩

theorem filter_course (parts : K.Parts now fine kind p) (steady : Table.Steady p)
    {script : Script α}
    (changes : script.ChangesOnce fun c => kind c ∧ c.Touches fun r => !p r) (good : fine t) :
    let left := (script.course (K.machine now) t).2
    left.filter p = t.filter p ∧ fine left := by
  induction script generalizing t with
  | done result => exact ⟨rfl, good⟩
  | log entry next ih => exact ih changes good
  | query q next ih => exact ih (t.query q) (changes _) good
  | write c next ih =>
    obtain ⟨⟨new, touches⟩, last, others⟩ := changes
    obtain ⟨response, entries, u, wrote, same, kept⟩ :=
      Keeper.filter_write parts good steady new touches
    simp only [course, wrote]
    rcases response with why | (e | _)
    · exact ⟨same, kept⟩
    · obtain ⟨still, good⟩ := ih (.error e) (others e) kept
      exact ⟨still.trans same, good⟩
    · obtain ⟨result, ends⟩ := last (.ok ()) trivial
      obtain ⟨c, -, everywhere⟩ := course_of_ending ends
      simp only [everywhere]
      exact ⟨same, kept⟩

end Script

/-- A request in whose service and key JSON joins nothing. -/
def Request.Named (r : Request) : Prop :=
  r.keyring.service.Unpaired ∧ ∀ key ∈ r.operation.key?, key.Unpaired

def Record.Named (r : Record) : Prop :=
  r.service.joined = r.service ∧ r.account.joined = r.account

def Write.Named : Write → Prop
  | .add r => r.Named
  | _ => True

theorem Request.Asks.named {r : Request} {c : Write} (asks : r.Asks c) (named : r.Named) :
    c.Named := by
  cases asks with
  | add k item =>
    exact ⟨congrArg Json.str (Text.joined_of_unpaired named.1),
      congrArg Json.str (Text.joined_of_unpaired (named.2 item.key rfl))⟩
  | update k item => trivial
  | delete k key => trivial

theorem Scope.has_joined {r : Record} (named : r.Named) (scope : Scope) :
    scope.has r.joined = scope.has r := by
  rw [has, has, Record.meets, Record.meets, Record.joined, named.1, named.2]

namespace Table

variable {t t' : Table}

theorem named_write {c : Write} {now : Moment} (named : ∀ r ∈ t, r.Named) (new : c.Named)
    (changed : t.write now c = .ok t') : ∀ r ∈ t', r.Named := by
  cases c with
  | add r =>
    rw [write] at changed
    split at changed
    · cases changed
    · cases changed
      intro s member
      rcases List.mem_append.mp member with old | added
      · exact named s old
      · rw [List.mem_singleton.mp added]
        exact new
  | update q p =>
    rw [write] at changed
    split at changed
    · cases changed
      intro s member
      obtain ⟨r, old, rfl⟩ := List.mem_map.mp member
      split
      · exact named r old
      · exact named r old
    · cases changed
  | delete q =>
    rw [write] at changed
    split at changed
    · cases changed
      exact fun s member => named s (List.mem_filter.mp member).1
    · cases changed

theorem Storable.reread_eq_map (storable : t.Storable) (named : ∀ r ∈ t, r.Named) :
    t.reread = t.map Record.joined := by
  refine ofRecords_distinct (List.pairwise_map.mpr ?_)
  refine storable.distinct.imp_of_mem fun {r s} first second apart => ?_
  rw [← apart, Record.sameIdentity, Record.sameIdentity, Record.joined, Record.joined,
    (named r first).1, (named r first).2, (named s second).1, (named s second).2]

theorem Storable.lasting_reread (storable : t.Storable) (named : ∀ r ∈ t, r.Named) :
    t.reread.Lasting where
  toStorable := storable.reread
  joined := by
    rw [storable.reread_eq_map named]
    intro r' member
    obtain ⟨r, old, rfl⟩ := List.mem_map.mp member
    exact (storable.records r old).joined_joined

theorem Lasting.named (lasting : t.Lasting) : ∀ r ∈ t, r.Named :=
  fun r member => (Record.joined_eq_iff.mp (lasting.joined r member)).1

theorem Lasting.filter (lasting : t.Lasting) (p : Record → Bool) : Lasting (t.filter p) where
  toStorable := lasting.toStorable.filter p
  joined r member := lasting.joined r (List.mem_filter.mp member).1

end Table

theorem Keeper.parts_sealed (s : SealedFile) {clock : Int}
    (valid : (Moment.ofMicros clock).Valid) (scope : Scope) :
    (Keeper.sealed s).Parts (.ofMicros clock) Table.Lasting (fun c => c.Textual ∧ c.Named)
      scope.has where
  room t lasting := by
    refine List.all_eq_true.mpr fun r member => ?_
    have short := (lasting.records r member).flags
    cases policy : r.policy with
    | none => rfl
    | some p => exact short p policy
  still t lasting := (lasting.filter scope.has).reread_eq
  kept t c t' lasting kind changed room := by
    have storable : t'.Storable := lasting.toStorable.write
      (Table.wellTyped_kept kind.1 changed room) (Stamp.legible_ofMicros valid) changed
    have named := Table.named_write lasting.named kind.2 changed
    refine ⟨storable.lasting_reread named, ?_⟩
    change Table.reread (t'.filter scope.has) = t'.reread.filter scope.has
    rw [storable.reread_eq_map named, (storable.filter scope.has).reread_eq_map fun r member =>
      named r (List.mem_filter.mp member).1, List.filter_map]
    refine congrArg _ (List.filter_congr fun r member => ?_)
    exact (scope.has_joined (named r member)).symm

namespace Scope

variable {σ : Type} {scope : Scope}

def answers (scope : Scope) (perform : Int × Request → σ → Course Answer × σ)
    (steps : List (Int × Request)) (s : σ) : List (Except Crash Outcome) :=
  ((steps.zip (inTurn perform steps s).1).filter fun e => scope.covers e.1.2).map (·.2.result)

theorem answers_cons (scope : Scope) (perform : Int × Request → σ → Course Answer × σ)
    (step : Int × Request) (rest : List (Int × Request)) (s : σ) :
    scope.answers perform (step :: rest) s =
      if scope.covers step.2 then
        (perform step s).1.result :: scope.answers perform rest (perform step s).2
      else scope.answers perform rest (perform step s).2 := by
  simp only [answers, inTurn_cons, List.zip_cons_cons, List.filter_cons]
  split <;> rfl

theorem answers_kept {s : SealedFile} (lawful : s.cipher.Lawful) (scope : Scope)
    {steps : List (Int × Request)} (valid : ∀ step ∈ steps, (Moment.ofMicros step.1).Valid)
    {w : World} {t : Table} (keeps : s.Keeps w t) :
    scope.answers s.perform steps w = scope.answers (Keeper.sealed s).perform steps t := by
  rw [answers, answers, SealedFile.courses_kept lawful valid keeps]

/-- A keeper, and steps whose changes are of a kind, for which it keeps the scope apart. -/
def Suits (scope : Scope) (K : Keeper) (fine : Table → Prop) (kind : Write → Prop)
    (step : Int × Request) : Prop :=
  K.Parts (.ofMicros step.1) fine kind scope.has ∧ ∀ c, step.2.Asks c → kind c

variable {K : Keeper} {fine : Table → Prop} {kind : Write → Prop} {t : Table}

theorem perform_covered {step : Int × Request} (suits : scope.Suits K fine kind step)
    (covers : scope.covers step.2 = true) (good : fine t) :
    (K.perform step (t.filter scope.has)).1.result = (K.perform step t).1.result ∧
      (K.perform step (t.filter scope.has)).2 = (K.perform step t).2.filter scope.has ∧
      fine (K.perform step t).2 :=
  Script.course_filter suits.1 (Table.steady_has scope)
    (step.2.seeks.mono fun _ seeks => inside_of_covers covers seeks.service seeks.account)
    (step.2.changesOnce.mono fun c asks => ⟨suits.2 c asks, touches_of_covers covers asks⟩) good

theorem perform_other {step : Int × Request} (suits : scope.Suits K fine kind step)
    (covers : scope.covers step.2 = false) (good : fine t) :
    (K.perform step t).2.filter scope.has = t.filter scope.has ∧ fine (K.perform step t).2 :=
  Script.filter_course suits.1 (Table.steady_has scope)
    (step.2.changesOnce.mono fun c asks => ⟨suits.2 c asks, touches_of_not_covers covers asks⟩) good

theorem answers_alone {steps : List (Int × Request)}
    (suits : ∀ step ∈ steps, scope.Suits K fine kind step) (good : fine t) :
    scope.answers K.perform steps t =
      (inTurn K.perform (steps.filter fun step => scope.covers step.2)
        (t.filter scope.has)).1.map (·.result) := by
  induction steps generalizing t with
  | nil => rfl
  | cons step rest ih =>
    rw [List.forall_mem_cons] at suits
    rw [answers_cons, List.filter_cons]
    cases covers : scope.covers step.2 with
    | true =>
      obtain ⟨same, left, still⟩ := perform_covered suits.1 covers good
      rw [if_pos rfl, if_pos rfl, inTurn_cons, List.map_cons, same, left, ih suits.2 still]
    | false =>
      obtain ⟨left, still⟩ := perform_other suits.1 covers good
      rw [if_neg Bool.false_ne_true, if_neg Bool.false_ne_true, ih suits.2 still, left]

theorem answers_filter {steps : List (Int × Request)}
    (suits : ∀ step ∈ steps, scope.Suits K fine kind step) (good : fine [])
    {keep : Int × Request → Bool}
    (kept : ∀ step ∈ steps, scope.covers step.2 = true → keep step = true) :
    scope.answers K.perform (steps.filter keep) [] = scope.answers K.perform steps [] := by
  have same : (steps.filter keep).filter (fun step => scope.covers step.2) =
      steps.filter fun step => scope.covers step.2 := by
    rw [List.filter_filter]
    refine List.filter_congr fun step member => ?_
    cases covers : scope.covers step.2 with
    | true => simp [kept step member covers]
    | false => rfl
  rw [answers_alone (fun step member => suits step (List.mem_filter.mp member).1) good,
    answers_alone suits good, same]

end Scope

namespace SealedFile

variable {s : SealedFile} {files files' : FileTree} {w : World}

/-- A path that tells nothing of attempts to write. The directories that an attempt may leave
where no file can be written do not show, neither in what is read from the path nor in what the
next attempt meets, and a file that was written can be read. -/
structure Discreet (s : SealedFile) (files : FileTree) : Prop where
  failed : ∀ fault files', s.Barred files fault files' →
    s.load files' = .ok [] ∧ ∀ token, (s.place files' token).1 = .error fault
  written : ∀ token files', s.place files token = (.ok (), files') →
    files'.bars s.path .read = false

/-- A path where no file can be written, before an attempt and after it. -/
structure Closed (s : SealedFile) (fault : StoreFault) (files files' : FileTree) : Prop where
  loads : s.load files = .ok []
  placed : ∀ token, s.place files token = (.error fault, files')
  loads' : s.load files' = .ok []
  placed' : ∀ token, s.place files' token = (.error fault, files')

theorem Barred.shut {fault : StoreFault} (barred : s.Barred files fault files')
    (discreet : s.Discreet files) : s.Closed fault files files' := by
  obtain ⟨loads, failed⟩ := discreet.failed fault files' barred
  obtain ⟨fault', again⟩ := barred.again
  refine ⟨barred.load, barred.placed, loads, fun token => ?_⟩
  have same := failed token
  rw [again] at same ⊢
  cases same
  rfl

theorem serves_or_closed (loads : s.load files = .ok []) (discreet : s.Discreet files) :
    s.Serves files [] ∨ ∃ fault files', s.Closed fault files files' := by
  rcases s.place_cases files with room | ⟨fault, -, -, placed⟩
  · refine .inl ⟨loads, fun token => ?_⟩
    obtain ⟨files', placed⟩ := room token
    exact ⟨files', placed, (place_eq_ok placed).1 (discreet.written token files' placed)⟩
  · refine .inr ⟨fault, (files.makeDirectories s.path.parent).2, ?_⟩
    rcases there_of_load loads with absent | ⟨token, there⟩
    · exact Barred.shut ⟨absent, placed⟩ discreet
    · have made := FileTree.makeDirectories_there (FileTree.look_parent there)
      rw [made] at placed ⊢
      exact ⟨loads, placed, loads, placed⟩

theorem Serves.discreet {t : Table} (serves : s.Serves files t) : s.Discreet files where
  failed fault files' barred := by
    obtain ⟨above, room, -⟩ := serves.room []
    rw [barred.placed] at room
    cases room
  written token files' placed := by
    obtain ⟨above, room, keeps⟩ := serves.room token
    cases placed.symm.trans room
    exact keeps.readable

namespace Closed

variable {fault : StoreFault} {start : World}

structure Follows (start : World) (files' : FileTree) (w : World) : Prop where
  step : w.step = start.step
  files : w.files = start.files ∨ w.files = files'

variable (closed : s.Closed fault start.files files')

include closed

theorem load (follows : Follows start files' w) : s.load w.files = .ok [] := by
  rcases follows.files with same | same <;> rw [same]
  · exact closed.loads
  · exact closed.loads'

theorem place (follows : Follows start files' w) (token : Bytes) :
    s.place w.files token = (.error fault, files') := by
  rcases follows.files with same | same <;> rw [same]
  · exact closed.placed token
  · exact closed.placed' token

theorem matched (follows : Follows start files' w) : s.Matched start.files w.files := by
  rcases follows.files with same | same <;> rw [same]
  · exact .equal rfl
  · exact .shut (closed.loads'.trans closed.loads.symm) closed.placed closed.placed'

theorem write (follows : Follows start files' w) (c : Write) :
    Follows start files' (s.machine.write w c).2.2 := by
  refine ⟨(s.step_write w c).trans follows.step, ?_⟩
  have loads := closed.load follows
  cases changed : Table.write w.now [] c with
  | error e => simpa only [machine, SealedFile.write, loads, changed] using follows.files
  | ok t' =>
    obtain ⟨u, written, left⟩ := write_unplaced loads changed (closed.place follows)
    rw [written, left]
    split
    · exact .inr rfl
    · exact follows.files

theorem course {α : Type} (script : Script α) (follows : Follows start files' w) :
    Follows start files' (script.course s.machine w).2 := by
  induction script generalizing w with
  | done result => exact follows
  | log entry next ih => exact ih follows
  | query q next ih =>
    have left : Follows start files' (s.machine.query w q).2 := follows
    simp only [Script.course]
    generalize s.machine.query w q = asked at left
    rcases asked with ⟨why | answer, u⟩
    · exact left
    · exact ih answer left
  | write c next ih =>
    have left := closed.write follows c
    simp only [Script.course]
    generalize s.machine.write w c = asked at left
    rcases asked with ⟨why | answer, entries, u⟩
    · exact left
    · exact ih answer left

theorem answers (lawful : s.cipher.Lawful) (scope : Scope) (steps : List (Int × Request))
    {w : World} (follows : Follows start files' w) : scope.answers s.perform steps w =
      (steps.filter fun step => scope.covers step.2).map fun step =>
        (s.perform step start).1.result := by
  induction steps generalizing w with
  | nil => rfl
  | cons next rest ih =>
    have moved : Follows start files' { w with clock := next.1 } := ⟨follows.step, follows.files⟩
    have twins : s.Twins { start with clock := next.1 } { w with clock := next.1 } :=
      ⟨rfl, moved.step, closed.matched moved⟩
    obtain ⟨same, -⟩ := twins.course lawful next.2.script
    have left : Follows start files' (s.perform next w).2 := closed.course next.2.script moved
    rw [Scope.answers_cons, List.filter_cons, ih left]
    split
    · rw [List.map_cons]
      exact congrArg (fun c => Course.result c :: _) same.symm
    · rfl

end Closed

end SealedFile

/-- Whatever requests on other services and keys are left out: those on a service and
key, and those on a service, get what they get among all of them, in memory and in
a file that starts empty. In the file, no service and no key may hold the two halves of a
surrogate pair side by side, which JSON joins. And where no file can be written, an attempt
to write may leave directories behind, and these must not show. -/
theorem requests_are_independent :
    (∀ (scope : Scope) (steps : List (Int × Request)) (keep : Int × Request → Bool),
      (∀ step ∈ steps, scope.covers step.2 = true → keep step = true) →
      scope.answers Keeper.memory.perform (steps.filter keep) [] =
        scope.answers Keeper.memory.perform steps []) ∧
    ∀ s : SealedFile, s.cipher.Lawful → ∀ w : World, s.load w.files = .ok [] →
      s.Discreet w.files →
      ∀ (scope : Scope) (steps : List (Int × Request)) (keep : Int × Request → Bool),
      (∀ step ∈ steps, (Moment.ofMicros step.1).Valid) → (∀ step ∈ steps, step.2.Named) →
      (∀ step ∈ steps, scope.covers step.2 = true → keep step = true) →
      scope.answers s.perform (steps.filter keep) w = scope.answers s.perform steps w := by
  constructor
  · intro scope steps keep kept
    have suits : ∀ step ∈ steps,
        scope.Suits Keeper.memory (fun _ => True) (fun _ => True) step := fun step _ =>
      ⟨Keeper.parts_memory _ _, fun _ _ => trivial⟩
    exact Scope.answers_filter suits trivial kept
  intro s lawful w loads discreet scope steps keep valid named kept
  -- Either every write goes through, or none does and all answers are those of the start.
  rcases SealedFile.serves_or_closed loads discreet with serves | ⟨fault, files', closed⟩
  swap
  · rw [closed.answers lawful scope _ ⟨rfl, .inl rfl⟩,
      closed.answers lawful scope _ ⟨rfl, .inl rfl⟩, List.filter_filter]
    refine congrArg _ (List.filter_congr fun step member => ?_)
    cases covers : scope.covers step.2 with
    | true => simp [kept step member covers]
    | false => rfl
  have valid' : ∀ step ∈ steps.filter keep, (Moment.ofMicros step.1).Valid :=
    fun step member => valid step (List.mem_filter.mp member).1
  have keeps : s.Keeps w [] := ⟨serves, .empty⟩
  have suits : ∀ step ∈ steps, scope.Suits (Keeper.sealed s) Table.Lasting
      (fun c => c.Textual ∧ c.Named) step := fun step member =>
    ⟨Keeper.parts_sealed s (valid step member) scope, fun c asks =>
      ⟨asks.textual, asks.named (named step member)⟩⟩
  rw [Scope.answers_kept lawful scope valid' keeps, Scope.answers_kept lawful scope valid keeps,
    Scope.answers_filter suits .empty kept]

/-- A service named like the key of another, and its key like the other service. -/
theorem requests_are_independent_of_namesakes :
    let file : SealedFile := ⟨⟨"", ["d", "k.enc"]⟩, Token.cipher (List.replicate 32 0), .standard⟩
    let one : Keyring := { (default : Keyring) with service := "s" }
    let other : Keyring := { (default : Keyring) with service := "a" }
    let steps : List (Int × Request) :=
      [(1000000, ⟨other, .set { key := "s", data := [2] }⟩),
        (2000000, ⟨one, .set { key := "a", data := [1] }⟩),
        (3000000, ⟨other, .remove "s"⟩), (4000000, ⟨one, .get "a"⟩), (5000000, ⟨one, .keys⟩)]
    let item : Scope := ⟨"s", some "a"⟩
    let service : Scope := ⟨"s", none⟩
    item.answers Keeper.memory.perform
          (steps.filter fun step => item.covers step.2) [] =
        item.answers Keeper.memory.perform steps [] ∧
      service.answers file.perform
          (steps.filter fun step => service.covers step.2) {} =
        service.answers file.perform steps {} := by
  intro file one other steps item service
  obtain ⟨memory, sealed⟩ := requests_are_independent
  have free : FileTree.Free {} ⟨"", ["d", "k.enc"]⟩ :=
    ⟨by decide, by decide, by decide, FileTree.permits_of_denied rfl _⟩
  have serves : file.Serves {} [] := (SealedFile.Holds.nothing free).serves .empty
  have valid : ∀ step ∈ steps, (Moment.ofMicros step.1).Valid := by
    intro step member
    simp only [steps, List.mem_cons, List.not_mem_nil, or_false] at member
    rcases member with rfl | rfl | rfl | rfl | rfl <;>
      exact ⟨by decide, by decide, by rintro s ⟨⟩; rfl⟩
  have named : ∀ step ∈ steps, step.2.Named := by
    simp [steps, Request.Named, one, other, Operation.key?]
  exact ⟨memory item steps _ fun _ _ covers => covers,
    sealed file (Token.cipher_lawful _) {} serves.loads serves.discreet service steps _ valid named
      fun _ _ covers => covers⟩

theorem Keeper.perform_set_first (s : SealedFile) {k : Keyring}
    (flags : Json.isShort k.policy.flags.bits = true) (key : Text) (clock : Int) :
    ((Keeper.sealed s).perform (clock, ⟨k, .set { key }⟩) []).2 =
      [Record.joined { k.recordOf { key } with
        created := some (.ofMicros clock), modified := some (.ofMicros clock) }] := by
  have changed : Table.write (.ofMicros clock) [] (.add (k.recordOf { key })) =
      .ok [{ k.recordOf { key } with
        created := some (.ofMicros clock), modified := some (.ofMicros clock) }] := rfl
  have room : (Keeper.sealed s).holds [{ k.recordOf { key } with
      created := some (.ofMicros clock), modified := some (.ofMicros clock) }] = true := by
    simpa [Keeper.holds, Keeper.sealed, Keyring.recordOf] using flags
  have written := Keeper.write_kept changed room
  simp only [Keeper.perform, Request.script, Keyring.set, Keyring.debug, Script.mapResult,
    Script.course, written]
  rfl

/-- On a path through a directory that is missing, and back, setting another key makes the
directory, and the key that was missing is then behind a failure. And on any path a key that
is a surrogate pair is found under the character that it makes. -/
theorem requests_meddle :
    (let file : SealedFile := ⟨⟨"", ["x", ".."]⟩, Token.cipher (List.replicate 32 0), .standard⟩
      let k : Keyring := { (default : Keyring) with service := "s" }
      let steps : List (Int × Request) := [(0, ⟨k, .set { key := "b" }⟩), (0, ⟨k, .get "a"⟩)]
      let item : Scope := ⟨"s", some "a"⟩
      file.load {} = .ok [] ∧
        item.answers file.perform (steps.filter fun step => item.covers step.2) {} =
          [.ok (.error (.keyNotFound "s" "a"))] ∧
        item.answers file.perform steps {} = [.ok (.error (.store ⟨"get", "s", some "a",
          "cannot read x/..: [Errno 21] Is a directory: 'x/..'"⟩ .other))]) ∧
    (let file : SealedFile := ⟨⟨"", ["k.enc"]⟩, Token.cipher (List.replicate 32 0), .standard⟩
      let k : Keyring := { (default : Keyring) with service := "s" }
      let pair : Text := ⟨[.surrogate 0x3d, .surrogate 0x600]⟩
      let steps : List (Int × Request) := [(0, ⟨k, .set { key := pair }⟩), (0, ⟨k, .get "😀"⟩)]
      let item : Scope := ⟨"s", some "😀"⟩
      file.load {} = .ok [] ∧
        item.answers file.perform (steps.filter fun step => item.covers step.2) {} =
          [.ok (.error (.keyNotFound "s" "😀"))] ∧
        item.answers file.perform steps {} = [.ok (.ok (.item { key := "😀" }))]) := by
  refine ⟨⟨rfl, rfl, rfl⟩, ?_⟩
  intro file k pair steps item
  have free : FileTree.Free {} ⟨"", ["k.enc"]⟩ :=
    ⟨by decide, by decide, by decide, FileTree.permits_of_denied rfl _⟩
  have keeps : file.Keeps {} [] := ⟨(SealedFile.Holds.nothing free).serves .empty, .empty⟩
  have valid : ∀ step ∈ steps, (Moment.ofMicros step.1).Valid := by
    intro step member
    simp only [steps, List.mem_cons, List.not_mem_nil, or_false] at member
    rcases member with rfl | rfl <;> exact ⟨by decide, by decide, by rintro s ⟨⟩; rfl⟩
  refine ⟨rfl, rfl, ?_⟩
  have joined : Json.joined (.str pair) = .str "😀" :=
    congrArg Json.str (by decide +kernel : pair.joined = "😀")
  have set : ((Keeper.sealed file).perform (0, ⟨k, .set { key := pair }⟩) []).2 =
      [{ k.recordOf { key := "😀" } with
        created := some (.ofMicros 0), modified := some (.ofMicros 0) }] := by
    rw [Keeper.perform_set_first file (by decide) pair 0, Record.joined]
    simp only [Keyring.recordOf, joined]
    rfl
  rw [Scope.answers_kept (Token.cipher_lawful _) item valid keeps, Scope.answers_cons,
    Scope.answers_cons, set]
  rfl

end SecretStore
