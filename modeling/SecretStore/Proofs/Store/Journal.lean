import SecretStore.Proofs.Store.Sealed
import SecretStore.Proofs.Vault

/-!
What a table in memory tells of the changes that were made to it. Beside the table stands
a journal of them, the latest first. Each addition and each update reads the clock once,
so the number of a reading says which change it belongs to: a record is dated by its
latest addition and by its latest addition or update, and the records stand in the order
of their latest additions. That a change keeps this is proved for each kind of change.
-/

namespace SecretStore

def Place.query (p : Place) : Query :=
  { service := p.service, account := some p.key, attributes := true, data := true }

def Query.reaches (q : Query) (p : Place) : Bool :=
  p.service == q.service && q.account.all fun account => p.key == account

structure Record.StandsAt (r : Record) (p : Place) : Prop where
  service : r.service = .str p.service
  account : r.account = .str p.key

namespace Record.StandsAt

variable {r s : Record} {p p' : Place}

theorem meets (stands : r.StandsAt p) (q : Query) : r.meets q = q.reaches p := by
  rw [Record.meets, stands.service, stands.account]
  rfl

theorem meets_query_iff (stands : r.StandsAt p) : r.meets p'.query = true ↔ p = p' := by
  rw [stands.meets, Query.reaches, Place.query, Option.all_some, Bool.and_eq_true, beq_iff_eq,
    beq_iff_eq, Place.ext_iff]

theorem unique (stands : r.StandsAt p) (other : s.StandsAt p') (service : r.service = s.service)
    (account : r.account = s.account) : p = p' := by
  rw [stands.service, other.service] at service
  rw [stands.account, other.account] at account
  exact Place.ext (Json.str.inj service) (Json.str.inj account)

end Record.StandsAt

namespace Write

def adds (p : Place) : Write → Bool
  | .add r => r.meets p.query
  | .update _ _ | .delete _ => false

def dates (p : Place) : Write → Bool
  | .add r => r.meets p.query
  | .update q _ => q.reaches p
  | .delete _ => false

end Write

/-- The changes that were made to a table, the latest first. -/
abbrev Journal := List Write

namespace Journal

variable {j : Journal} {c : Write} {p : Place}

def readings (j : Journal) : Nat :=
  j.countP Write.isStamped

/-- The number of the reading at the latest addition of the record of a place. -/
def added? (p : Place) : Journal → Option Nat
  | [] => none
  | c :: past => if c.adds p then some (readings past) else added? p past

/-- The number of the reading at its latest addition or update. -/
def dated? (p : Place) : Journal → Option Nat
  | [] => none
  | c :: past => if c.dates p then some (readings past) else dated? p past

theorem readings_stamped (j : Journal) (stamped : c.isStamped = true) :
    readings (c :: j) = readings j + 1 :=
  List.countP_cons_of_pos stamped

theorem readings_le (j : Journal) (c : Write) : readings j ≤ readings (c :: j) := by
  rw [readings, readings, List.countP_cons]
  exact Nat.le_add_right ..

theorem added?_skip (j : Journal) (other : c.adds p = false) :
    added? p (c :: j) = added? p j := by
  rw [added?, other, if_neg Bool.false_ne_true]

theorem dated?_skip (j : Journal) (other : c.dates p = false) :
    dated? p (c :: j) = dated? p j := by
  rw [dated?, other, if_neg Bool.false_ne_true]

def Before (j : Journal) (r s : Record) : Prop :=
  ∃ p p' i n, r.StandsAt p ∧ s.StandsAt p' ∧ j.added? p = some i ∧ j.added? p' = some n ∧ i < n

theorem Before.apart {r s : Record} (before : j.Before r s) :
    (r.service, r.account) ≠ (s.service, s.account) := by
  obtain ⟨p, p', i, n, stands, other, added, added', less⟩ := before
  intro same
  obtain ⟨service, account⟩ := Prod.mk.inj same
  cases stands.unique other service account
  cases added.symm.trans added'
  exact Nat.lt_irrefl _ less

theorem Before.skip {r s : Record} (before : j.Before r s)
    (first : ∀ p, r.StandsAt p → c.adds p = false)
    (second : ∀ p, s.StandsAt p → c.adds p = false) : Before (c :: j) r s := by
  obtain ⟨p, p', i, n, stands, other, added, added', less⟩ := before
  exact ⟨p, p', i, n, stands, other, (added?_skip j (first p stands)).trans added,
    (added?_skip j (second p' other)).trans added', less⟩

end Journal

/-- A record at its place, dated by the readings of the clock that belong to it. -/
structure Record.Told (clock : Nat → Moment) (j : Journal) (r : Record) (p : Place) (i n : Nat) :
    Prop where
  stands : r.StandsAt p
  added : j.added? p = some i
  dated : j.dated? p = some n
  created : r.created = some (clock i)
  modified : r.modified = some (clock n)
  order : i ≤ n
  past : n < j.readings

theorem Record.Told.skip {clock : Nat → Moment} {j : Journal} {c : Write} {r : Record} {p : Place}
    {i n : Nat} (told : r.Told clock j p i n) (adds : c.adds p = false)
    (dates : c.dates p = false) :
    r.Told clock (c :: j) p i n where
  stands := told.stands
  added := (Journal.added?_skip j adds).trans told.added
  dated := (Journal.dated?_skip j dates).trans told.dated
  created := told.created
  modified := told.modified
  order := told.order
  past := Nat.lt_of_lt_of_le told.past (Journal.readings_le j c)

structure Memory where
  journal : Journal := []
  table : Table := []

namespace Memory

variable {clock : Nat → Moment} {m : Memory} {j : Journal} {t t' : Table} {c : Write}

def perform (clock : Nat → Moment) (m : Memory) : Verb → Memory
  | .query _ => m
  | .write c => match (Table.store (clock m.journal.readings)).write m.table c with
    | (.ok (), t) => ⟨c :: m.journal, t⟩
    | (.error _, t) => ⟨m.journal, t⟩

def run (clock : Nat → Moment) (verbs : List Verb) : Memory :=
  verbs.foldl (perform clock) {}

/-- Every record is dated as the journal tells, and they stand in the order of their
additions. -/
structure Sound (clock : Nat → Moment) (j : Journal) (t : Table) : Prop where
  told : ∀ r ∈ t, ∃ p i n, r.Told clock j p i n
  ordered : t.Pairwise j.Before

theorem Sound.filter_place (sound : Sound clock j t) {r : Record} (member : r ∈ t) {p : Place}
    (stands : r.StandsAt p) : (t.filter fun s => s.meets p.query) = [r] := by
  obtain ⟨before, after, rfl⟩ := List.append_of_mem member
  obtain ⟨-, behind, across⟩ := List.pairwise_append.mp sound.ordered
  have elsewhere {s : Record} (there : s ∈ before ++ r :: after)
      (apart : (s.service, s.account) ≠ (r.service, r.account)) : ¬ s.meets p.query = true := by
    obtain ⟨p', i, n, told⟩ := sound.told s there
    intro meets
    cases told.stands.meets_query_iff.mp meets
    exact apart (by rw [told.stands.service, told.stands.account, stands.service, stands.account])
  have first : (before.filter fun s => s.meets p.query) = [] :=
    List.filter_eq_nil_iff.mpr fun s there =>
      elsewhere (List.mem_append_left _ there) (across s there r (List.mem_cons_self ..)).apart
  have last : (after.filter fun s => s.meets p.query) = [] :=
    List.filter_eq_nil_iff.mpr fun s there =>
      elsewhere (List.mem_append_right _ (List.mem_cons_of_mem _ there))
        (List.rel_of_pairwise_cons behind there).apart.symm
  rw [List.filter_append, List.filter_cons, if_pos (stands.meets_query_iff.mpr rfl), first, last]
  rfl

theorem Sound.add (sound : Sound clock j t) {r : Record} {p : Place} (stands : r.StandsAt p)
    (absent : t.holds r = false) : Sound clock (.add r :: j)
      (t ++ [{ r with
        created := some (clock j.readings), modified := some (clock j.readings) }]) := by
  have own : r.meets p.query = true := stands.meets_query_iff.mpr rfl
  have elsewhere {s : Record} (there : s ∈ t) {p' : Place} (other : s.StandsAt p') :
      r.meets p'.query = false := by
    refine Bool.eq_false_iff.mpr fun meets => List.any_eq_false.mp absent s there ?_
    cases stands.meets_query_iff.mp meets
    rw [Record.sameIdentity, stands.service, stands.account, Record.sameKey_text,
      Record.sameKey_text, other.service, other.account, Record.isText, Record.isText,
      beq_self_eq_true, beq_self_eq_true]
    rfl
  have new : ({ r with created := some (clock j.readings), modified := some (clock j.readings) } :
      Record).Told clock (.add r :: j) p j.readings j.readings := by
    refine ⟨⟨stands.service, stands.account⟩, if_pos own, if_pos own, rfl, rfl, le_rfl, ?_⟩
    rw [Journal.readings_stamped j rfl]
    exact Nat.lt_succ_self _
  refine ⟨List.forall_mem_append.mpr ⟨fun s there => ?_, List.forall_mem_singleton.mpr
    ⟨p, _, _, new⟩⟩, List.pairwise_append.mpr ⟨?_, List.pairwise_singleton _ _,
    fun s there s' last => ?_⟩⟩
  · obtain ⟨p', i, n, told⟩ := sound.told s there
    exact ⟨p', i, n, told.skip (elsewhere there told.stands) (elsewhere there told.stands)⟩
  · exact sound.ordered.imp_of_mem fun {a b} first second before =>
      before.skip (fun _ => elsewhere first) (fun _ => elsewhere second)
  · rw [List.mem_singleton.mp last]
    obtain ⟨p', i, n, told⟩ := sound.told s there
    exact ⟨p', p, i, _, told.stands, new.stands,
      (Journal.added?_skip (c := .add r) j (elsewhere there told.stands)).trans told.added,
      new.added, Nat.lt_of_le_of_lt told.order told.past⟩

theorem Sound.update (sound : Sound clock j t) (q : Query) (patch : Patch) :
    Sound clock (.update q patch :: j)
      (t.map fun r => if r.meets q then r.patched patch (clock j.readings) else r) := by
  refine ⟨List.forall_mem_map.mpr fun r there => ?_, List.pairwise_map.mpr
    (sound.ordered.imp fun {r s} before => ?_)⟩
  · obtain ⟨p, i, n, told⟩ := sound.told r there
    rw [told.stands.meets]
    cases reached : q.reaches p with
    | true =>
      refine ⟨p, i, j.readings, ⟨told.stands.service, told.stands.account⟩,
        (Journal.added?_skip j rfl).trans told.added, if_pos reached, told.created, rfl,
        Nat.le_trans told.order (Nat.le_of_lt told.past), ?_⟩
      rw [Journal.readings_stamped j rfl]
      exact Nat.lt_succ_self _
    | false => exact ⟨p, i, n, told.skip rfl reached⟩
  · obtain ⟨p, p', i, n, stands, other, added, added', less⟩ :=
      before.skip (c := .update q patch) (fun _ _ => rfl) (fun _ _ => rfl)
    have still {r : Record} {p : Place} (stands : r.StandsAt p) :
        (if r.meets q then r.patched patch (clock j.readings) else r).StandsAt p := by
      split
      · exact ⟨stands.service, stands.account⟩
      · exact stands
    exact ⟨p, p', i, n, still stands, still other, added, added', less⟩

theorem Sound.delete (sound : Sound clock j t) (q : Query) :
    Sound clock (.delete q :: j) (t.filter fun r => !r.meets q) := by
  refine ⟨fun r there => ?_, ?_⟩
  · obtain ⟨p, i, n, told⟩ := sound.told r (List.mem_filter.mp there).1
    exact ⟨p, i, n, told.skip rfl rfl⟩
  · exact (sound.ordered.filter _).imp fun before => before.skip (fun _ _ => rfl) fun _ _ => rfl

theorem Sound.change (sound : Sound clock j t) (placed : ∀ r, c = .add r → ∃ p, r.StandsAt p)
    (changed : t.write (clock j.readings) c = .ok t') : Sound clock (c :: j) t' := by
  cases c with
  | add r =>
    obtain ⟨p, stands⟩ := placed r rfl
    rw [Table.write] at changed
    split at changed
    · cases changed
    · next absent =>
      cases changed
      exact sound.add stands (Bool.eq_false_iff.mpr absent)
  | update q patch =>
    rw [Table.write] at changed
    split at changed
    · cases changed
      exact sound.update q patch
    · cases changed
  | delete q =>
    rw [Table.write] at changed
    split at changed
    · cases changed
      exact sound.delete q
    · cases changed

theorem Sound.perform (sound : Sound clock m.journal m.table) {verb : Verb}
    (placed : ∀ r, verb = .write (.add r) → ∃ p, r.StandsAt p) :
    Sound clock (m.perform clock verb).journal (m.perform clock verb).table := by
  cases verb with
  | query q => exact sound
  | write c =>
    rw [Memory.perform]
    cases changed : m.table.write (clock m.journal.readings) c with
    | error e =>
      rw [Table.store_write_error changed]
      exact sound
    | ok t =>
      rw [Table.store_write_ok changed]
      exact sound.change (fun r same => placed r (congrArg Verb.write same)) changed

theorem sound_run {verbs : List Verb}
    (placed : ∀ r, .write (.add r) ∈ verbs → ∃ p : Place, r.StandsAt p) :
    Sound clock (run clock verbs).journal (run clock verbs).table := by
  have folded (m : Memory) (sound : Sound clock m.journal m.table) :
      Sound clock (verbs.foldl (Memory.perform clock) m).journal
        (verbs.foldl (Memory.perform clock) m).table := by
    induction verbs generalizing m with
    | nil => exact sound
    | cons verb rest ih =>
      refine ih (fun r member => placed r (List.mem_cons_of_mem _ member)) _ (sound.perform ?_)
      rintro r rfl
      exact placed r (List.mem_cons_self ..)
  exact folded {} ⟨nofun, .nil⟩

end Memory

def Record.NotAfter (r s : Record) : Prop :=
  ∃ x y, r.created = some x ∧ s.created = some y ∧ x.toMicros ≤ y.toMicros

theorem Memory.Sound.notAfter {clock : Nat → Moment} {j : Journal} {t : Table}
    (sound : Sound clock j t) (onward : ∀ i n, i ≤ n → (clock i).toMicros ≤ (clock n).toMicros)
    {r s : Record} (first : r ∈ t) (second : s ∈ t) (before : j.Before r s) : r.NotAfter s := by
  obtain ⟨p, p', i, n, stands, other, added, added', less⟩ := before
  obtain ⟨q, _, _, told⟩ := sound.told r first
  obtain ⟨q', _, _, told'⟩ := sound.told s second
  cases stands.unique told.stands rfl rfl
  cases other.unique told'.stands rfl rfl
  cases added.symm.trans told.added
  cases added'.symm.trans told'.added
  exact ⟨_, _, told.created, told'.created, onward i n (Nat.le_of_lt less)⟩

theorem Table.query_matching {t : Table} {q : Query} {r : Record} {rest : List Record}
    (matching : (t.filter fun s => s.meets q) = r :: rest) :
    t.query { q with limit := .all } = .ok ((r :: rest).map fun s => s.project q) ∧
      t.query { q with limit := .one } = .ok [r.project q] := by
  have found (limit : MatchLimit) :
      t.found { q with limit } = (r :: rest).map fun s => s.project q :=
    congrArg (List.map fun s : Record => s.project q) matching
  rw [query, query, found, found]
  exact ⟨rfl, rfl⟩

/-- Whatever is asked of a table in memory that starts empty, by a clock that never goes
back: there is one record at a place, which a query for the place finds. It was created at
the reading of its latest addition and modified at that of its latest addition or update,
which is no earlier, nor later than the latest reading. A query gives the records that it
matches in the order of their latest additions, hence of their dates, or the first of them. -/
theorem memories_tell_histories {clock : Nat → Moment}
    (onward : ∀ i n, i ≤ n → (clock i).toMicros ≤ (clock n).toMicros) {verbs : List Verb}
    (placed : ∀ r, .write (.add r) ∈ verbs → ∃ p : Place, r.StandsAt p) :
    let m := Memory.run clock verbs
    (m.table.map fun r => (r.service, r.account)).Nodup ∧
    (∀ r ∈ m.table, ∃ p : Place, r.StandsAt p ∧ m.table.query p.query = .ok [r] ∧
      ∃ i n, m.journal.added? p = some i ∧ m.journal.dated? p = some n ∧
        r.created = some (clock i) ∧ r.modified = some (clock n) ∧
        (clock i).toMicros ≤ (clock n).toMicros ∧ n < m.journal.readings ∧
        (clock n).toMicros ≤ (clock (m.journal.readings - 1)).toMicros) ∧
    ∀ q : Query, let matching := m.table.filter fun r => r.meets q
      matching.Pairwise m.journal.Before ∧ matching.Pairwise Record.NotAfter ∧
      (matching = [] → m.table.query q = .error (Table.notFound q)) ∧
      ∀ r rest, matching = r :: rest →
        m.table.query { q with limit := .all } = .ok (matching.map fun s => s.project q) ∧
        m.table.query { q with limit := .one } = .ok [r.project q] := by
  intro m
  have sound : Memory.Sound clock m.journal m.table := Memory.sound_run placed
  refine ⟨?_, fun r member => ?_, fun q => ?_⟩
  · exact List.pairwise_map.mpr (sound.ordered.imp Journal.Before.apart)
  · obtain ⟨p, i, n, told⟩ := sound.told r member
    refine ⟨p, told.stands, ?_, i, n, told.added, told.dated, told.created, told.modified,
      onward i n told.order, told.past, onward n _ (Nat.le_sub_one_of_lt told.past)⟩
    exact (Table.query_matching (q := p.query) (sound.filter_place member told.stands)).2
  · intro matching
    have ordered : matching.Pairwise m.journal.Before := sound.ordered.filter _
    refine ⟨ordered, ordered.imp_of_mem fun {r s} first second before => ?_, fun unmatched => ?_,
      fun r rest matched => ?_⟩
    · exact sound.notAfter onward (List.mem_filter.mp first).1 (List.mem_filter.mp second).1 before
    · rw [Table.query, Table.found, show (m.table.filter fun r => r.meets q) = [] from unmatched]
      rfl
    · rw [matched]
      exact Table.query_matching matched

/-- Of two records the one that was added again stands behind the other, which was updated
last; an addition over it failed and left no trace. -/
theorem memories_tell_histories_readded :
    let clock (n : Nat) : Moment := ⟨⟨1970, 1, 1⟩, ⟨0, 0, 0, min n 999999⟩, some .zero⟩
    let record (key : Text) : Record :=
      { service := .str "s", account := .str key, created := some (clock 9) }
    let verbs : List Verb := [.write (.add (record "a")), .write (.add (record "b")),
      .write (.add (record "a")), .write (.delete { service := "s", account := some "a" }),
      .write (.add (record "a")),
      .write (.update { service := "s", account := some "b" } { label := some "" })]
    (∀ i n, i ≤ n → (clock i).toMicros ≤ (clock n).toMicros) ∧
    (∀ r, .write (.add r) ∈ verbs → ∃ p : Place, r.StandsAt p) ∧
    ∃ a b, (Memory.run clock verbs).table = [b, a] ∧ a.account = .str "a" ∧
      a.created = some (clock 2) ∧ a.modified = some (clock 2) ∧
      b.created = some (clock 1) ∧ b.modified = some (clock 3) ∧ b.NotAfter a ∧
      (Memory.run clock verbs).table.query { service := "s", data := true } =
        .ok [b.project { service := "s", data := true }] := by
  intro clock record verbs
  have onward : ∀ i n, i ≤ n → (clock i).toMicros ≤ (clock n).toMicros := by
    intro i n le
    simp only [clock, Moment.toMicros, Clock.toMicros]
    omega
  have placed : ∀ r, .write (.add r) ∈ verbs → ∃ p : Place, r.StandsAt p := by
    intro r member
    simp only [verbs, List.mem_cons, List.not_mem_nil, Verb.write.injEq, Write.add.injEq,
      reduceCtorEq, or_false, false_or] at member
    rcases member with rfl | rfl | rfl | rfl <;> exact ⟨⟨"s", _⟩, rfl, rfl⟩
  obtain ⟨-, -, queries⟩ := memories_tell_histories onward placed
  obtain ⟨-, dates, -, answers⟩ := queries { service := "s", data := true }
  refine ⟨onward, placed, _, _, rfl, rfl, rfl, rfl, rfl, rfl, ?_, (answers _ _ rfl).2⟩
  exact List.rel_of_pairwise_cons dates (List.mem_singleton_self _)

end SecretStore
