import SecretStore.Proofs.Keyring.Changes
import SecretStore.Proofs.Keyring.Course

/-!
What the bytes of a secret can change. A secret is blanked when its bytes are
taken away, wherever they stand: in items, records, patches, answers and calls.
Blanking what goes into a kept table blanks what comes out of it and changes
nothing else, so two runs that differ in secrets alone look the same blanked.
-/

namespace SecretStore

def Item.blanked (item : Item) : Item :=
  { item with data := [] }

def Record.blanked (r : Record) : Record :=
  { r with data := [] }

def Patch.blanked (p : Patch) : Patch :=
  { p with data := p.data.map fun _ => [] }

def Write.blanked : Write → Write
  | .add r => .add r.blanked
  | .update q p => .update q p.blanked
  | .delete q => .delete q

def Request.blanked : Request → Request
  | ⟨k, .set item⟩ => ⟨k, .set item.blanked⟩
  | r => r

/-- Of all that operations give back, only an item holds a secret. -/
def Answer.blanked : Answer → Answer
  | .item i => .item i.blanked
  | answer => answer

/-- What the answer to a query shows of a record when secrets are blanked. Only
queries for data are answered with secrets. -/
def Query.veil (q : Query) (r : Record) : Record :=
  if q.data then r.blanked else r

def Call.blanked : Call → Call
  | .query q response => .query q (response.map (Except.map (List.map q.veil)))
  | .write c response => .write c.blanked response

def Course.blanked (c : Course Answer) : Course Answer :=
  ⟨c.result.map (Except.map Answer.blanked), c.entries, c.calls.map Call.blanked⟩

namespace Table

variable {t : Table} {now : Moment}

def blanked (t : Table) : Table :=
  t.map Record.blanked

theorem any_blanked (t : Table) (q : Query) :
    t.blanked.any (fun r => r.meets q) = t.any fun r => r.meets q := by
  rw [blanked, List.any_map]
  rfl

theorem holds_blanked (t : Table) (r : Record) : t.blanked.holds r.blanked = t.holds r := by
  rw [blanked, holds, List.any_map]
  rfl

theorem project_blanked (r : Record) (q : Query) : r.blanked.project q = q.veil (r.project q) := by
  unfold Record.project Query.veil
  cases q.data <;> cases q.attributes || q.reference <;> rfl

theorem found_blanked (t : Table) (q : Query) : t.blanked.found q = (t.found q).map q.veil := by
  have kept : t.blanked.filter (fun r => r.meets q) =
      (t.filter fun r => r.meets q).map Record.blanked := by
    rw [blanked, List.filter_map]
    rfl
  rw [found, kept, found, List.map_map, List.map_map]
  exact List.map_congr_left fun r _ => project_blanked r q

theorem query_blanked (t : Table) (q : Query) :
    t.blanked.query q = (t.query q).map (List.map q.veil) := by
  rw [query, query, found_blanked]
  cases t.found q with
  | nil => rfl
  | cons r rest => cases q.limit <;> rfl

theorem blanked_patched (r : Record) (p : Patch) (now : Moment) :
    (r.patched p now).blanked = r.blanked.patched p.blanked now := by
  cases data : p.data <;> simp [Record.blanked, Record.patched, Patch.blanked, data]

theorem write_blanked (t : Table) (now : Moment) (c : Write) :
    t.blanked.write now c.blanked = (t.write now c).map blanked := by
  cases c with
  | add r =>
    rw [Write.blanked, write, write, holds_blanked]
    split
    · rfl
    · simp [Except.map, blanked, Record.blanked]
  | update q p =>
    rw [Write.blanked, write, write, any_blanked]
    split
    · simp only [Except.map, blanked, List.map_map]
      refine congrArg _ (List.map_congr_left fun r _ => ?_)
      have still : r.blanked.meets q = r.meets q := rfl
      cases meets : r.meets q <;> simp [still, meets, blanked_patched]
    · rfl
  | delete q =>
    rw [Write.blanked, write, write, any_blanked]
    split
    · simp only [Except.map, blanked, List.filter_map]
      rfl
    · rfl

end Table

namespace Script

/-- A script, and what it becomes when the secrets in it are blanked: it asks for
the same, and goes on from veiled answers as the other does from the answers. -/
inductive Veils : Script Answer → Script Answer → Prop
  | done {result result' : Outcome} (same : result' = result.map Answer.blanked) :
      Veils (.done result) (.done result')
  | log {entry : LogEntry} {next next' : Script Answer} (rest : Veils next next') :
      Veils (.log entry next) (.log entry next')
  | query {q : Query} {next next' : Except NativeError (List Record) → Script Answer}
      (rest : ∀ answer, Veils (next answer) (next' (answer.map (List.map q.veil)))) :
      Veils (.query q next) (.query q next')
  | write {c : Write} {next next' : Except NativeError Unit → Script Answer}
      (rest : ∀ answer, Veils (next answer) (next' answer)) :
      Veils (.write c next) (.write c.blanked next')

theorem Veils.course_ended {script script' : Script Answer} (veils : script.Veils script')
    {result : Outcome} (ends : script.ending? = some result) {σ σ' : Type} (m : Machine σ)
    (m' : Machine σ') (s : σ) (s' : σ') :
    script'.course m' s' = ((script.course m s).1.blanked, s') ∧ (script.course m s).2 = s := by
  induction veils with
  | done same =>
    rw [same]
    exact ⟨rfl, rfl⟩
  | log rest ih =>
    obtain ⟨shown, still⟩ := ih ends
    simp only [course, shown]
    exact ⟨rfl, still⟩
  | query rest => cases ends
  | write rest => cases ends

end Script

/-- Two machines that answer alike but for secrets while no change is settled: they
stand as `before` says as long as they go on, and as `after` says in the end. -/
structure Machine.Lockstep {σ σ' : Type} (m : Machine σ) (m' : Machine σ') (kind : Write → Prop)
    (before after : σ → σ' → Prop) : Prop where
  rests : ∀ s s', before s s' → after s s'
  query : ∀ s s', before s s' → ∀ q, ∃ response t t', m.query s q = (response, t) ∧
    m'.query s' q = (response.map (Except.map (List.map q.veil)), t') ∧ before t t'
  write : ∀ s s', before s s' → ∀ c, kind c → ∃ response entries t t',
    m.write s c = (response, entries, t) ∧ m'.write s' c.blanked = (response, entries, t') ∧
      after t t' ∧ ∀ answer, response = .ok answer → ¬ Script.Settled answer → before t t'

namespace Script

theorem course_lockstep {σ σ' : Type} {m : Machine σ} {m' : Machine σ'} {kind : Write → Prop}
    {before after : σ → σ' → Prop} (lock : m.Lockstep m' kind before after)
    {script script' : Script Answer} (veils : script.Veils script')
    (changes : script.ChangesOnce kind) {s : σ} {s' : σ'} (related : before s s') :
    (script'.course m' s').1 = (script.course m s).1.blanked ∧
      after (script.course m s).2 (script'.course m' s').2 := by
  induction veils generalizing s s' with
  | done same =>
    rw [same]
    exact ⟨rfl, lock.rests s s' related⟩
  | log rest ih =>
    obtain ⟨same, ended⟩ := ih changes related
    refine ⟨?_, ended⟩
    simp only [course, same]
    rfl
  | @query q next next' rest ih =>
    obtain ⟨response, t, t', asked, asked', still⟩ := lock.query s s' related q
    simp only [course, asked, asked']
    rcases response with why | answer
    · exact ⟨rfl, lock.rests t t' still⟩
    · obtain ⟨same, ended⟩ := ih answer (changes answer) still
      exact ⟨congrArg (Course.after (.query q (.ok (answer.map (List.map q.veil))))) same, ended⟩
  | @write c next next' rest ih =>
    obtain ⟨response, entries, t, t', asked, asked', ended, still⟩ :=
      lock.write s s' related c changes.1
    simp only [course, asked, asked']
    rcases response with why | answer
    · exact ⟨rfl, ended⟩
    · -- A settled change is the last call, so the two stores need not agree behind it.
      by_cases settled : Settled answer
      · obtain ⟨result, ends⟩ := changes.2.1 answer settled
        obtain ⟨same, rests⟩ := (rest answer).course_ended ends m m' t t'
        simp only [same, rests]
        exact ⟨rfl, ended⟩
      · rcases answer with e | _
        · obtain ⟨same, ended⟩ := ih (.error e) (changes.2.2 e) (still _ rfl settled)
          refine ⟨?_, ended⟩
          simp only [same]
          rfl
        · exact absurd trivial settled

end Script

namespace Keyring

theorem itemOf_blanked (key : Text) (r : Record) :
    itemOf key r.blanked = (itemOf key r).map Item.blanked := by
  obtain ⟨service, account, label, description⟩ := r
  cases label <;> cases description <;> rfl

theorem veils_queryOne {α : Type} (k : Keyring) (operation : String) (key : Text) (q : Query)
    (next : Record → Except KeyringError α) (g : α → Answer)
    (hidden : ∀ r, (next (q.veil r)).map g = ((next r).map g).map Answer.blanked) :
    let script := (k.queryOne operation key q next).mapResult fun a => a.map g
    script.Veils script := by
  refine .query fun answer => ?_
  rcases answer with ⟨kind, message⟩ | (_ | ⟨r, rest⟩)
  · cases kind <;> exact .log (.done rfl)
  · exact .log (.done rfl)
  · exact .done (hidden r)

theorem veils_get (k : Keyring) (key : Text) :
    (Request.script ⟨k, .get key⟩).Veils (Request.script ⟨k, .get key⟩) := by
  refine .log (k.veils_queryOne "get" key (k.itemQuery key true false) (itemOf key) .item ?_)
  intro r
  rw [show (k.itemQuery key true false).veil r = r.blanked from rfl, itemOf_blanked]
  cases itemOf key r <;> rfl

theorem veils_metadata (k : Keyring) (key : Text) :
    (Request.script ⟨k, .metadata key⟩).Veils (Request.script ⟨k, .metadata key⟩) := by
  refine .log (k.veils_queryOne "get_metadata" key (k.itemQuery key false true) (metadataOf key)
    .metadata ?_)
  intro r
  rw [show (k.itemQuery key false true).veil r = r from rfl]
  cases metadataOf key r <;> rfl

theorem veils_set (k : Keyring) (item : Item) :
    (Request.script ⟨k, .set item⟩).Veils (Request.script ⟨k, .set item.blanked⟩) := by
  refine .log (.write fun answer => ?_)
  rcases answer with ⟨kind, message⟩ | _
  · cases kind with
    | notFound => exact .done rfl
    | other => exact .done rfl
    | duplicate =>
      refine .log (.query fun answer => ?_)
      rcases answer with ⟨kind, message⟩ | (_ | ⟨r, rest⟩)
      · cases kind
        · exact .log (.done rfl)
        · exact .done rfl
        · exact .done rfl
      · exact .log (.done rfl)
      · refine .write (c := .update (k.itemQuery item.key false false) { data := some item.data })
          fun answer => ?_
        rcases answer with ⟨kind, message⟩ | _
        · cases kind
          · exact .log (.done rfl)
          · exact .done rfl
          · exact .done rfl
        · exact .done rfl
  · exact .done rfl

theorem veils_remove (k : Keyring) (key : Text) :
    (Request.script ⟨k, .remove key⟩).Veils (Request.script ⟨k, .remove key⟩) := by
  refine .log (.write (c := .delete { service := k.service, account := some key }) fun answer => ?_)
  rcases answer with ⟨kind, message⟩ | _
  · cases kind <;> exact .done rfl
  · exact .done rfl

theorem veils_keys (k : Keyring) :
    (Request.script ⟨k, .keys⟩).Veils (Request.script ⟨k, .keys⟩) := by
  refine .log (.query fun answer => ?_)
  rcases answer with ⟨kind, message⟩ | records
  · cases kind
    · exact .log (.done rfl)
    · exact .done rfl
    · exact .done rfl
  · rw [show Except.map (List.map k.serviceQuery.veil) (.ok records) = .ok records from
      congrArg _ (List.map_id records)]
    exact .log (.done rfl)

end Keyring

theorem Request.veils (r : Request) : r.script.Veils r.blanked.script := by
  obtain ⟨k, operation⟩ := r
  cases operation with
  | get key => exact k.veils_get key
  | metadata key => exact k.veils_metadata key
  | set item => exact k.veils_set item
  | remove key => exact k.veils_remove key
  | keys => exact k.veils_keys

theorem Keyring.data_metadataOf {key : Text} {r : Record} {found : Metadata}
    (ok : metadataOf key r = .ok found) : found.item.data = [] := by
  obtain ⟨service, account, label, description⟩ := r
  revert ok
  cases label <;> cases description <;> rintro ⟨⟩
  rfl

theorem Keyring.script_metadata (k : Keyring) (key : Text) :
    ∃ entry next, Request.script ⟨k, .metadata key⟩ =
        .log entry (.query (k.itemQuery key false true) next) ∧
      (∀ answer, next (answer.map (List.map Record.blanked)) = next answer) ∧
      ∀ answer, ∃ result, (next answer).ending? = some result ∧
        ∀ found, result = .ok (.metadata found) → found.item.data = [] := by
  refine ⟨_, _, rfl, ?_, ?_⟩
  · rintro (⟨kind, message⟩ | (_ | ⟨r, rest⟩)) <;> rfl
  · rintro (⟨kind, message⟩ | (_ | ⟨r, rest⟩))
    · cases kind <;> exact ⟨_, rfl, nofun⟩
    · exact ⟨_, rfl, nofun⟩
    · refine ⟨_, rfl, fun found there => ?_⟩
      cases ok : metadataOf key r with
      | error e =>
        rw [ok] at there
        cases there
      | ok shown =>
        rw [ok] at there
        cases there
        exact data_metadataOf ok

theorem Keyring.course_metadata (k : Keyring) (key : Text) {σ σ' : Type} (m : Machine σ)
    (m' : Machine σ') (s : σ) (s' : σ')
    (alike : (m.query s (k.itemQuery key false true)).1.map (Except.map (List.map Record.blanked)) =
      (m'.query s' (k.itemQuery key false true)).1.map (Except.map (List.map Record.blanked))) :
    let c := ((Request.script ⟨k, .metadata key⟩).course m s).1
    let c' := ((Request.script ⟨k, .metadata key⟩).course m' s').1
    c.result = c'.result ∧ c.entries = c'.entries ∧
      ∀ found, c.result = .ok (.ok (.metadata found)) → found.item.data = [] := by
  obtain ⟨entry, next, shape, blind, ends⟩ := k.script_metadata key
  rw [shape]
  simp only [Script.course]
  generalize m.query s (k.itemQuery key false true) = response at alike ⊢
  generalize m'.query s' (k.itemQuery key false true) = response' at alike ⊢
  rcases response with ⟨why | answer, t⟩ <;> rcases response' with ⟨why' | answer', t'⟩
  · cases alike
    exact ⟨rfl, rfl, by rintro found ⟨⟩⟩
  · cases alike
  · cases alike
  · have same : next answer = next answer' := by
      rw [← blind answer, Except.ok.inj alike, blind]
    obtain ⟨result, ending, empty⟩ := ends answer'
    obtain ⟨c, final, everywhere⟩ := Script.course_of_ending ending
    simp only [same, everywhere]
    refine ⟨rfl, rfl, fun found there => empty found ?_⟩
    exact Except.ok.inj (final.symm.trans there)

end SecretStore
