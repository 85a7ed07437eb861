import Mathlib.Data.List.Forall2
import SecretStore.Table

/-!
Updates one after the other. A patch says nothing of what a query looks at, so a second
update finds the records of the first, and the two come to one update whose patch is the
second laid over the first. A field is left alone by a patch that has no value for it; an
empty value is one.
-/

namespace SecretStore

namespace Patch

/-- A patch laid over another, which counts where the upper one has no value. -/
def laidOver (upper lower : Patch) : Patch where
  data := upper.data.or lower.data
  label := upper.label.or lower.label
  description := upper.description.or lower.description
  policy := upper.policy.or lower.policy

def settled {α β : Type} (put : α → β) (old : β) (first second : Option α) : β :=
  match first, second with
  | _, some value => put value
  | some value, none => put value
  | none, none => old

section

variable {α β : Type} (put : α → β) (first second : Option α)

theorem getD_settled (old : α) : (second.or first).getD old = settled id old first second := by
  cases first <;> cases second <;> rfl

theorem map_settled (old : β) :
    ((second.or first).map put).getD old = settled put old first second := by
  cases first <;> cases second <;> rfl

theorem or_settled (old : Option α) :
    (second.or first).or old = settled some old first second := by
  cases first <;> cases second <;> rfl

end

end Patch

namespace Record

theorem patched_patched (r : Record) (p₁ p₂ : Patch) (first second : Moment) :
    (r.patched p₁ first).patched p₂ second = r.patched (p₂.laidOver p₁) second := by
  simp only [patched, Patch.laidOver, Option.getD_or, Option.map_or, Option.or_assoc]

def updated (q : Query) (p : Patch) (now : Moment) (r : Record) : Record :=
  if r.meets q then r.patched p now else r

theorem meets_updated (r : Record) (q q' : Query) (p : Patch) (now : Moment) :
    (r.updated q p now).meets q' = r.meets q' := by
  unfold updated
  split
  · exact r.meets_patched p now q'
  · rfl

theorem updated_updated (r : Record) (q : Query) (p₁ p₂ : Patch) (first second : Moment) :
    (r.updated q p₁ first).updated q p₂ second = r.updated q (p₂.laidOver p₁) second := by
  rw [updated, meets_updated]
  cases meets : r.meets q with
  | true => simp only [updated, meets, if_true, patched_patched]
  | false => simp only [updated, meets, Bool.false_eq_true, if_false]

/-- What a record holds after two patches, the second at the given time. -/
structure Settled (p₁ p₂ : Patch) (now : Moment) (r r' : Record) : Prop where
  data : r'.data = Patch.settled id r.data p₁.data p₂.data
  label : r'.label = Patch.settled Json.str r.label p₁.label p₂.label
  description : r'.description =
    Patch.settled Json.str r.description p₁.description p₂.description
  policy : r'.policy = Patch.settled some r.policy p₁.policy p₂.policy
  modified : r'.modified = some now

theorem settled_patched (r : Record) (p₁ p₂ : Patch) (now : Moment) :
    r.Settled p₁ p₂ now (r.patched (p₂.laidOver p₁) now) where
  data := Patch.getD_settled p₁.data p₂.data r.data
  label := Patch.map_settled Json.str p₁.label p₂.label r.label
  description := Patch.map_settled Json.str p₁.description p₂.description r.description
  policy := Patch.or_settled p₁.policy p₂.policy r.policy
  modified := rfl

structure Overlaid (q : Query) (p₁ p₂ : Patch) (now : Moment) (r r' : Record) : Prop where
  unmatched : r.meets q = false → r' = r
  matched : r.meets q = true → r.Settled p₁ p₂ now r'
  service : r'.service = r.service
  account : r'.account = r.account
  synchronizable : r'.synchronizable = r.synchronizable
  created : r'.created = r.created

theorem overlaid_updated (r : Record) (q : Query) (p₁ p₂ : Patch) (now : Moment) :
    r.Overlaid q p₁ p₂ now (r.updated q (p₂.laidOver p₁) now) := by
  rw [updated]
  split
  · next meets =>
    refine ⟨fun unmatched => ?_, fun _ => r.settled_patched p₁ p₂ now, rfl, rfl, rfl, rfl⟩
    cases meets.symm.trans unmatched
  · next unmatched =>
    exact ⟨fun _ => rfl, fun meets => absurd meets unmatched, rfl, rfl, rfl, rfl⟩

end Record

namespace Table

variable {t : Table} {q : Query}

theorem write_update (there : t.any (fun r => r.meets q) = true) (p : Patch) (now : Moment) :
    t.write now (.update q p) = .ok (t.map (Record.updated q p now)) := by
  rw [write, if_pos there]
  rfl

theorem any_updated (t : Table) (q q' : Query) (p : Patch) (now : Moment) :
    (t.map (Record.updated q p now)).any (fun r => r.meets q') = t.any fun r => r.meets q' := by
  rw [List.any_map]
  exact congrArg t.any (funext fun r => r.meets_updated q q' p now)

end Table

/-- Two updates of a query that matches some record leave the table that one update leaves
at the time of the second, whose patch is the second laid over the first. The records that
do not match stay as they are, each record keeps its place, its identity, its marker and
its first date, and those that match keep what neither patch has a value for. -/
theorem updates_overlay {t : Table} {q : Query} (there : ∃ r ∈ t, r.meets q = true)
    (p₁ p₂ : Patch) (first second : Moment) :
    ∃ t₁ t₂, t.write first (.update q p₁) = .ok t₁ ∧
      Table.write second t₁ (.update q p₂) = .ok t₂ ∧
      t.write second (.update q (p₂.laidOver p₁)) = .ok t₂ ∧
      List.Forall₂ (Record.Overlaid q p₁ p₂ second) t t₂ := by
  have matched : t.any (fun r => r.meets q) = true := List.any_eq_true.mpr there
  have still : (t.map (Record.updated q p₁ first)).any (fun r => r.meets q) = true := by
    rw [Table.any_updated, matched]
  refine ⟨_, _, Table.write_update matched p₁ first, Table.write_update still p₂ second, ?_, ?_⟩
  · rw [Table.write_update matched, List.map_map]
    refine congrArg (fun f => Except.ok (List.map f t)) (funext fun r => ?_)
    exact (r.updated_updated q p₁ p₂ first second).symm
  · rw [List.map_map, List.forall₂_map_right_iff, List.forall₂_same]
    intro r _
    rw [Function.comp_apply, Record.updated_updated]
    exact r.overlaid_updated q p₁ p₂ second

/-- Of three records two match. An empty secret and an empty label count as values. -/
theorem updates_overlay_emptied :
    let record (service key : Text) : Record :=
      { service := .str service, account := .str key, label := .str "l", data := [1] }
    let q : Query := { service := "s" }
    let t : Table := [record "s" "a", record "t" "a", record "s" "b"]
    let cleared (r : Record) : Record :=
      { r with label := .str "", data := [], modified := some default }
    (∃ r ∈ t, r.meets q = true) ∧
    ∃ t₁ t₂, t.write default (.update q { data := some [2], label := some "" }) = .ok t₁ ∧
      Table.write default t₁ (.update q { data := some [] }) = .ok t₂ ∧
      t₂ = [cleared (record "s" "a"), record "t" "a", cleared (record "s" "b")] := by
  intro record q t cleared
  have there : ∃ r ∈ t, r.meets q = true := ⟨record "s" "a", List.mem_cons_self .., rfl⟩
  obtain ⟨t₁, t₂, one, two, both, -⟩ :=
    updates_overlay there { data := some [2], label := some "" } { data := some [] } default default
  refine ⟨there, t₁, t₂, one, two, ?_⟩
  exact (Except.ok.inj both).symm

end SecretStore
