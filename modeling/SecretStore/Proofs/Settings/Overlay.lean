import SecretStore.Proofs.Settings.Mapping
import SecretStore.Settings.Merge

/-!
The laws of laying one mapping over another. What is no mapping is found at the end of a
way in the merge exactly if it is there in the upper mapping, or in the lower one and the
upper one leaves the way open. Laying the same mapping over a second time changes nothing.
-/

namespace SecretStore.Value

variable {lower upper entries : List (Value × Value)} {key v w : Value} {way : List Value}
  {below : Option Value}

theorem mergeValue_cases (below : Option Value) (v : Value) :
    (∃ inner inner', below = some (.mapping inner) ∧ v = .mapping inner' ∧
      mergeValue below v = .mapping (mergeEntries inner inner')) ∨
    ((∀ inner inner', below = some (.mapping inner) → v ≠ .mapping inner') ∧
      mergeValue below v = v) := by
  rcases below with _ | w
  · exact .inr ⟨nofun, by cases v <;> rfl⟩
  · cases w with
    | mapping inner =>
      cases v with
      | mapping inner' => exact .inl ⟨inner, inner', rfl, rfl, rfl⟩
      | _ => exact .inr ⟨nofun, rfl⟩
    | _ => exact .inr ⟨nofun, by cases v <;> rfl⟩

theorem mergeValue_none (v : Value) : mergeValue none v = v := by
  cases v <;> rfl

/-- Under a key that the upper mapping has, the two values there are merged; under any
other stands what the lower mapping has. -/
theorem lookup_merge (distinct : Distinct upper) (lower : List (Value × Value)) (key : Value) :
    lookup key (mergeEntries lower upper) =
      match lookup key upper with
      | none => lookup key lower
      | some v => some (mergeValue (lookup key lower) v) := by
  induction upper generalizing lower with
  | nil => rfl
  | cons entry rest ih =>
    obtain ⟨k, v⟩ := entry
    obtain ⟨itself, new, distinct⟩ := distinct
    rw [mergeEntries, ih distinct, lookup, lookup_insert_key]
    by_cases same : k.sameKey key = true
    · rw [if_pos same, if_pos same, ← lookup_congr same rest, new, ← lookup_congr same lower]
    · rw [if_neg same, if_neg same]

theorem follow?_merge_absent (distinct : Distinct upper) (absent : lookup key upper = none) :
    (Value.mapping (mergeEntries lower upper)).follow? (key :: way) =
      (Value.mapping lower).follow? (key :: way) := by
  rw [follow?_cons, lookup_merge distinct, absent, follow?_cons]

theorem follow?_merge_present (distinct : Distinct upper) (there : lookup key upper = some v) :
    (Value.mapping (mergeEntries lower upper)).follow? (key :: way) =
      (mergeValue (lookup key lower) v).follow? way := by
  rw [follow?_cons, lookup_merge distinct, there, Option.bind_some]

/-- A value has nothing at the end of a way, and only mappings above it. -/
def LeavesOpen (v : Value) (way : List Value) : Prop :=
  v.follow? way = none ∧ ∀ above w, above <+: way → above ≠ way → v.follow? above = some w →
    ∃ inner, w = .mapping inner

theorem leavesOpen_cons : LeavesOpen (.mapping entries) (key :: way) ↔
    ∀ v, lookup key entries = some v → (∃ inner, v = .mapping inner) ∧ LeavesOpen v way := by
  constructor
  · rintro ⟨nothing, mappings⟩ v there
    have goes (rest : List Value) :
        (Value.mapping entries).follow? (key :: rest) = v.follow? rest := by
      rw [follow?_cons, there, Option.bind_some]
    rw [goes] at nothing
    have further : way ≠ [] := by
      rintro rfl
      cases nothing
    refine ⟨mappings [key] v ?_ ?_ (goes []), nothing, fun above w starts short leads => ?_⟩
    · exact List.cons_prefix_cons.mpr ⟨rfl, List.nil_prefix⟩
    · exact fun same => further (List.cons.inj same).2.symm
    · refine mappings (key :: above) w (List.cons_prefix_cons.mpr ⟨rfl, starts⟩) ?_ ?_
      · exact fun same => short (List.cons.inj same).2
      · rw [goes, leads]
  · intro inside
    refine ⟨?_, fun above w starts short leads => ?_⟩
    · rw [follow?_cons]
      cases there : lookup key entries with
      | none => rfl
      | some v => exact (inside v there).2.1
    · rcases above with _ | ⟨first, above⟩
      · cases leads
        exact ⟨entries, rfl⟩
      · obtain ⟨rfl, goes⟩ := List.cons_prefix_cons.mp starts
        rw [follow?_cons] at leads
        obtain ⟨v, there, leads⟩ := Option.bind_eq_some_iff.mp leads
        exact (inside v there).2.2 above w goes (fun same => short (same ▸ rfl)) leads

theorem follow?_merge (keyed : Keyed (.mapping upper)) (other : ∀ inner, v ≠ .mapping inner) :
    (Value.mapping (mergeEntries lower upper)).follow? way = some v ↔
      (Value.mapping upper).follow? way = some v ∨
        (Value.mapping lower).follow? way = some v ∧ LeavesOpen (.mapping upper) way := by
  induction way generalizing lower upper with
  | nil =>
    have apart (entries) : (Value.mapping entries).follow? [] ≠ some v := fun same =>
      other entries (Option.some.inj same).symm
    simp only [apart, false_and, or_self]
  | cons key way ih =>
    rw [leavesOpen_cons]
    cases there : lookup key upper with
    | none =>
      rw [follow?_merge_absent keyed.distinct there, follow?_cons upper, there]
      simp
    | some u =>
      rw [follow?_merge_present keyed.distinct there, follow?_cons upper, follow?_cons lower,
        there]
      rcases mergeValue_cases (lookup key lower) u with
        ⟨inner, inner', under, rfl, merged⟩ | ⟨apart, merged⟩
      · rw [merged, under, ih (keyed.entry there)]
        simp
      · rw [merged]
        refine ⟨.inl, fun either => either.resolve_right ?_⟩
        rintro ⟨below, inside⟩
        obtain ⟨w, under, leads⟩ := Option.bind_eq_some_iff.mp below
        obtain ⟨⟨inner', rfl⟩, nothing, -⟩ := inside u rfl
        have last : way = [] :=
          follow?_other (fun inner same => apart inner inner' (same ▸ under) rfl) leads
        rw [last] at nothing
        cases nothing

theorem follow?_merge_mapping (keyed : Keyed (.mapping upper))
    (there : ∃ inner, (Value.mapping upper).follow? way = some (.mapping inner)) :
    ∃ inner, (Value.mapping (mergeEntries lower upper)).follow? way = some (.mapping inner) := by
  induction way generalizing lower upper with
  | nil => exact ⟨_, rfl⟩
  | cons key way ih =>
    obtain ⟨inner, leads⟩ := there
    obtain ⟨u, there, leads⟩ := Option.bind_eq_some_iff.mp leads
    rw [follow?_merge_present keyed.distinct there]
    rcases mergeValue_cases (lookup key lower) u with
      ⟨below, above, -, rfl, merged⟩ | ⟨-, merged⟩
    · rw [merged]
      exact ih (keyed.entry there) ⟨inner, leads⟩
    · rw [merged]
      exact ⟨inner, leads⟩

theorem merge_new (distinct : Distinct upper) (new : ∀ e ∈ upper, lookup e.1 lower = none) :
    mergeEntries lower upper = lower ++ upper := by
  induction upper generalizing lower with
  | nil => exact (List.append_nil lower).symm
  | cons entry rest ih =>
    obtain ⟨k, v⟩ := entry
    obtain ⟨itself, first, distinct⟩ := distinct
    obtain ⟨absent, others⟩ := List.forall_mem_cons.mp new
    have still (e) (member : e ∈ rest) : lookup e.1 (insert k v lower) = none := by
      have apart : k.sameKey e.1 ≠ true := fun same => by
        rw [lookup_congr same, lookup_of_mem distinct member] at first
        cases first
      rw [lookup_insert_key, if_neg apart, others e member]
    rw [mergeEntries, absent, mergeValue_none, ih distinct still, insert_new absent,
      List.append_assoc, List.singleton_append]

theorem merge_settled
    (settled : ∀ e ∈ upper, ∃ v, lookup e.1 lower = some v ∧ mergeValue (some v) e.2 = v) :
    mergeEntries lower upper = lower := by
  induction upper with
  | nil => rfl
  | cons entry rest ih =>
    obtain ⟨k, v⟩ := entry
    obtain ⟨⟨w, there, same⟩, others⟩ := List.forall_mem_cons.mp settled
    rw [mergeEntries, there, same, insert_lookup there, ih others]

theorem mergeValue_other (other : ∀ inner, v ≠ .mapping inner) (below : Option Value) :
    mergeValue below v = v := by
  rcases mergeValue_cases below v with ⟨-, inner, -, same, -⟩ | ⟨-, merged⟩
  · exact absurd same (other inner)
  · exact merged

theorem mergeValue_again (keyed : Keyed v) (below : Option Value) :
    mergeValue (some (mergeValue below v)) v = mergeValue below v := by
  induction keyed generalizing below with
  | other other => rw [mergeValue_other other, mergeValue_other other]
  | @mapping entries distinct within ih =>
    rcases mergeValue_cases below (.mapping entries) with
      ⟨inner, inner', rfl, same, merged⟩ | ⟨-, merged⟩
    · cases same
      rw [merged]
      refine congrArg Value.mapping (merge_settled fun e member => ?_)
      refine ⟨mergeValue (lookup e.1 inner) e.2, ?_, ih e member _⟩
      rw [lookup_merge distinct, lookup_of_mem distinct member]
    · rw [merged]
      refine congrArg Value.mapping (merge_settled fun e member => ?_)
      have again := ih e member none
      rw [mergeValue_none] at again
      exact ⟨e.2, lookup_of_mem distinct member, again⟩

theorem merge_again (keyed : Keyed (.mapping upper)) (lower : List (Value × Value)) :
    mergeEntries (mergeEntries lower upper) upper = mergeEntries lower upper :=
  Value.mapping.inj (mergeValue_again keyed (some (.mapping lower)))

theorem keyed_merge_of (keyed : Keyed (.mapping lower))
    (itself : ∀ e ∈ upper, e.1.sameKey e.1 = true)
    (merged : ∀ e ∈ upper, ∀ below, (∀ w, below = some w → Keyed w) →
      Keyed (mergeValue below e.2)) :
    Keyed (.mapping (mergeEntries lower upper)) := by
  induction upper generalizing lower with
  | nil => exact keyed
  | cons entry rest ih =>
    obtain ⟨first, others⟩ := List.forall_mem_cons.mp itself
    obtain ⟨new, values⟩ := List.forall_mem_cons.mp merged
    exact ih (keyed.insert first (new _ fun w there => keyed.entry there)) others values

theorem keyed_mergeValue (keyed : Keyed v) {below : Option Value}
    (under : ∀ w, below = some w → Keyed w) : Keyed (mergeValue below v) := by
  induction keyed generalizing below with
  | other other =>
    rw [mergeValue_other other]
    exact .other other
  | @mapping entries distinct within ih =>
    rcases mergeValue_cases below (.mapping entries) with
      ⟨inner, inner', rfl, same, merged⟩ | ⟨-, merged⟩
    · cases same
      rw [merged]
      exact keyed_merge_of (under _ rfl) (fun e member => distinct.itself member)
        fun e member below => ih e member
    · rw [merged]
      exact .mapping distinct within

/-- Laying one mapping over another: what is no mapping stands at the end of a way exactly
if the upper mapping has it there, or the lower one has and the upper one leaves the way
open. Mappings of the upper one stay mappings, laying it over once more changes nothing,
and neither does an empty mapping on either side. -/
theorem merges_overlay (keyed : Keyed (.mapping upper)) (lower : List (Value × Value)) :
    let merged := mergeEntries lower upper
    (∀ way v, (∀ inner, v ≠ .mapping inner) → ((Value.mapping merged).follow? way = some v ↔
      (Value.mapping upper).follow? way = some v ∨
        (Value.mapping lower).follow? way = some v ∧ LeavesOpen (.mapping upper) way)) ∧
    (∀ way, (∃ inner, (Value.mapping upper).follow? way = some (.mapping inner)) →
      ∃ inner, (Value.mapping merged).follow? way = some (.mapping inner)) ∧
    (Keyed (.mapping lower) → Keyed (.mapping merged)) ∧
    mergeEntries merged upper = merged ∧
    mergeEntries lower [] = lower ∧ mergeEntries [] upper = upper := by
  refine ⟨fun way v other => follow?_merge keyed other, fun way => follow?_merge_mapping keyed,
    fun under => ?_, merge_again keyed lower, rfl, ?_⟩
  · have within : Keyed (mergeValue (some (.mapping lower)) (.mapping upper)) :=
      keyed_mergeValue keyed fun w same => Option.some.inj same ▸ under
    exact within
  · rw [merge_new keyed.distinct fun e _ => rfl, List.nil_append]

/-- A text stays beside what is laid over; a mapping gives way to null, and a text under the
number one to a mapping under true. -/
theorem merges_overlay_mixed :
    let inner := Value.mapping [(.text "x", .int 1), (.text "y", .mapping [(.text "z", .int 2)])]
    let lower := [(.text "a", inner), (.int 1, .text "t")]
    let upper := [(.bool true, .mapping []), (.text "a", .mapping [(.text "y", .null)])]
    let merged := [(.text "a", .mapping [(.text "x", .int 1), (.text "y", .null)]),
      (.int 1, .mapping [])]
    Keyed (.mapping upper) ∧ mergeEntries lower upper = merged ∧
      (Value.mapping merged).follow? [.text "a", .text "x"] = some (.int 1) ∧
      (Value.mapping merged).follow? [.text "a", .text "y", .text "z"] ≠ some (.int 2) ∧
      mergeEntries merged upper = merged := by
  intro inner lower upper merged
  have keyed : Keyed (.mapping upper) := by
    refine .mapping ⟨rfl, rfl, rfl, rfl, trivial⟩
      (List.forall_mem_cons.mpr ⟨.mapping trivial nofun, ?_⟩)
    exact List.forall_mem_singleton.mpr
      (.mapping ⟨rfl, rfl, trivial⟩ (List.forall_mem_singleton.mpr (.other nofun)))
  have same : mergeEntries lower upper = merged := rfl
  obtain ⟨leaves, -, -, again, -, -⟩ := merges_overlay keyed lower
  rw [same] at leaves again
  refine ⟨keyed, same, (leaves _ (.int 1) nofun).mpr (.inr ⟨rfl, ?_⟩), fun there => ?_, again⟩
  · refine leavesOpen_cons.mpr fun v first => ?_
    cases first
    exact ⟨⟨_, rfl⟩, leavesOpen_cons.mpr fun v second => nomatch second⟩
  · rcases (leaves _ (.int 2) nofun).mp there with above | ⟨-, opened⟩
    · cases above
    · obtain ⟨-, opened⟩ := leavesOpen_cons.mp opened _ rfl
      obtain ⟨⟨inner, mapping⟩, -⟩ := leavesOpen_cons.mp opened _ rfl
      cases mapping

end SecretStore.Value
