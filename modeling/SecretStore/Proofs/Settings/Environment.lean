import SecretStore.Proofs.Settings.Reordered

/-!
What an environment is gathered to where its variables are apart: each text at the end of
its way, mappings above the texts, and nothing else. So neither the order of the
variables matters nor what other variables there are.
-/

namespace SecretStore

namespace Overrides

open Value

variable {env env' : List Variable} {way : List Text} {entries entries' : List (Value × Value)}

def settings (env : List Variable) : List Variable :=
  env.filter fun v => commonStart.points.isPrefixOf v.1.points

theorem mem_settings {v : Variable} :
    v ∈ settings env ↔ v ∈ env ∧ ∃ way, path? v.1 = some way := by
  rw [settings, List.mem_filter, path?]
  split <;> simp_all

theorem apart_settings : Apart (settings env) ↔ Apart env := by
  rw [Apart, settings, List.pairwise_filter]
  refine List.Pairwise.iff fun {u v} => ⟨fun far way way' leads leads' => ?_, fun far _ _ => far⟩
  have started {v : Variable} {way : List Text} (leads : path? v.1 = some way) :
      commonStart.points.isPrefixOf v.1.points = true := by
    rw [path?, Option.ite_none_right_eq_some] at leads
    exact leads.1
  exact far (started leads) (started leads') way way' leads leads'

theorem Apart.of_settings (apart : Apart env) (perm : (settings env').Perm (settings env)) :
    Apart env' :=
  apart_settings.mp ((apart_settings.mpr apart).perm perm.symm fun far => symm far)

theorem at?_collect_text (apart : Apart env) (collected : collect env = .ok entries) {t : Text} :
    (Value.mapping entries).at? way = some (.text t) ↔
      ∃ v ∈ env, path? v.1 = some way ∧ v.2 = t := by
  constructor
  · exact (gathered_collect collected).text way t
  · rintro ⟨v, member, leads, rfl⟩
    exact at?_collect apart collected member leads

theorem at?_collect_mapping (apart : Apart env) (collected : collect env = .ok entries) :
    (∃ inner, (Value.mapping entries).at? way = some (.mapping inner)) ↔
      way = [] ∨ ∃ v ∈ env, ∃ rest ≠ [], path? v.1 = some (way ++ rest) := by
  constructor
  · rintro ⟨inner, there⟩
    refine or_iff_not_imp_left.mpr fun more => ?_
    obtain ⟨v, member, _, leads, ⟨rest, rfl⟩, short⟩ :=
      (gathered_collect collected).mapping way inner there more
    exact ⟨v, member, rest, fun empty => short (by rw [empty, List.append_nil]), leads⟩
  · rintro (rfl | ⟨v, member, rest, more, leads⟩)
    · exact ⟨entries, rfl⟩
    · have there := at?_collect apart collected member leads
      rw [at?_append] at there
      obtain ⟨inner, above, below⟩ := Option.bind_eq_some_iff.mp there
      obtain ⟨under, rfl⟩ := mapping_of_at? below more
      exact ⟨under, above⟩

theorem at?_collect_ne_empty (apart : Apart env) (collected : collect env = .ok entries)
    (more : way ≠ []) : (Value.mapping entries).at? way ≠ some (.mapping []) := by
  intro empty
  obtain ⟨v, member, rest, further, leads⟩ :=
    ((at?_collect_mapping apart collected).mp ⟨[], empty⟩).resolve_left more
  have there := at?_collect apart collected member leads
  obtain ⟨name, rest, rfl⟩ := List.exists_cons_of_ne_nil further
  rw [at?_append, empty] at there
  cases there

theorem seen_collect_congr (apart : Apart env) (collected : collect env = .ok entries)
    (apart' : Apart env') (collected' : collect env' = .ok entries')
    (same : ∀ v, v ∈ settings env' ↔ v ∈ settings env) :
    (Value.mapping entries').seen = (Value.mapping entries).seen := by
  have named {v : Variable} {way : List Text} (leads : path? v.1 = some way) :
      v ∈ env' ↔ v ∈ env := by
    have both := same v
    rwa [mem_settings, mem_settings, and_iff_left ⟨way, leads⟩, and_iff_left ⟨way, leads⟩] at both
  refine funext fun way => Option.ext fun what => ?_
  rcases what with _ | t
  · rw [(gathered_collect collected').nested.seen_mapping,
      (gathered_collect collected).nested.seen_mapping, at?_collect_mapping apart' collected',
      at?_collect_mapping apart collected]
    refine or_congr_right (exists_congr fun v => ?_)
    exact ⟨fun ⟨member, rest, more, leads⟩ => ⟨(named leads).mp member, rest, more, leads⟩,
      fun ⟨member, rest, more, leads⟩ => ⟨(named leads).mpr member, rest, more, leads⟩⟩
  · rw [seen_text, seen_text, at?_collect_text apart' collected', at?_collect_text apart collected]
    exact exists_congr fun v => and_congr_left fun ⟨leads, _⟩ => named leads

/-- Where the variables are apart, they are gathered, each text at the end of its way, with
no other text and no empty mapping, the same for all orders and whatever other variables
there are. -/
theorem environments_nest (apart : Apart env) :
    ∃ entries, collect env = .ok entries ∧ Nested (.mapping entries) ∧
      (∀ way t, (Value.mapping entries).at? way = some (.text t) ↔
        ∃ v ∈ env, path? v.1 = some way ∧ v.2 = t) ∧
      (∀ way, way ≠ [] → (Value.mapping entries).at? way ≠ some (.mapping [])) ∧
      ∀ env', (settings env').Perm (settings env) →
        ∃ entries', collect env' = .ok entries' ∧
          Reordered (.mapping entries') (.mapping entries) := by
  obtain ⟨entries, collected⟩ := collect_ok_iff.mpr apart.free
  have nested := (gathered_collect collected).nested
  refine ⟨entries, collected, nested, fun way t => at?_collect_text apart collected,
    fun way more => at?_collect_ne_empty apart collected more, fun env' perm => ?_⟩
  have apart' := apart.of_settings perm
  obtain ⟨entries', collected'⟩ := collect_ok_iff.mpr apart'.free
  have seen := seen_collect_congr apart collected apart' collected' fun v => perm.mem_iff
  exact ⟨entries', collected', ((gathered_collect collected').nested.reordered_iff nested).mpr seen⟩

/-- Two orders of variables of which two share a mapping and one ends in an empty name. -/
theorem environments_nest_shared :
    let env : List Variable :=
      [("HOME", "/"), ("SEALED_KEYRING_A__B", "1"), ("SEALED_KEYRING_A__C__", "2"),
      ("SEALED_KEYRING_D", "3")]
    let env' : List Variable := [("SEALED_KEYRING_D", "3"), ("SEALED_KEYRING_A__C__", "2"),
      ("SEALED_KEYRING_A__B", "1")]
    let inner := (Value.text "c", Value.mapping [(.text "", .text "2")])
    let entries := [(Value.text "a", .mapping [(.text "b", .text "1"), inner]),
      (.text "d", .text "3")]
    let entries' := [(Value.text "d", .text "3"),
      (.text "a", .mapping [inner, (.text "b", .text "1")])]
    collect env = .ok entries ∧ collect env' = .ok entries' ∧
      Reordered (.mapping entries') (.mapping entries) := by
  intro env env' inner entries entries'
  have home : path? "HOME" = none := by decide
  have b : path? "SEALED_KEYRING_A__B" = some (["a", "b"] : List Text) := by decide
  have c : path? "SEALED_KEYRING_A__C__" = some (["a", "c", ""] : List Text) := by decide
  have d : path? "SEALED_KEYRING_D" = some (["d"] : List Text) := by decide
  have collected : collect env = .ok entries := by
    simp only [env, collect, List.foldlM, addVariable, home, b, c, d]
    rfl
  have collected' : collect env' = .ok entries' := by
    simp only [env', collect, List.foldlM, addVariable, b, c, d]
    rfl
  have apart : Apart env := by
    simp [env, Apart, Far, home, b, c, d]
  obtain ⟨_, gathered, -, -, -, others⟩ := environments_nest apart
  obtain ⟨_, gathered', same⟩ := others env' (by decide)
  cases collected.symm.trans gathered
  cases collected'.symm.trans gathered'
  exact ⟨collected, collected', same⟩

end Overrides

end SecretStore
