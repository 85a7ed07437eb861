import Mathlib.Data.List.Induction
import SecretStore.Proofs.Settings.Mapping
import SecretStore.Settings.Overrides

/-!
What a nest of mappings that is made from an environment holds. A way of names
leads into a value, mapping by mapping. Placing a text puts it at the end of its
way and changes nothing off the way, and fails exactly when a text stands on it.
So variables can be gathered exactly if no way of an earlier one goes on in that
of a later one; and where no way goes on in another, each leads to its text.
-/

namespace SecretStore

namespace Value

variable {entries : List (Value × Value)} {name : Text}

theorem lookup_insert (name other : Text) (v : Value) (entries : List (Value × Value)) :
    lookup (.text name) (insert (.text other) v entries) =
      if other = name then some v else lookup (.text name) entries := by
  rw [lookup_insert_key, sameKey_text]
  simp only [beq_iff_eq]

def at? (v : Value) : List Text → Option Value
  | [] => some v
  | name :: rest => (v.field? name).bind fun inner => inner.at? rest

theorem at?_single (v : Value) (name : Text) : v.at? [name] = v.field? name := by
  rw [at?]
  cases v.field? name <;> rfl

theorem at?_append (v : Value) (way rest : List Text) :
    v.at? (way ++ rest) = (v.at? way).bind fun inner => inner.at? rest := by
  induction way generalizing v with
  | nil => rfl
  | cons name way ih =>
    rw [List.cons_append, at?, at?, Option.bind_assoc]
    exact congrArg _ (funext fun inner => ih inner)

theorem mapping_of_at? {v w : Value} {way : List Text} (leads : v.at? way = some w)
    (more : way ≠ []) : ∃ inner, v = .mapping inner := by
  obtain ⟨name, rest, rfl⟩ := List.exists_cons_of_ne_nil more
  cases v <;> first | exact ⟨_, rfl⟩ | cases leads

/-- Texts in a nest of mappings, in each under texts that differ. -/
inductive Nested : Value → Prop
  | text (t : Text) : Nested (.text t)
  | nil : Nested (.mapping [])
  | cons {name : Text} {v : Value} {entries : List (Value × Value)}
      (new : lookup (.text name) entries = none) (first : Nested v)
      (rest : Nested (.mapping entries)) : Nested (.mapping ((.text name, v) :: entries))

theorem Nested.text_or_mapping {v : Value} (nested : Nested v) :
    (∃ t, v = .text t) ∨ ∃ inner, v = .mapping inner := by
  cases nested with
  | text t => exact .inl ⟨t, rfl⟩
  | nil | cons => exact .inr ⟨_, rfl⟩

theorem Nested.field {v w : Value} (nested : Nested v) (there : v.field? name = some w) :
    Nested w := by
  induction nested with
  | text t => cases there
  | nil => cases there
  | @cons other v entries new first rest _ ih =>
    rw [field?, lookup] at there
    split at there
    · cases there
      exact first
    · exact ih there

theorem Nested.at {v w : Value} {way : List Text} (nested : Nested v)
    (leads : v.at? way = some w) : Nested w := by
  induction way generalizing v with
  | nil =>
    cases leads
    exact nested
  | cons name rest ih =>
    obtain ⟨inner, there, leads⟩ := Option.bind_eq_some_iff.mp leads
    exact ih (nested.field there) leads

theorem Nested.insert {v : Value} (nested : Nested (.mapping entries)) (new : Nested v) :
    Nested (.mapping (insert (.text name) v entries)) := by
  generalize whole : Value.mapping entries = m at nested
  induction nested generalizing entries with
  | text t => cases whole
  | nil =>
    cases whole
    exact .cons rfl new .nil
  | @cons other w rest absent first nested _ ih =>
    cases whole
    rw [Value.insert, sameKey_text]
    split
    · exact .cons absent new nested
    · next apart =>
      refine .cons ?_ first (ih rfl)
      rw [lookup_insert, if_neg fun same => apart (beq_iff_eq.mpr same.symm), absent]

end Value

namespace Overrides

open Value

variable {text : Text} {way other : List Text} {entries entries' : List (Value × Value)}

inductive Under (entries : List (Value × Value)) (name : Text) : List (Value × Value) → Prop
  | new (absent : lookup (.text name) entries = none) : Under entries name []
  | old {inner : List (Value × Value)}
      (there : lookup (.text name) entries = some (.mapping inner)) : Under entries name inner

theorem Under.at? {name : Text} {inner : List (Value × Value)} (under : Under entries name inner)
    (more : way ≠ []) :
    (Value.mapping entries).at? (name :: way) = (Value.mapping inner).at? way := by
  rw [Value.at?, field?]
  cases under with
  | new absent =>
    obtain ⟨first, rest, rfl⟩ := List.exists_cons_of_ne_nil more
    rw [absent]
    rfl
  | old there => rw [there, Option.bind_some]

theorem Under.nested {name : Text} {inner : List (Value × Value)}
    (under : Under entries name inner) (nested : Nested (.mapping entries)) :
    Nested (.mapping inner) := by
  cases under with
  | new absent => exact .nil
  | old there => exact nested.field there

theorem place_ok_cons {name next : Text} {rest : List Text} :
    place text (name :: next :: rest) entries = .ok entries' ↔
      ∃ inner inner', Under entries name inner ∧ place text (next :: rest) inner = .ok inner' ∧
        entries' = Value.insert (.text name) (.mapping inner') entries := by
  rw [place]
  constructor
  · intro placed
    split at placed
    · next absent =>
      rcases goes : place text (next :: rest) [] with fault | inner' <;> rw [goes] at placed <;>
        cases placed
      exact ⟨[], inner', .new absent, goes, rfl⟩
    · next inner there =>
      rcases goes : place text (next :: rest) inner with fault | inner' <;> rw [goes] at placed <;>
        cases placed
      exact ⟨inner, inner', .old there, goes, rfl⟩
    · cases placed
  · rintro ⟨inner, inner', absent | there, goes, rfl⟩
    · rw [absent]
      simp only [goes]
      rfl
    · rw [there]
      simp only [goes]
      rfl

/-- The fault of a way on which something else stands: in the place of the last mapping,
or further up. -/
def faultAt (above way : List Text) : Fault :=
  if way.length = above.length + 1 then .textInPlaceOfMapping else .textOnTheWay

theorem faultAt_cons (name : Text) (above way : List Text) :
    faultAt (name :: above) (name :: way) = faultAt above way := by
  simp [faultAt]

theorem place_error_cons {name next : Text} {rest : List Text} {fault : Fault} :
    place text (name :: next :: rest) entries = .error fault ↔
      (∃ v, lookup (.text name) entries = some v ∧ (∀ inner, v ≠ .mapping inner) ∧
        fault = faultAt [] (next :: rest)) ∨
        ∃ inner, Under entries name inner ∧ place text (next :: rest) inner = .error fault := by
  have first : (if rest.isEmpty then Fault.textInPlaceOfMapping else .textOnTheWay) =
      faultAt [] (next :: rest) := by
    cases rest <;> rfl
  rw [place]
  constructor
  · intro fails
    split at fails
    · next absent =>
      rcases goes : place text (next :: rest) [] with why | inner' <;> rw [goes] at fails <;>
        cases fails
      exact .inr ⟨[], .new absent, goes⟩
    · next inner there =>
      rcases goes : place text (next :: rest) inner with why | inner' <;> rw [goes] at fails <;>
        cases fails
      exact .inr ⟨inner, .old there, goes⟩
    · next v other there =>
      cases fails
      exact .inl ⟨v, there, fun inner eq => other inner eq, first⟩
  · rintro (⟨v, there, other, rfl⟩ | ⟨inner, absent | there, goes⟩)
    · rw [there]
      cases v with
      | mapping inner => exact absurd rfl (other inner)
      | _ => exact congrArg Except.error first
    · rw [absent]
      simp only [goes]
      rfl
    · rw [there]
      simp only [goes]
      rfl

theorem nested_place (nested : Nested (.mapping entries))
    (placed : place text way entries = .ok entries') : Nested (.mapping entries') := by
  induction way generalizing entries entries' with
  | nil =>
    cases placed
    exact nested
  | cons name rest ih =>
    rcases rest with _ | ⟨next, rest⟩
    · cases placed
      exact nested.insert (.text text)
    · obtain ⟨inner, inner', under, goes, rfl⟩ := place_ok_cons.mp placed
      exact nested.insert (ih (under.nested nested) goes)

theorem at?_insert (name : Text) (v : Value) (entries : List (Value × Value))
    (first : Text) (rest : List Text) :
    (Value.mapping (Value.insert (.text name) v entries)).at? (first :: rest) =
      if name = first then v.at? rest else (Value.mapping entries).at? (first :: rest) := by
  simp only [Value.at?, field?, lookup_insert]
  split <;> rfl

theorem at?_placed (placed : place text way entries = .ok entries') (more : way ≠ []) :
    (Value.mapping entries').at? way = some (.text text) := by
  induction way generalizing entries entries' with
  | nil => exact absurd rfl more
  | cons name rest ih =>
    rcases rest with _ | ⟨next, rest⟩
    · cases placed
      rw [at?_insert, if_pos rfl, Value.at?]
    · obtain ⟨inner, inner', under, goes, rfl⟩ := place_ok_cons.mp placed
      rw [at?_insert, if_pos rfl, ih goes (List.cons_ne_nil _ _)]

theorem at?_placed_off (placed : place text way entries = .ok entries')
    (behind : ¬ way <+: other) (above : ¬ other <+: way) :
    (Value.mapping entries').at? other = (Value.mapping entries).at? other := by
  induction way generalizing entries entries' other with
  | nil => exact absurd List.nil_prefix behind
  | cons name rest ih =>
    obtain ⟨first, others, rfl⟩ : ∃ first others, other = first :: others :=
      List.exists_cons_of_ne_nil fun empty => above (empty ▸ List.nil_prefix)
    rcases rest with _ | ⟨next, rest⟩
    · cases placed
      refine (at?_insert ..).trans (if_neg fun same => behind ?_)
      exact List.cons_prefix_cons.mpr ⟨same, List.nil_prefix⟩
    · obtain ⟨inner, inner', under, goes, rfl⟩ := place_ok_cons.mp placed
      rw [at?_insert]
      split
      · next same =>
        subst same
        have behind' : ¬ (next :: rest) <+: others := fun starts =>
          behind (List.cons_prefix_cons.mpr ⟨rfl, starts⟩)
        have above' : ¬ others <+: (next :: rest) := fun starts =>
          above (List.cons_prefix_cons.mpr ⟨rfl, starts⟩)
        have further : others ≠ [] := fun empty => above' (empty ▸ List.nil_prefix)
        rw [ih goes behind' above', under.at? further]
      · rfl

theorem at?_placed_above (placed : place text way entries = .ok entries')
    (above : other <+: way) (short : other ≠ way) :
    ∃ inner, (Value.mapping entries').at? other = some (.mapping inner) := by
  induction way generalizing entries entries' other with
  | nil => exact absurd (List.prefix_nil.mp above) short
  | cons name rest ih =>
    rcases other with _ | ⟨first, others⟩
    · exact ⟨entries', rfl⟩
    · obtain ⟨rfl, starts⟩ := List.cons_prefix_cons.mp above
      have short' : others ≠ rest := fun same => short (same ▸ rfl)
      rcases rest with _ | ⟨next, rest⟩
      · exact absurd (List.prefix_nil.mp starts) short'
      · obtain ⟨inner, inner', under, goes, rfl⟩ := place_ok_cons.mp placed
        rw [at?_insert, if_pos rfl]
        exact ih goes starts short'

theorem place_error_iff {fault : Fault} :
    place text way entries = .error fault ↔
      ∃ above v, above <+: way ∧ above ≠ way ∧ (Value.mapping entries).at? above = some v ∧
        (∀ inner, v ≠ .mapping inner) ∧ fault = faultAt above way := by
  induction way generalizing entries with
  | nil =>
    refine ⟨nofun, ?_⟩
    rintro ⟨above, v, starts, short, -⟩
    exact absurd (List.prefix_nil.mp starts) short
  | cons name rest ih =>
    rcases rest with _ | ⟨next, rest⟩
    · refine ⟨nofun, ?_⟩
      rintro ⟨_ | ⟨first, others⟩, v, starts, short, there, other, -⟩
      · cases there
        exact absurd rfl (other entries)
      · obtain ⟨rfl, short_rest⟩ := List.cons_prefix_cons.mp starts
        exact absurd (List.prefix_nil.mp short_rest ▸ rfl) short
    · rw [place_error_cons]
      constructor
      · rintro (⟨v, there, other, rfl⟩ | ⟨inner, under, fails⟩)
        · refine ⟨[name], v, ?_, by simp, ?_, other, (faultAt_cons ..).symm⟩
          · exact List.cons_prefix_cons.mpr ⟨rfl, List.nil_prefix⟩
          · rw [at?_single, field?, there]
        · obtain ⟨above, v, starts, short, there, other, rfl⟩ := ih.mp fails
          have further : above ≠ [] := by
            rintro rfl
            cases there
            exact other inner rfl
          refine ⟨name :: above, v, List.cons_prefix_cons.mpr ⟨rfl, starts⟩, ?_, ?_, other,
            (faultAt_cons ..).symm⟩
          · exact fun same => short (List.cons.inj same).2
          · rw [under.at? further, there]
      · rintro ⟨_ | ⟨first, above⟩, v, starts, short, there, other, rfl⟩
        · cases there
          exact absurd rfl (other entries)
        · obtain ⟨rfl, goes⟩ := List.cons_prefix_cons.mp starts
          have short' : above ≠ next :: rest := fun same => short (same ▸ rfl)
          rcases above with _ | ⟨second, above⟩
          · rw [at?_single] at there
            exact .inl ⟨v, there, other, faultAt_cons ..⟩
          · obtain ⟨m, found, leads⟩ := Option.bind_eq_some_iff.mp there
            obtain ⟨inner, rfl⟩ := mapping_of_at? leads (List.cons_ne_nil _ _)
            exact .inr ⟨inner, .old found,
              ih.mpr ⟨_, v, goes, short', leads, other, faultAt_cons ..⟩⟩

/-- What is found after a text was placed: the text, a mapping above it, or what was
found before and is off the way. -/
theorem at?_placed_cases (placed : place text way entries = .ok entries') (more : way ≠ [])
    {v : Value} (leads : (Value.mapping entries').at? other = some v) :
    (other = way ∧ v = .text text) ∨
      (other <+: way ∧ other ≠ way ∧ ∃ inner, v = .mapping inner) ∨
        ((Value.mapping entries).at? other = some v ∧ ¬ way <+: other ∧ ¬ other <+: way) := by
  by_cases behind : way <+: other
  · obtain ⟨rest, rfl⟩ := behind
    rw [at?_append, at?_placed placed more, Option.bind_some] at leads
    rcases rest with _ | ⟨name, rest⟩
    · cases leads
      exact .inl ⟨List.append_nil way, rfl⟩
    · cases leads
  · by_cases above : other <+: way
    · have short : other ≠ way := fun same => behind (same ▸ List.prefix_rfl)
      obtain ⟨inner, there⟩ := at?_placed_above placed above short
      rw [there] at leads
      exact .inr (.inl ⟨above, short, inner, (Option.some.inj leads).symm⟩)
    · exact .inr (.inr ⟨(at?_placed_off placed behind above).symm.trans leads, behind, above⟩)

theorem splitUnderscores_ne_nil (cs : List CodePoint) : splitUnderscores cs ≠ [] := by
  fun_cases splitUnderscores cs <;> simp

theorem path?_ne_nil {name : Text} (leads : path? name = some way) : way ≠ [] := by
  rintro rfl
  simp only [path?, Option.ite_none_right_eq_some, Option.some.injEq, List.map_eq_nil_iff] at leads
  exact splitUnderscores_ne_nil _ leads.2

/-- The way of a variable is the start of another's, which goes on. -/
def Blocks (u v : Variable) : Prop :=
  ∃ way way', path? u.1 = some way ∧ path? v.1 = some way' ∧ way <+: way' ∧ way ≠ way'

structure Gathered (env : List Variable) (entries : List (Value × Value)) : Prop where
  nested : Nested (.mapping entries)
  text : ∀ way t, (Value.mapping entries).at? way = some (.text t) →
    ∃ v ∈ env, path? v.1 = some way ∧ v.2 = t
  mapping : ∀ way inner, (Value.mapping entries).at? way = some (.mapping inner) → way ≠ [] →
    ∃ v ∈ env, ∃ way', path? v.1 = some way' ∧ way <+: way' ∧ way ≠ way'
  covered : ∀ v ∈ env, ∀ way, path? v.1 = some way →
    ∃ above t, above <+: way ∧ (Value.mapping entries).at? above = some (.text t)

theorem Gathered.add {env : List Variable} {v : Variable} (gathered : Gathered env entries)
    (added : addVariable entries v = .ok entries') : Gathered (env ++ [v]) entries' := by
  rw [addVariable] at added
  split at added
  · next nowhere =>
    cases added
    refine ⟨gathered.nested, fun way t leads => ?_, fun way inner leads more => ?_, ?_⟩
    · obtain ⟨u, member, found⟩ := gathered.text way t leads
      exact ⟨u, List.mem_append_left _ member, found⟩
    · obtain ⟨u, member, found⟩ := gathered.mapping way inner leads more
      exact ⟨u, List.mem_append_left _ member, found⟩
    · intro u member way leads
      rcases List.mem_append.mp member with old | new
      · exact gathered.covered u old way leads
      · rw [List.mem_singleton.mp new, nowhere] at leads
        cases leads
  · next way leads =>
    have more := path?_ne_nil leads
    have last : v ∈ env ++ [v] := List.mem_append_right _ (List.mem_singleton_self v)
    refine ⟨nested_place gathered.nested added, fun other t found => ?_,
      fun other inner found further => ?_, ?_⟩
    · rcases at?_placed_cases added more found with
        ⟨rfl, same⟩ | ⟨-, -, inner, other⟩ | ⟨before, -, -⟩
      · cases same
        exact ⟨v, last, leads, rfl⟩
      · cases other
      · obtain ⟨u, member, found⟩ := gathered.text other t before
        exact ⟨u, List.mem_append_left _ member, found⟩
    · rcases at?_placed_cases added more found with
        ⟨-, other⟩ | ⟨above, short, -⟩ | ⟨before, -, -⟩
      · cases other
      · exact ⟨v, last, way, leads, above, short⟩
      · obtain ⟨u, member, found⟩ := gathered.mapping other inner before further
        exact ⟨u, List.mem_append_left _ member, found⟩
    · intro u member way' leads'
      rcases List.mem_append.mp member with old | new
      · obtain ⟨above, t, starts, found⟩ := gathered.covered u old way' leads'
        by_cases behind : way <+: above
        · exact ⟨way, v.2, behind.trans starts, at?_placed added more⟩
        · refine ⟨above, t, starts, (at?_placed_off added behind fun under => ?_).trans found⟩
          -- A text above the end of the way would have been in the way.
          have fails : place v.2 way entries = .error (faultAt above way) := place_error_iff.mpr
            ⟨above, .text t, under, fun same => behind (same ▸ List.prefix_rfl), found, nofun, rfl⟩
          rw [fails] at added
          cases added
      · rw [List.mem_singleton.mp new, leads] at leads'
        cases leads'
        exact ⟨way, v.2, List.prefix_rfl, at?_placed added more⟩

theorem collect_concat (env : List Variable) (v : Variable) :
    collect (env ++ [v]) = (collect env).bind fun entries => addVariable entries v := by
  rw [collect, List.foldlM_append, ← collect]
  cases collect env with
  | error fault => rfl
  | ok entries => exact bind_pure (addVariable entries v)

theorem gathered_collect {env : List Variable} (collected : collect env = .ok entries) :
    Gathered env entries := by
  induction env using List.reverseRecOn generalizing entries with
  | nil =>
    cases collected
    refine ⟨.nil, fun way t leads => ?_, fun way inner leads more => ?_, nofun⟩
    · rcases way with _ | ⟨name, rest⟩ <;> cases leads
    · obtain ⟨name, rest, rfl⟩ := List.exists_cons_of_ne_nil more
      cases leads
  | append_singleton env v ih =>
    rw [collect_concat] at collected
    cases before : collect env with
    | error fault =>
      rw [before] at collected
      cases collected
    | ok entries =>
      rw [before] at collected
      exact (ih before).add collected

/-- It is the start of another's, which goes on by more than one name. -/
def BlocksFar (u v : Variable) : Prop :=
  ∃ way way', path? u.1 = some way ∧ path? v.1 = some way' ∧ way <+: way' ∧
    way.length + 1 < way'.length

theorem faultAt_far {above : List Text} (starts : above <+: way) (short : above ≠ way) :
    faultAt above way = .textOnTheWay ↔ above.length + 1 < way.length := by
  have shorter : above.length ≠ way.length := fun same => short (starts.eq_of_length same)
  have bound := starts.length_le
  rw [faultAt]
  split <;> simp <;> omega

theorem Gathered.blocked {env : List Variable} {v : Variable} (gathered : Gathered env entries)
    (blocked : ∃ u ∈ env, Blocks u v) :
    ∃ fault, addVariable entries v = .error fault ∧
      (fault = .textOnTheWay ↔ ∃ u ∈ env, BlocksFar u v) := by
  obtain ⟨u, member, way', way, leads', leads, longer, more⟩ := blocked
  obtain ⟨above, t, under, there⟩ := gathered.covered u member way' leads'
  have starts := under.trans longer
  have short : above ≠ way := by
    rintro rfl
    exact more (longer.eq_of_length (Nat.le_antisymm longer.length_le under.length_le))
  simp only [addVariable, leads]
  refine ⟨_, place_error_iff.mpr ⟨above, _, starts, short, there, nofun, rfl⟩,
    (faultAt_far starts short).trans ⟨?_, ?_⟩⟩
  · intro far
    obtain ⟨u, member, leads', -⟩ := gathered.text above t there
    exact ⟨u, member, above, way, leads', leads, starts, far⟩
  · rintro ⟨u, member, other, _, leads', same, starts', far⟩
    cases leads.symm.trans same
    obtain ⟨above', t', under', there'⟩ := gathered.covered u member other leads'
    -- Both texts are on the same way, and a text leads no further.
    have same : above = above' := by
      rcases List.prefix_or_prefix_of_prefix starts (under'.trans starts') with
        ⟨rest, rfl⟩ | ⟨rest, rfl⟩
      · rw [at?_append, there, Option.bind_some] at there'
        rcases rest with _ | ⟨name, rest⟩
        · exact (List.append_nil above).symm
        · cases there'
      · rw [at?_append, there', Option.bind_some] at there
        rcases rest with _ | ⟨name, rest⟩
        · exact List.append_nil above'
        · cases there
    subst same
    have shorter := under'.length_le
    omega

theorem Gathered.free {env : List Variable} {v : Variable} (gathered : Gathered env entries)
    (free : ∀ u ∈ env, ¬ Blocks u v) : ∃ entries', addVariable entries v = .ok entries' := by
  rw [addVariable]
  cases leads : path? v.1 with
  | none => exact ⟨entries, rfl⟩
  | some way =>
    cases placed : place v.2 way entries with
    | ok entries' => exact ⟨entries', placed⟩
    | error fault =>
      obtain ⟨above, found, starts, short, there, other, -⟩ := place_error_iff.mp placed
      rcases (gathered.nested.at there).text_or_mapping with ⟨t, rfl⟩ | ⟨inner, rfl⟩
      · obtain ⟨u, member, leads', -⟩ := gathered.text above t there
        exact absurd ⟨above, way, leads', leads, starts, short⟩ (free u member)
      · exact absurd rfl (other inner)

theorem collect_ok_iff {env : List Variable} :
    (∃ entries, collect env = .ok entries) ↔ env.Pairwise fun u v => ¬ Blocks u v := by
  induction env using List.reverseRecOn with
  | nil => exact ⟨fun _ => .nil, fun _ => ⟨[], rfl⟩⟩
  | append_singleton env v ih =>
    rw [collect_concat, List.pairwise_append, ← ih]
    constructor
    · rintro ⟨entries', collected⟩
      cases before : collect env with
      | error fault =>
        rw [before] at collected
        cases collected
      | ok entries =>
        rw [before] at collected
        refine ⟨⟨entries, rfl⟩, List.pairwise_singleton _ _, fun u member w last blocks => ?_⟩
        rw [List.mem_singleton.mp last] at blocks
        obtain ⟨fault, fails, -⟩ := (gathered_collect before).blocked ⟨u, member, blocks⟩
        rw [show addVariable entries v = .ok entries' from collected] at fails
        cases fails
    · rintro ⟨⟨entries, before⟩, -, free⟩
      rw [before]
      exact (gathered_collect before).free fun u member =>
        free u member v (List.mem_singleton_self v)

/-- The first variable that is blocked, and those in front of it. -/
structure FirstBlocked (env front : List Variable) (v : Variable) : Prop where
  splits : ∃ back, env = front ++ v :: back
  free : front.Pairwise fun u v => ¬ Blocks u v
  blocked : ∃ u ∈ front, Blocks u v

theorem exists_firstBlocked {env : List Variable}
    (blocked : ¬ env.Pairwise fun u v => ¬ Blocks u v) : ∃ front v, FirstBlocked env front v := by
  induction env using List.reverseRecOn with
  | nil => exact absurd .nil blocked
  | append_singleton env v ih =>
    by_cases free : env.Pairwise fun u v => ¬ Blocks u v
    · refine ⟨env, v, ⟨[], rfl⟩, free, ?_⟩
      by_contra unblocked
      refine blocked (List.pairwise_append.mpr
        ⟨free, List.pairwise_singleton _ _, fun u member w last blocks => ?_⟩)
      rw [List.mem_singleton.mp last] at blocks
      exact unblocked ⟨u, member, blocks⟩
    · obtain ⟨front, w, ⟨back, rfl⟩, unblocked, first⟩ := ih free
      exact ⟨front, w, ⟨back ++ [v], by simp⟩, unblocked, first⟩

theorem collect_error_iff {env : List Variable} {fault : Fault} :
    collect env = .error fault ↔
      ∃ front v, FirstBlocked env front v ∧
        (fault = .textOnTheWay ↔ ∃ u ∈ front, BlocksFar u v) := by
  have stops {front : List Variable} {v : Variable} (first : FirstBlocked env front v) :
      ∃ fault, collect env = .error fault ∧
        (fault = .textOnTheWay ↔ ∃ u ∈ front, BlocksFar u v) := by
    obtain ⟨⟨back, rfl⟩, free, blocked⟩ := first
    obtain ⟨entries, before⟩ := collect_ok_iff.mpr free
    obtain ⟨fault, fails, kind⟩ := (gathered_collect before).blocked blocked
    refine ⟨fault, ?_, kind⟩
    rw [collect] at before
    rw [collect, List.foldlM_append, before]
    show (addVariable entries v >>= _) = _
    rw [fails]
    rfl
  constructor
  · intro fails
    have blocked : ¬ env.Pairwise fun u v => ¬ Blocks u v := by
      rw [← collect_ok_iff, fails]
      exact fun ⟨_, ok⟩ => nomatch ok
    obtain ⟨front, v, first⟩ := exists_firstBlocked blocked
    obtain ⟨fault', fails', kind⟩ := stops first
    have same : fault = fault' := Except.error.inj (fails.symm.trans fails')
    exact ⟨front, v, first, same ▸ kind⟩
  · rintro ⟨front, v, first, kind⟩
    obtain ⟨fault', fails, kind'⟩ := stops first
    have same : fault = .textOnTheWay ↔ fault' = .textOnTheWay := kind.trans kind'.symm
    cases fault <;> cases fault' <;> first | exact fails | simp at same

/-- Neither of two ways goes on in the other, nor are they the same. -/
def Far (u v : Variable) : Prop :=
  ∀ way way', path? u.1 = some way → path? v.1 = some way' → ¬ way <+: way' ∧ ¬ way' <+: way

instance : Std.Symm Far where
  symm _ _ far way way' leads leads' := (far way' way leads' leads).symm

/-- No way of a variable goes on in that of another, and no two have the same. -/
def Apart (env : List Variable) : Prop :=
  env.Pairwise Far

theorem Apart.free {env : List Variable} (apart : Apart env) :
    env.Pairwise fun u v => ¬ Blocks u v :=
  apart.imp fun far ⟨way, way', leads, leads', starts, _⟩ => (far way way' leads leads').1 starts

theorem at?_collect {env : List Variable} (apart : Apart env)
    (collected : collect env = .ok entries) {v : Variable} (member : v ∈ env)
    (leads : path? v.1 = some way) : (Value.mapping entries).at? way = some (.text v.2) := by
  induction env using List.reverseRecOn generalizing entries with
  | nil => cases member
  | append_singleton env u ih =>
    obtain ⟨before_apart, -, far⟩ := List.pairwise_append.mp apart
    rw [collect_concat] at collected
    cases before : collect env with
    | error fault =>
      rw [before] at collected
      cases collected
    | ok entries =>
      rw [before] at collected
      have added : addVariable entries u = .ok _ := collected
      rw [addVariable] at added
      rcases List.mem_append.mp member with old | new
      · have kept := ih before_apart before old
        split at added
        · cases added
          exact kept
        · next way' leads' =>
          obtain ⟨above, behind⟩ := far v old u (List.mem_singleton_self u) way way' leads leads'
          exact (at?_placed_off added behind above).trans kept
      · rw [← List.mem_singleton.mp new, leads] at added
        exact at?_placed added (path?_ne_nil leads)

def textAt (env : List Variable) (way : List Text) : Option Text :=
  (env.find? fun v => path? v.1 == some way).map Prod.snd

theorem at?_collect_textAt {env : List Variable} (apart : Apart env)
    (collected : collect env = .ok entries) (more : way ≠ [])
    (ends : ∀ v ∈ env, ∀ way', path? v.1 = some way' → way <+: way' → way = way') :
    (Value.mapping entries).at? way = (textAt env way).map .text := by
  rw [textAt]
  cases named : env.find? fun v => path? v.1 == some way with
  | some v =>
    have leads : path? v.1 = some way := by simpa using List.find?_some named
    exact at?_collect apart collected (List.mem_of_find?_eq_some named) leads
  | none =>
    have unnamed : ∀ v ∈ env, path? v.1 ≠ some way := fun v member leads =>
      List.find?_eq_none.mp named v member (beq_iff_eq.mpr leads)
    have gathered := gathered_collect collected
    cases there : (Value.mapping entries).at? way with
    | none => rfl
    | some found =>
      rcases (gathered.nested.at there).text_or_mapping with ⟨t, rfl⟩ | ⟨inner, rfl⟩
      · obtain ⟨v, member, leads, -⟩ := gathered.text way t there
        exact absurd leads (unnamed v member)
      · obtain ⟨v, member, way', leads, starts, short⟩ := gathered.mapping way inner there more
        exact absurd (ends v member way' leads starts) short

end Overrides

end SecretStore
