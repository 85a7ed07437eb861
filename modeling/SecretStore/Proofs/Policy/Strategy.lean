import SecretStore.Policy.Strategy
import SecretStore.Proofs.Policy.Flags
import Mathlib.Data.Finset.SDiff

/-!
What the flags strategy makes of a configuration. The names of the constraint and
of the factors are looked up in this order, and the combinators are compared last.
What is accepted tells its constraint and the set of its names, and nothing more.
-/

namespace SecretStore

namespace Constraint

def Supported (name : Text) : Prop :=
  name = "" ∨ ∃ c : Constraint, c.shortName = name

def fault (name : Text) : Misconfiguration :=
  match replacement? name with
  | some replacement => .deprecatedConstraint name replacement
  | none => .unknownConstraint name

theorem resolve_shortName (c : Constraint) : resolve c.shortName = .ok c := by
  cases c <;> decide

theorem resolve_of_supported {name : Text} (supported : Supported name) :
    ∃ c, resolve name = .ok c := by
  obtain rfl | ⟨c, rfl⟩ := supported
  · exact ⟨standard, by decide⟩
  · exact ⟨c, resolve_shortName c⟩

theorem eq_shortName_of_resolve {name : Text} {c : Constraint} (resolved : resolve name = .ok c) :
    name = c.shortName ∨ name = "" ∧ c = standard := by
  rw [resolve] at resolved
  split at resolved
  · cases resolved
  · split at resolved
    · next empty =>
      cases resolved
      exact .inr ⟨empty, rfl⟩
    · split at resolved
      · next found =>
        cases resolved
        exact .inl (eq_of_beq (List.find?_some found :)).symm
      · cases resolved

theorem resolve_of_not_supported {name : Text} (unsupported : ¬ Supported name) :
    resolve name = .error (fault name) := by
  have named : name ≠ "" := fun empty => unsupported (.inl empty)
  have unknown : ofShortName? name = none := by
    rw [ofShortName?, List.find?_eq_none]
    intro c _ same
    exact unsupported (.inr ⟨c, eq_of_beq same⟩)
  rw [resolve, fault]
  cases replacement? name with
  | some replacement => rfl
  | none => simp only [if_neg named, unknown]

end Constraint

namespace Factor

def Named (name : Text) : Prop :=
  ∃ f : Factor, f.name = name

instance (name : Text) : Decidable (Named name) :=
  decidable_of_iff (ofName? name).isSome (by
    rw [Option.isSome_iff_exists]
    exact exists_congr fun _ => ofName?_eq_some_iff)

theorem ofName?_of_not_named {name : Text} (unknown : ¬ Named name) : ofName? name = none := by
  rw [Option.eq_none_iff_forall_ne_some]
  intro f found
  exact unknown ⟨f, ofName?_eq_some_iff.mp found⟩

theorem exists_factors {names : List Text} (named : ∀ name ∈ names, Named name) :
    ∃ fs : List Factor, fs.map name = names := by
  induction names with
  | nil => exact ⟨[], rfl⟩
  | cons first rest ih =>
    rw [List.forall_mem_cons] at named
    obtain ⟨f, rfl⟩ := named.1
    obtain ⟨fs, rfl⟩ := ih named.2
    exact ⟨f :: fs, rfl⟩

theorem name_mem_iff {f : Factor} {fs : List Factor} : f.name ∈ fs.map name ↔ f ∈ fs :=
  List.mem_map_of_injective name_injective

theorem resolveAll_names (fs : List Factor) : resolveAll (fs.map name) = .ok fs := by
  induction fs with
  | nil => rfl
  | cons f rest ih => simp only [List.map_cons, resolveAll, ofName?_name, ih]

theorem resolveAll_unknown {before : List Text} (known : ∀ name ∈ before, Named name)
    {unknown : Text} (stranger : ¬ Named unknown) (after : List Text) :
    resolveAll (before ++ unknown :: after) = .error (.unknownFactor unknown) := by
  obtain ⟨fs, rfl⟩ := exists_factors known
  clear known
  induction fs with
  | nil => simp only [List.map_nil, List.nil_append, resolveAll, ofName?_of_not_named stranger]
  | cons f rest ih => simp only [List.map_cons, List.cons_append, resolveAll, ofName?_name, ih]

theorem named_or_unknown (names : List Text) : (∀ name ∈ names, Named name) ∨
    ∃ before unknown after, names = before ++ unknown :: after ∧
      (∀ name ∈ before, Named name) ∧ ¬ Named unknown := by
  cases found : names.find? fun name => !decide (Named name) with
  | none =>
    refine .inl fun name member => ?_
    simpa using List.find?_eq_none.mp found name member
  | some unknown =>
    obtain ⟨stranger, before, after, list, known⟩ := List.find?_eq_some_iff_append.mp found
    refine .inr ⟨before, unknown, after, list, fun name member => ?_, by simpa using stranger⟩
    simpa using known name member

theorem isCombinator_iff {f : Factor} : f.isCombinator = true ↔ f.name = "And" ∨ f.name = "Or" := by
  cases f <;> decide

/-- The names of a list that are not those of combinators, each once. -/
def plainNames (names : List Text) : Finset Text :=
  names.toFinset \ {("And" : Text), ("Or" : Text)}

theorem card_plainNames (fs : List Factor) : (plainNames (fs.map name)).card =
    (fs.filter fun f => !f.isCombinator).toFinset.card := by
  have image : plainNames (fs.map name) =
      (fs.filter fun f => !f.isCombinator).toFinset.image name := by
    ext given
    simp only [plainNames, Finset.mem_sdiff, List.mem_toFinset, List.mem_map, Finset.mem_insert,
      Finset.mem_singleton, Finset.mem_image, List.mem_filter, Bool.not_eq_true',
      ← Bool.not_eq_true, isCombinator_iff]
    constructor
    · rintro ⟨⟨f, member, rfl⟩, plain⟩
      exact ⟨f, ⟨member, plain⟩, rfl⟩
    · rintro ⟨f, ⟨member, plain⟩, rfl⟩
      exact ⟨⟨f, member, rfl⟩, plain⟩
  rw [image, Finset.card_image_of_injective _ name_injective]

end Factor

namespace AccessPolicy

theorem size_factors (constraint : Constraint) (fs : List Factor) :
    (AccessPolicy.mk constraint (.ofFactors fs)).factors.size =
      (Factor.plainNames (fs.map Factor.name)).card := by
  rw [factors, Flags.factors_ofFactors, Flags.size_ofFactors, Factor.card_plainNames]

theorem combinator_ofFactors (constraint : Constraint) (fs : List Factor) :
    (AccessPolicy.mk constraint (.ofFactors fs)).combinator =
      if Factor.anyOf ∈ fs then some .any
      else if Factor.allOf ∈ fs then some .all
      else if 1 < (Factor.plainNames (fs.map Factor.name)).card then some .all
      else none := by
  simp only [combinator, Flags.has_ofFactors, size_factors]

end AccessPolicy

namespace Strategy

/-- A configuration whose names mean something and do not contradict each other. -/
structure Accepts (config : KeyringConfig) : Prop where
  constraint : Constraint.Supported config.constraint
  factors : ∀ name ∈ config.controlFlags, Factor.Named name
  combinators : ¬ (("And" : Text) ∈ config.controlFlags ∧ ("Or" : Text) ∈ config.controlFlags)

/-- What is reported of a configuration: its constraint, the first of its factors
that means nothing, or two combinators that contradict each other. -/
inductive Refuses (config : KeyringConfig) : Misconfiguration → Prop
  | constraint (unsupported : ¬ Constraint.Supported config.constraint) :
    Refuses config (Constraint.fault config.constraint)
  | factor {before after : List Text} {unknown : Text}
      (supported : Constraint.Supported config.constraint)
      (list : config.controlFlags = before ++ unknown :: after)
      (known : ∀ name ∈ before, Factor.Named name) (stranger : ¬ Factor.Named unknown) :
    Refuses config (.unknownFactor unknown)
  | combinators (supported : Constraint.Supported config.constraint)
      (known : ∀ name ∈ config.controlFlags, Factor.Named name)
      (both : ("And" : Text) ∈ config.controlFlags ∧ ("Or" : Text) ∈ config.controlFlags) :
    Refuses config .conflictingCombinators

theorem resolve_flags (config : KeyringConfig) : Strategy.flags.resolve config = (do
    let constraint ← Constraint.resolve config.constraint
    let flags ← Flags.resolve config.controlFlags
    if flags.has .allOf && flags.has .anyOf then .error .conflictingCombinators
    else return ⟨constraint, flags⟩) := rfl

variable {config : KeyringConfig} {policy : AccessPolicy}

theorem resolve_unsupported (unsupported : ¬ Constraint.Supported config.constraint) :
    Strategy.flags.resolve config = .error (Constraint.fault config.constraint) := by
  rw [resolve_flags, Constraint.resolve_of_not_supported unsupported]
  rfl

theorem resolve_stranger {before after : List Text} {unknown : Text}
    (supported : Constraint.Supported config.constraint)
    (list : config.controlFlags = before ++ unknown :: after)
    (known : ∀ name ∈ before, Factor.Named name) (stranger : ¬ Factor.Named unknown) :
    Strategy.flags.resolve config = .error (.unknownFactor unknown) := by
  obtain ⟨c, constraint⟩ := Constraint.resolve_of_supported supported
  rw [resolve_flags, constraint, list, Flags.resolve, Factor.resolveAll_unknown known stranger]
  rfl

theorem resolve_named {constraint : Constraint} {fs : List Factor}
    (resolved : Constraint.resolve config.constraint = .ok constraint)
    (names : fs.map Factor.name = config.controlFlags) : Strategy.flags.resolve config =
      if ("And" : Text) ∈ config.controlFlags ∧ ("Or" : Text) ∈ config.controlFlags then
        .error .conflictingCombinators
      else .ok ⟨constraint, .ofFactors fs⟩ := by
  have combinators : ((Flags.ofFactors fs).has .allOf && (Flags.ofFactors fs).has .anyOf) = true ↔
      ("And" : Text) ∈ config.controlFlags ∧ ("Or" : Text) ∈ config.controlFlags := by
    rw [Bool.and_eq_true, Flags.has_ofFactors, Flags.has_ofFactors, ← names]
    exact and_congr Factor.name_mem_iff.symm Factor.name_mem_iff.symm
  rw [resolve_flags, resolved, Flags.resolve, ← names, Factor.resolveAll_names, names]
  exact if_congr combinators rfl rfl

theorem Refuses.resolve {why : Misconfiguration} (refuses : Refuses config why) :
    Strategy.flags.resolve config = .error why := by
  cases refuses with
  | constraint unsupported => exact resolve_unsupported unsupported
  | factor supported list known stranger => exact resolve_stranger supported list known stranger
  | combinators supported known both =>
    obtain ⟨c, resolved⟩ := Constraint.resolve_of_supported supported
    obtain ⟨fs, names⟩ := Factor.exists_factors known
    rw [resolve_named resolved names, if_pos both]

inductive Makes (config : KeyringConfig) : AccessPolicy → Prop
  | named {constraint : Constraint} {fs : List Factor}
      (resolved : Constraint.resolve config.constraint = .ok constraint)
      (names : fs.map Factor.name = config.controlFlags)
      (apart : ¬ (("And" : Text) ∈ config.controlFlags ∧ ("Or" : Text) ∈ config.controlFlags)) :
    Makes config ⟨constraint, .ofFactors fs⟩

theorem Makes.resolve (makes : Makes config policy) :
    Strategy.flags.resolve config = .ok policy := by
  obtain ⟨resolved, names, apart⟩ := makes
  rw [resolve_named resolved names, if_neg apart]

theorem refuses_or_makes (config : KeyringConfig) :
    (∃ why, Refuses config why) ∨ ∃ policy, Makes config policy := by
  by_cases supported : Constraint.Supported config.constraint
  · rcases Factor.named_or_unknown config.controlFlags with
      known | ⟨before, unknown, after, list, known, stranger⟩
    · by_cases both : ("And" : Text) ∈ config.controlFlags ∧ ("Or" : Text) ∈ config.controlFlags
      · exact .inl ⟨_, .combinators supported known both⟩
      · obtain ⟨c, resolved⟩ := Constraint.resolve_of_supported supported
        obtain ⟨fs, names⟩ := Factor.exists_factors known
        exact .inr ⟨_, .named resolved names both⟩
    · exact .inl ⟨_, .factor supported list known stranger⟩
  · exact .inl ⟨_, .constraint supported⟩

theorem makes_iff : Strategy.flags.resolve config = .ok policy ↔ Makes config policy := by
  constructor
  · intro resolved
    rcases refuses_or_makes config with ⟨why, refuses⟩ | ⟨made, makes⟩
    · rw [refuses.resolve] at resolved
      cases resolved
    · rw [makes.resolve] at resolved
      cases resolved
      exact makes
  · exact Makes.resolve

theorem refuses_iff {why : Misconfiguration} :
    Strategy.flags.resolve config = .error why ↔ Refuses config why := by
  constructor
  · intro refused
    rcases refuses_or_makes config with ⟨reason, refuses⟩ | ⟨policy, makes⟩
    · rw [refuses.resolve] at refused
      cases refused
      exact refuses
    · rw [makes.resolve] at refused
      cases refused
  · exact Refuses.resolve

theorem accepts_iff :
    (∃ policy, Strategy.flags.resolve config = .ok policy) ↔ Accepts config := by
  simp only [makes_iff]
  constructor
  · rintro ⟨_, makes⟩
    cases makes with
    | named resolved names apart =>
      refine ⟨?_, ?_, apart⟩
      · by_contra unsupported
        rw [Constraint.resolve_of_not_supported unsupported] at resolved
        cases resolved
      · rw [← names, List.forall_mem_map]
        exact fun f _ => ⟨f, rfl⟩
  · rintro ⟨supported, known, apart⟩
    obtain ⟨c, resolved⟩ := Constraint.resolve_of_supported supported
    obtain ⟨fs, names⟩ := Factor.exists_factors known
    exact ⟨_, .named resolved names apart⟩

theorem Makes.apart (makes : Makes config policy) :
    ¬ (("And" : Text) ∈ config.controlFlags ∧ ("Or" : Text) ∈ config.controlFlags) := by
  obtain ⟨-, -, apart⟩ := makes
  exact apart

theorem Makes.constraint (makes : Makes config policy) :
    Constraint.resolve config.constraint = .ok policy.constraint := by
  obtain ⟨resolved, -, -⟩ := makes
  exact resolved

theorem Makes.has_iff (makes : Makes config policy) (f : Factor) :
    policy.flags.has f = true ↔ f.name ∈ config.controlFlags := by
  obtain ⟨-, names, -⟩ := makes
  rw [← names, Factor.name_mem_iff]
  exact Flags.has_ofFactors _ f

theorem Makes.size (makes : Makes config policy) :
    policy.factors.size = (Factor.plainNames config.controlFlags).card := by
  obtain ⟨-, names, -⟩ := makes
  rw [AccessPolicy.size_factors, names]

theorem Makes.combinator (makes : Makes config policy) : policy.combinator =
      if ("Or" : Text) ∈ config.controlFlags then some .any
      else if ("And" : Text) ∈ config.controlFlags then some .all
      else if 1 < (Factor.plainNames config.controlFlags).card then some .all
      else none := by
  obtain ⟨-, names, -⟩ := makes
  rw [AccessPolicy.combinator_ofFactors, ← names]
  exact if_congr Factor.name_mem_iff.symm rfl (if_congr Factor.name_mem_iff.symm rfl rfl)

theorem Makes.combinator_any_iff (makes : Makes config policy) :
    policy.combinator = some .any ↔ ("Or" : Text) ∈ config.controlFlags := by
  rw [makes.combinator]
  by_cases any : ("Or" : Text) ∈ config.controlFlags
  · rw [if_pos any]
    exact iff_of_true rfl any
  · rw [if_neg any]
    exact iff_of_false (by split_ifs <;> nofun) any

theorem Makes.combinator_all_iff (makes : Makes config policy) : policy.combinator = some .all ↔
      ("And" : Text) ∈ config.controlFlags ∨
        ("Or" : Text) ∉ config.controlFlags ∧ 2 ≤ (Factor.plainNames config.controlFlags).card := by
  have apart := makes.apart
  rw [makes.combinator]
  split_ifs with any all several
  · refine iff_of_false nofun ?_
    rintro (all | ⟨other, -⟩)
    · exact apart ⟨all, any⟩
    · exact other any
  · exact iff_of_true rfl (.inl all)
  · exact iff_of_true rfl (.inr ⟨any, several⟩)
  · refine iff_of_false nofun ?_
    rintro (named | ⟨-, two⟩)
    · exact all named
    · exact several two

theorem Makes.same_iff {other : KeyringConfig} {policy' : AccessPolicy}
    (makes : Makes config policy) (makes' : Makes other policy') : policy = policy' ↔
      Constraint.resolve config.constraint = Constraint.resolve other.constraint ∧
        ∀ name, name ∈ config.controlFlags ↔ name ∈ other.controlFlags := by
  cases makes with
  | named resolved names apart =>
    cases makes' with
    | named resolved' names' apart' =>
      rw [AccessPolicy.mk.injEq, Flags.ofFactors_eq_iff, resolved, resolved', Except.ok.injEq,
        ← names, ← names']
      refine and_congr_right fun _ => ⟨fun same name => ?_, fun same f => ?_⟩
      · simp only [List.mem_map, same]
      · have mapped := same f.name
        rwa [Factor.name_mem_iff, Factor.name_mem_iff] at mapped

end Strategy

/-- What the flags strategy makes of any configuration. It accepts those whose constraint
and factors have names that mean something and which do not name both combinators; what it
reports of another is the first thing that is wrong with it. The policy has the constraint
and the factors that are named, one bit for each different factor, and is the same for two
configurations exactly if their constraints mean the same and they have the same names.
Several factors without a combinator are combined as if the name And had been given. -/
theorem flag_policies_tell_names (config : KeyringConfig) :
    ((∃ policy, Strategy.flags.resolve config = .ok policy) ↔ Strategy.Accepts config) ∧
    (∀ why, Strategy.flags.resolve config = .error why ↔ Strategy.Refuses config why) ∧
    ∀ policy, Strategy.flags.resolve config = .ok policy →
      Constraint.resolve config.constraint = .ok policy.constraint ∧
      (config.constraint = policy.constraint.shortName ∨
        config.constraint = "" ∧ policy.constraint = .standard) ∧
      (∀ f, policy.flags.has f = true ↔ f.name ∈ config.controlFlags) ∧
      policy.factors.size = (Factor.plainNames config.controlFlags).card ∧
      (policy.combinator = some .any ↔ ("Or" : Text) ∈ config.controlFlags) ∧
      (policy.combinator = some .all ↔ ("And" : Text) ∈ config.controlFlags ∨
        ("Or" : Text) ∉ config.controlFlags ∧ 2 ≤ (Factor.plainNames config.controlFlags).card) ∧
      ∀ other policy', Strategy.flags.resolve other = .ok policy' →
        (policy = policy' ↔
          Constraint.resolve config.constraint = Constraint.resolve other.constraint ∧
            ∀ name, name ∈ config.controlFlags ↔ name ∈ other.controlFlags) := by
  refine ⟨Strategy.accepts_iff, fun _ => Strategy.refuses_iff, fun policy resolved => ?_⟩
  have makes := Strategy.makes_iff.mp resolved
  exact ⟨makes.constraint, Constraint.eq_shortName_of_resolve makes.constraint, makes.has_iff,
    makes.size, makes.combinator_any_iff, makes.combinator_all_iff,
    fun other policy' resolved' => makes.same_iff (Strategy.makes_iff.mp resolved')⟩

theorem flag_policies_tell_names_reordered :
    let given : KeyringConfig := { controlFlags := ["Watch", "Or", "BiometryAny", "Watch"] }
    let other : KeyringConfig :=
      { controlFlags := ["Or", "BiometryAny", "Watch"]
        constraint := "WhenUnlockedThisDeviceOnly" }
    ∃ policy, Strategy.flags.resolve given = .ok policy ∧
      Strategy.flags.resolve other = .ok policy ∧
      policy.factors.size = 2 ∧ policy.combinator = some .any ∧
      Constraint.resolve given.constraint = Constraint.resolve other.constraint := by
  intro given other
  have resolved : Strategy.flags.resolve given =
      .ok ⟨.whenUnlockedThisDeviceOnly, ⟨0x4022⟩⟩ := by decide
  have resolved' : Strategy.flags.resolve other =
      .ok ⟨.whenUnlockedThisDeviceOnly, ⟨0x4022⟩⟩ := by decide
  obtain ⟨-, -, -, size, any, -, same⟩ := (flag_policies_tell_names given).2.2 _ resolved
  exact ⟨_, resolved, resolved', size.trans (by decide), any.mpr (by decide),
    ((same other _ resolved').mp rfl).1⟩

end SecretStore
