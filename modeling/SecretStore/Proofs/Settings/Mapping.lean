import Mathlib.Data.Sum.Basic
import SecretStore.Value

/-!
Mappings by their keys. Being the same key is symmetric and transitive, so an entry is
found under any key that is the same as its own, and setting an entry changes what is
found there alone. A mapping that is built entry by entry has no two keys that are the
same, at any depth. A way of keys leads into a value, mapping by mapping.
-/

namespace SecretStore

namespace Moment

theorem same_symm {m n : Moment} (same : m.same n = true) : n.same m = true := by
  rw [Moment.same] at same ⊢
  rcases first : m.offset with _ | d <;> rcases second : n.offset with _ | e <;>
    simp_all

theorem same_trans {l m n : Moment} (first : l.same m = true) (second : m.same n = true) :
    l.same n = true := by
  rw [Moment.same] at first second ⊢
  rcases one : l.offset with _ | d <;> rcases two : m.offset with _ | e <;>
    rcases three : n.offset with _ | f <;> simp_all

end Moment

namespace Value

variable {a b key v w : Value} {entries : List (Value × Value)} {way : List Value}

theorem number?_float (x : Binary64) : number? (.float x) ≠ none := by
  rw [number?]
  split <;> exact Option.some_ne_none _

theorem beq_number (x y : Int ⊕ Binary64) : (x == y) = true ↔ y = x := by
  rcases x with m | x <;> rcases y with n | y
  · exact (beq_iff_eq (a := m) (b := n)).trans (eq_comm.trans Sum.inl_injective.eq_iff.symm)
  · exact ⟨nofun, nofun⟩
  · exact ⟨nofun, nofun⟩
  · exact (beq_iff_eq (a := x) (b := y)).trans (eq_comm.trans Sum.inr_injective.eq_iff.symm)

theorem sameKey_number {x : Int ⊕ Binary64} (counts : a.number? = some x) :
    a.sameKey b = true ↔ b.number? = some x := by
  rw [sameKey.eq_def]
  split
  · cases counts
  · cases counts
  · cases counts
  · cases counts
  · cases counts
  · rw [counts]
    cases b.number? with
    | none => simp
    | some y => exact (beq_number x y).trans Option.some_inj.symm

inductive Alike : Value → Value → Prop
  | number {a b : Value} (x : Int ⊕ Binary64) (first : a.number? = some x)
      (second : b.number? = some x) : Alike a b
  | moment {m n : Moment} (same : m.same n = true) : Alike (.moment m) (.moment n)
  | refl (a : Value) : Alike a a

theorem alike_of_sameKey (same : a.sameKey b = true) : Alike a b := by
  cases counts : a.number? with
  | some x => exact .number x counts ((sameKey_number counts).mp same)
  | none =>
    cases a with
    | bool b | int n => cases counts
    | float x => exact absurd counts (number?_float x)
    | null => cases b <;> first | exact .refl _ | cases same
    | text s | bytes bs | date d =>
      cases b <;> first | cases same | (cases eq_of_beq same; exact .refl _)
    | moment m =>
      cases b with
      | moment n => exact .moment same
      | _ => cases same
    | list items | tuple items | set items | mapping inner => cases same

theorem sameKey_symm (same : a.sameKey b = true) : b.sameKey a = true := by
  cases alike_of_sameKey same with
  | number x first second => exact (sameKey_number second).mpr first
  | refl => exact same
  | moment same => exact Moment.same_symm same

theorem sameKey_trans {c : Value} (first : a.sameKey b = true) (second : b.sameKey c = true) :
    a.sameKey c = true := by
  cases alike_of_sameKey first with
  | number x one two => exact (sameKey_number one).mpr ((sameKey_number two).mp second)
  | refl => exact second
  | moment same =>
    cases alike_of_sameKey second with
    | number x one two => cases one
    | refl => exact first
    | moment same' => exact Moment.same_trans same same'

theorem sameKey_congr (same : a.sameKey b = true) (c : Value) : a.sameKey c = b.sameKey c :=
  Bool.eq_iff_iff.mpr ⟨sameKey_trans (sameKey_symm same), sameKey_trans same⟩

theorem sameKey_congr_right (same : a.sameKey b = true) (c : Value) :
    c.sameKey a = c.sameKey b :=
  Bool.eq_iff_iff.mpr ⟨fun first => sameKey_trans first same,
    fun first => sameKey_trans first (sameKey_symm same)⟩

theorem lookup_congr (same : a.sameKey b = true) (entries : List (Value × Value)) :
    lookup a entries = lookup b entries := by
  induction entries with
  | nil => rfl
  | cons entry rest ih => rw [lookup, lookup, sameKey_congr_right same, ih]

theorem lookup_insert_key (key other : Value) (v : Value) (entries : List (Value × Value)) :
    lookup key (insert other v entries) =
      if other.sameKey key then some v else lookup key entries := by
  induction entries with
  | nil => rfl
  | cons entry rest ih =>
    obtain ⟨k, w⟩ := entry
    rw [insert]
    by_cases old : k.sameKey other = true
    · rw [if_pos old, lookup, lookup, sameKey_congr old]
      split <;> rfl
    · rw [if_neg old, lookup, lookup, ih]
      by_cases same : other.sameKey key = true
      · have apart : k.sameKey key ≠ true := fun also =>
          old (sameKey_trans also (sameKey_symm same))
        rw [if_neg apart, if_pos same, if_pos same]
      · rw [if_neg same, if_neg same]

theorem insert_lookup (there : lookup key entries = some v) : insert key v entries = entries := by
  induction entries with
  | nil => cases there
  | cons entry rest ih =>
    obtain ⟨k, w⟩ := entry
    rw [lookup] at there
    rw [insert]
    split at there
    · next same =>
      cases there
      rw [if_pos same]
    · next other => rw [if_neg other, ih there]

theorem insert_new (new : lookup key entries = none) (v : Value) :
    insert key v entries = entries ++ [(key, v)] := by
  induction entries with
  | nil => rfl
  | cons entry rest ih =>
    obtain ⟨k, w⟩ := entry
    rw [lookup] at new
    rw [insert]
    split at new
    · cases new
    · next other => rw [if_neg other, ih new, List.cons_append]

def Distinct : List (Value × Value) → Prop
  | [] => True
  | (key, _) :: rest => key.sameKey key = true ∧ lookup key rest = none ∧ Distinct rest

theorem lookup_of_mem (distinct : Distinct entries) (member : (key, v) ∈ entries) :
    lookup key entries = some v := by
  induction entries with
  | nil => cases member
  | cons entry rest ih =>
    obtain ⟨k, w⟩ := entry
    obtain ⟨itself, new, distinct⟩ := distinct
    rw [lookup]
    rcases List.mem_cons.mp member with first | later
    · cases first
      rw [if_pos itself]
    · have there := ih distinct later
      have apart : k.sameKey key ≠ true := fun same => by
        rw [lookup_congr same, there] at new
        cases new
      rw [if_neg apart, there]

theorem mem_of_lookup (there : lookup key entries = some v) : ∃ k, (k, v) ∈ entries := by
  induction entries with
  | nil => cases there
  | cons entry rest ih =>
    obtain ⟨k, w⟩ := entry
    rw [lookup] at there
    split at there
    · cases there
      exact ⟨k, List.mem_cons_self⟩
    · obtain ⟨k', later⟩ := ih there
      exact ⟨k', List.mem_cons_of_mem _ later⟩

theorem Distinct.insert (distinct : Distinct entries) (itself : key.sameKey key = true) :
    Distinct (insert key v entries) := by
  induction entries with
  | nil => exact ⟨itself, rfl, trivial⟩
  | cons entry rest ih =>
    obtain ⟨k, w⟩ := entry
    obtain ⟨first, new, distinct⟩ := distinct
    rw [Value.insert]
    split
    · exact ⟨first, new, distinct⟩
    · next apart =>
      refine ⟨first, ?_, ih distinct⟩
      rw [lookup_insert_key, if_neg fun same => apart (sameKey_symm same), new]

theorem Distinct.itself (distinct : Distinct entries) (member : (key, v) ∈ entries) :
    key.sameKey key = true := by
  induction entries with
  | nil => cases member
  | cons entry rest ih =>
    obtain ⟨first, -, distinct⟩ := distinct
    rcases List.mem_cons.mp member with rfl | later
    · exact first
    · exact ih distinct later

/-- A value whose mappings, at any depth, have keys that differ. -/
inductive Keyed : Value → Prop
  | other {v : Value} (other : ∀ entries, v ≠ .mapping entries) : Keyed v
  | mapping {entries : List (Value × Value)} (distinct : Distinct entries)
      (within : ∀ e ∈ entries, Keyed e.2) : Keyed (.mapping entries)

theorem Keyed.distinct (keyed : Keyed (.mapping entries)) : Distinct entries := by
  cases keyed with
  | other other => exact absurd rfl (other entries)
  | mapping distinct within => exact distinct

theorem Keyed.within (keyed : Keyed (.mapping entries)) : ∀ e ∈ entries, Keyed e.2 := by
  cases keyed with
  | other other => exact absurd rfl (other entries)
  | mapping distinct within => exact within

theorem Keyed.entry (keyed : Keyed (.mapping entries)) (there : lookup key entries = some v) :
    Keyed v := by
  obtain ⟨k, member⟩ := mem_of_lookup there
  exact keyed.within _ member

theorem mem_insert {e : Value × Value} (member : e ∈ insert key v entries) :
    e.2 = v ∨ e ∈ entries := by
  induction entries with
  | nil => exact .inl (congrArg Prod.snd (List.mem_singleton.mp member))
  | cons entry rest ih =>
    rw [insert] at member
    split at member <;> rcases List.mem_cons.mp member with rfl | later
    · exact .inl rfl
    · exact .inr (List.mem_cons_of_mem _ later)
    · exact .inr List.mem_cons_self
    · exact (ih later).imp_right (List.mem_cons_of_mem _)

theorem Keyed.insert (keyed : Keyed (.mapping entries)) (itself : key.sameKey key = true)
    (new : Keyed v) : Keyed (.mapping (insert key v entries)) := by
  refine .mapping (keyed.distinct.insert itself) fun e member => ?_
  rcases mem_insert member with same | old
  · exact same ▸ new
  · exact keyed.within e old

def entry? : Value → Value → Option Value
  | .mapping entries, key => lookup key entries
  | _, _ => none

def follow? (v : Value) (way : List Value) : Option Value :=
  way.foldlM entry? v

theorem follow?_cons (entries : List (Value × Value)) (key : Value) (way : List Value) :
    (Value.mapping entries).follow? (key :: way) =
      (lookup key entries).bind fun inner => inner.follow? way := rfl

theorem follow?_other (other : ∀ inner, v ≠ .mapping inner) (leads : v.follow? way = some w) :
    way = [] := by
  cases way with
  | nil => rfl
  | cons key way =>
    cases v with
    | mapping inner => exact absurd rfl (other inner)
    | _ => cases leads

end Value

end SecretStore
