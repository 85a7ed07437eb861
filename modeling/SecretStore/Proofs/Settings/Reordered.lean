import SecretStore.Proofs.Settings.Overrides

/-!
Values up to the order of the entries in mappings. Two nests of texts are the same up to
order exactly if every way leads to the same text in both, or to a mapping in both, or
to nothing in both.
-/

namespace SecretStore.Value

variable {v w : Value} {entries entries' : List (Value × Value)} {name : Text}
  {way : List Text}

/-- The entries of mappings stand in another order, at any depth. -/
inductive Reordered : Value → Value → Prop
  | refl (v : Value) : Reordered v v
  | entry {key v w : Value} {others others' : List (Value × Value)} (first : Reordered v w)
      (rest : Reordered (.mapping others) (.mapping others')) :
      Reordered (.mapping ((key, v) :: others)) (.mapping ((key, w) :: others'))
  | swap (a b : Value × Value) (others : List (Value × Value)) :
      Reordered (.mapping (a :: b :: others)) (.mapping (b :: a :: others))
  | trans {u v w : Value} (front : Reordered u v) (back : Reordered v w) : Reordered u w

theorem Reordered.symm (same : Reordered v w) : Reordered w v := by
  induction same with
  | refl v => exact .refl v
  | entry _ _ first rest => exact .entry first rest
  | swap a b others => exact .swap b a others
  | trans _ _ front back => exact back.trans front

theorem Reordered.of_perm (perm : entries.Perm entries') :
    Reordered (.mapping entries) (.mapping entries') := by
  induction perm with
  | nil => exact .refl _
  | cons a _ rest => exact .entry (.refl a.2) rest
  | swap a b others => exact .swap b a others
  | trans _ _ front back => exact front.trans back

theorem lookup_cons_text (name other : Text) (v : Value) (entries : List (Value × Value)) :
    lookup (.text other) ((.text name, v) :: entries) =
      if name = other then some v else lookup (.text other) entries := by
  simp only [lookup, sameKey_text, beq_iff_eq]

def text? : Value → Option Text
  | .text t => some t
  | _ => none

/-- What a way leads to, so far as it is seen without going further: nothing, a text, or
something else. -/
def seen (v : Value) (way : List Text) : Option (Option Text) :=
  (v.at? way).map text?

theorem seen_cons (v : Value) (name : Text) (way : List Text) :
    v.seen (name :: way) = (v.field? name).bind fun inner => inner.seen way := by
  rw [seen, at?, Option.map_bind]
  rfl

theorem seen_mapping_cons (name : Text) (v : Value) (first : Text) (way : List Text) :
    (Value.mapping ((.text name, v) :: entries)).seen (first :: way) =
      if name = first then v.seen way else (Value.mapping entries).seen (first :: way) := by
  rw [seen_cons, seen_cons, field?, field?, lookup_cons_text]
  split <;> rfl

theorem seen_mapping_ext (same : ∀ first way, (Value.mapping entries).seen (first :: way) =
    (Value.mapping entries').seen (first :: way)) :
    (Value.mapping entries).seen = (Value.mapping entries').seen := by
  funext way
  cases way with
  | nil => rfl
  | cons first way => exact same first way

theorem seen_eq_none :
    (Value.mapping entries).seen [name] = none ↔ lookup (.text name) entries = none := by
  rw [seen, at?_single, field?, Option.map_eq_none_iff]

theorem seen_text {t : Text} : v.seen way = some (some t) ↔ v.at? way = some (.text t) := by
  rw [seen, Option.map_eq_some_iff]
  constructor
  · rintro ⟨u, leads, same⟩
    cases u <;> cases same
    exact leads
  · exact fun leads => ⟨_, leads, rfl⟩

theorem Nested.seen_mapping (nested : Nested v) :
    v.seen way = some none ↔ ∃ inner, v.at? way = some (.mapping inner) := by
  rw [seen, Option.map_eq_some_iff]
  constructor
  · rintro ⟨u, leads, same⟩
    rcases (nested.at leads).text_or_mapping with ⟨t, rfl⟩ | ⟨inner, rfl⟩
    · cases same
    · exact ⟨inner, leads⟩
  · exact fun ⟨inner, leads⟩ => ⟨_, leads, rfl⟩

theorem Nested.front (nested : Nested (.mapping entries))
    (there : lookup (.text name) entries = some v) :
    ∃ others, Nested (.mapping others) ∧ entries.Perm ((.text name, v) :: others) ∧
      ∀ other, lookup (.text other) others =
        if name = other then none else lookup (.text other) entries := by
  generalize whole : Value.mapping entries = m at nested
  induction nested generalizing entries with
  | text t => cases whole
  | nil =>
    cases whole
    cases there
  | @cons first w rest new inside nested _ ih =>
    cases whole
    rw [lookup_cons_text] at there
    by_cases same : first = name
    · subst same
      rw [if_pos rfl] at there
      cases there
      refine ⟨rest, nested, .refl _, fun other => ?_⟩
      rw [lookup_cons_text]
      by_cases again : first = other
      · rw [if_pos again, ← again, new]
      · rw [if_neg again, if_neg again]
    · rw [if_neg same] at there
      obtain ⟨others, nested', perm, kept⟩ := ih there rfl
      refine ⟨(.text first, w) :: others, .cons ?_ inside nested',
        (perm.cons _).trans (.swap _ _ _), fun other => ?_⟩
      · rw [kept, if_neg fun eq => same eq.symm, new]
      · rw [lookup_cons_text, lookup_cons_text, kept]
        by_cases again : first = other
        · rw [if_pos again, if_pos again, if_neg fun eq => same (again.trans eq.symm)]
        · rw [if_neg again, if_neg again]

theorem Nested.reordered (nested : Nested v) (nested' : Nested w) (same : v.seen = w.seen) :
    Reordered v w := by
  induction nested generalizing w with
  | text t =>
    cases seen_text.mp (congrFun same []).symm
    exact .refl _
  | nil =>
    obtain ⟨inner, ⟨⟩⟩ := nested'.seen_mapping.mp (congrFun same []).symm
    cases nested' with
    | nil => exact .refl _
    | @cons name v rest =>
      have first := congrFun same [name]
      rw [seen_mapping_cons, if_pos rfl] at first
      cases first
  | @cons name v rest new first nested ihFirst ihRest =>
    obtain ⟨inner, ⟨⟩⟩ := nested'.seen_mapping.mp (congrFun same []).symm
    have under (other : Text) (way : List Text) := congrFun same (other :: way)
    simp only [seen_mapping_cons] at under
    have there : ∃ x, lookup (.text name) inner = some x := by
      refine Option.ne_none_iff_exists'.mp fun absent => ?_
      have top := under name []
      rw [if_pos rfl, seen_eq_none.mpr absent] at top
      cases top
    obtain ⟨x, there⟩ := there
    -- The entry of the same name is taken to the front of the other mapping.
    obtain ⟨others, nested'', perm, kept⟩ := nested'.front there
    have same_first : v.seen = x.seen := by
      funext way
      have both := under name way
      rwa [if_pos rfl, seen_cons, field?, there] at both
    have same_rest : (Value.mapping rest).seen = (Value.mapping others).seen := by
      refine seen_mapping_ext fun other way => ?_
      by_cases again : name = other
      · rw [seen_cons, seen_cons, field?, field?, kept, if_pos again, ← again, new]
      · have both := under other way
        rw [if_neg again] at both
        rw [both, seen_cons, seen_cons, field?, field?, kept, if_neg again]
    exact (Reordered.entry (ihFirst (nested'.field there) same_first)
      (ihRest nested'' same_rest)).trans (Reordered.of_perm perm).symm

theorem Reordered.nested (same : Reordered v w) (nested : Nested v) :
    Nested w ∧ v.seen = w.seen := by
  induction same with
  | refl v => exact ⟨nested, rfl⟩
  | entry _ _ ihFirst ihRest =>
    cases nested with
    | @cons name _ _ new inside nested =>
      obtain ⟨inside', first⟩ := ihFirst inside
      obtain ⟨nested', rest⟩ := ihRest nested
      have absent := seen_eq_none.mp (congrFun rest [name] ▸ seen_eq_none.mpr new)
      refine ⟨.cons absent inside' nested', seen_mapping_ext fun other way => ?_⟩
      rw [seen_mapping_cons, seen_mapping_cons, first, rest]
  | swap a b others =>
    cases nested with
    | @cons name _ _ new inside nested =>
      cases nested with
      | @cons other _ _ new' inside' nested =>
        rw [lookup_cons_text] at new
        split at new
        · cases new
        · next apart =>
          refine ⟨.cons ?_ inside' (.cons new inside nested), seen_mapping_ext fun first way => ?_⟩
          · rw [lookup_cons_text, if_neg fun same => apart same.symm, new']
          · simp only [seen_mapping_cons]
            by_cases same : name = first
            · rw [if_pos same, if_neg fun eq => apart (eq.trans same.symm), if_pos same]
            · rw [if_neg same, if_neg same]
  | trans _ _ front back =>
    obtain ⟨middle, first⟩ := front nested
    obtain ⟨last, second⟩ := back middle
    exact ⟨last, first.trans second⟩

theorem Nested.reordered_iff (nested : Nested v) (nested' : Nested w) :
    Reordered v w ↔ v.seen = w.seen :=
  ⟨fun same => (same.nested nested).2, nested.reordered nested'⟩

end SecretStore.Value
