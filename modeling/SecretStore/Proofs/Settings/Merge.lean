import SecretStore.Proofs.Settings.Overlay
import SecretStore.Proofs.Settings.Overrides

/-!
What the merge of a mapping with a nest of texts holds. Under a way of two names stands
the upper text, or else what the lower mapping has.
-/

namespace SecretStore.Value

variable {lower upper : List (Value × Value)}

theorem Nested.keyed {v : Value} (nested : Nested v) : Keyed v := by
  induction nested with
  | text t => exact .other nofun
  | nil => exact .mapping trivial nofun
  | cons new _ _ first rest =>
    exact .mapping ⟨beq_self_eq_true _, new, rest.distinct⟩
      (List.forall_mem_cons.mpr ⟨first, rest.within⟩)

theorem at?_mergeEntries {heading name : Text} (nested : Nested (.mapping upper))
    (sections : ∀ v, lookup (.text heading) lower = some v → ∃ inner, v = .mapping inner)
    (headed : ∀ t, (Value.mapping upper).at? [heading] ≠ some (.text t))
    (flat : ∀ inner, (Value.mapping upper).at? [heading, name] ≠ some (.mapping inner)) :
    (Value.mapping (mergeEntries lower upper)).at? [heading, name] =
      ((Value.mapping upper).at? [heading, name]).or
        ((Value.mapping lower).at? [heading, name]) := by
  have step (entries : List (Value × Value)) : (Value.mapping entries).at? [heading, name] =
      (lookup (.text heading) entries).bind fun v => v.field? name := by
    rw [at?, field?]
    exact congrArg _ (funext fun v => at?_single v name)
  rw [at?_single, field?] at headed
  simp only [step] at flat ⊢
  rw [lookup_merge nested.keyed.distinct]
  cases above : lookup (.text heading) upper with
  | none => rfl
  | some v =>
    rw [above] at headed flat
    have inside : Nested v := nested.field above
    rcases inside.text_or_mapping with ⟨t, rfl⟩ | ⟨inner, rfl⟩
    · exact absurd rfl (headed t)
    · cases below : lookup (.text heading) lower with
      | none => simp only [mergeValue_none, Option.bind_none, Option.or_none]
      | some w =>
        obtain ⟨under, rfl⟩ := sections w below
        simp only [Option.bind_some, mergeValue, field?,
          lookup_merge inside.keyed.distinct] at flat ⊢
        cases there : lookup (.text name) inner with
        | none => rfl
        | some v =>
          rcases (inside.field there).text_or_mapping with ⟨t, rfl⟩ | ⟨deeper, rfl⟩
          · have plain (entries : List (Value × Value)) : Value.text t ≠ .mapping entries := by
              rintro ⟨⟩
            exact congrArg some (mergeValue_other plain _)
          · exact absurd there (flat deeper)

end SecretStore.Value
