import SecretStore.Proofs.Json.Value

/-!
The order of fields. Putting the fields of every object in the order of their
names changes no lookup where names are different, keeps plain values plain,
joins no text, and opens no further level.
-/

namespace SecretStore.Json

theorem names_insertSorted (field : Text × Json) (fields : List (Text × Json)) :
    ((insertSorted field fields).map Prod.fst).Perm (field.1 :: fields.map Prod.fst) := by
  induction fields with
  | nil => exact .refl _
  | cons other rest ih =>
    rw [insertSorted]
    split
    · exact .refl _
    · exact (ih.cons other.1).trans (.swap _ _ _)

theorem names_sortedFields (fields : List (Text × Json)) :
    ((sortedFields fields).map Prod.fst).Perm (fields.map Prod.fst) := by
  induction fields with
  | nil => exact .refl _
  | cons field rest ih =>
    obtain ⟨name, value⟩ := field
    exact (names_insertSorted (name, sorted value) (sortedFields rest)).trans (ih.cons name)

theorem lookup_insertSorted {name n : Text} {value : Json} {fields : List (Text × Json)}
    (fresh : n ∉ fields.map Prod.fst) :
    lookup name (insertSorted (n, value) fields) =
      if n = name then some value else lookup name fields := by
  induction fields with
  | nil => rfl
  | cons other rest ih =>
    obtain ⟨m, w⟩ := other
    rw [List.map_cons, List.mem_cons, not_or] at fresh
    rw [insertSorted]
    split
    · rfl
    · rw [lookup, ih fresh.2, lookup]
      by_cases same : m = name
      · have differ : n ≠ name := fun eq => fresh.1 (eq.trans same.symm)
        rw [if_pos same, if_neg differ, if_pos same]
      · rw [if_neg same, if_neg same]

theorem lookup_sortedFields {fields : List (Text × Json)}
    (distinct : (fields.map Prod.fst).Nodup) (name : Text) :
    lookup name (sortedFields fields) = (lookup name fields).map sorted := by
  induction fields with
  | nil => rfl
  | cons field rest ih =>
    obtain ⟨n, value⟩ := field
    rw [List.map_cons, List.nodup_cons] at distinct
    have fresh : n ∉ (sortedFields rest).map Prod.fst := fun member =>
      distinct.1 ((names_sortedFields rest).mem_iff.mp member)
    rw [sortedFields, lookup_insertSorted fresh, ih distinct.2, lookup]
    split <;> rfl

theorem fieldsPlain_insertSorted {field : Text × Json} {fields : List (Text × Json)}
    (apart : field.1.Unpaired) (plain : field.2.IsPlain) (others : FieldsPlain fields) :
    FieldsPlain (insertSorted field fields) := by
  induction fields with
  | nil => exact ⟨apart, plain, trivial⟩
  | cons other rest ih =>
    rw [insertSorted]
    split
    · exact ⟨apart, plain, others⟩
    · exact ⟨others.1, others.2.1, ih others.2.2⟩

mutual

theorem isPlain_sorted : ∀ (j : Json), j.IsPlain → j.sorted.IsPlain
  | .null, plain | .bool _, plain | .int _, plain | .str _, plain | .float _, plain => plain
  | .arr items, plain => arePlain_sorted items plain
  | .obj fields, plain =>
    ⟨(names_sortedFields fields).nodup_iff.mpr plain.1, fieldsPlain_sorted fields plain.2⟩

theorem arePlain_sorted : ∀ (items : List Json), ArePlain items → ArePlain (sortedItems items)
  | [], _ => trivial
  | item :: rest, plain => ⟨isPlain_sorted item plain.1, arePlain_sorted rest plain.2⟩

theorem fieldsPlain_sorted : ∀ (fields : List (Text × Json)), FieldsPlain fields →
    FieldsPlain (sortedFields fields)
  | [], _ => trivial
  | (_, value) :: rest, plain => fieldsPlain_insertSorted plain.1 (isPlain_sorted value plain.2.1)
    (fieldsPlain_sorted rest plain.2.2)

end

theorem joinedFields_insertSorted (name : Text) (value : Json) (fields : List (Text × Json)) :
    joinedFields (insertSorted (name, value) fields) =
      insertSorted (name, value.joined) (joinedFields fields) := by
  induction fields with
  | nil => rfl
  | cons other rest ih =>
    rw [insertSorted, joinedFields, insertSorted]
    split
    · rfl
    · rw [joinedFields, ih]

mutual

theorem joined_sorted : ∀ (j : Json), j.sorted.joined = j.joined.sorted
  | .null | .bool _ | .int _ | .str _ | .float _ => rfl
  | .arr items => congrArg arr (joinedItems_sorted items)
  | .obj fields => congrArg obj (joinedFields_sorted fields)

theorem joinedItems_sorted : ∀ (items : List Json),
    joinedItems (sortedItems items) = sortedItems (joinedItems items)
  | [] => rfl
  | item :: rest => congrArg₂ List.cons (joined_sorted item) (joinedItems_sorted rest)

theorem joinedFields_sorted : ∀ (fields : List (Text × Json)),
    joinedFields (sortedFields fields) = sortedFields (joinedFields fields)
  | [] => rfl
  | (name, value) :: rest => by
    rw [sortedFields, joinedFields_insertSorted, joined_sorted value, joinedFields_sorted rest,
      joinedFields, sortedFields]

end

theorem fieldsDepth_insertSorted (name : Text) (value : Json) (fields : List (Text × Json)) :
    fieldsDepth (insertSorted (name, value) fields) = max value.depth (fieldsDepth fields) := by
  induction fields with
  | nil => rfl
  | cons other rest ih =>
    rw [insertSorted]
    split
    · rfl
    · rw [fieldsDepth, ih, fieldsDepth, Nat.max_left_comm]

mutual

theorem depth_sorted : ∀ (j : Json), j.sorted.depth = j.depth
  | .null | .bool _ | .int _ | .str _ | .float _ => rfl
  | .arr items => congrArg (· + 1) (itemsDepth_sorted items)
  | .obj fields => congrArg (· + 1) (fieldsDepth_sorted fields)

theorem itemsDepth_sorted : ∀ (items : List Json), itemsDepth (sortedItems items) = itemsDepth items
  | [] => rfl
  | item :: rest => congrArg₂ max (depth_sorted item) (itemsDepth_sorted rest)

theorem fieldsDepth_sorted : ∀ (fields : List (Text × Json)),
    fieldsDepth (sortedFields fields) = fieldsDepth fields
  | [] => rfl
  | (name, value) :: rest => by
    rw [sortedFields, fieldsDepth_insertSorted, depth_sorted value, fieldsDepth_sorted rest,
      fieldsDepth]

end

end SecretStore.Json
