import SecretStore.Proofs.Files.Tree

/-!
What is above a path. A walk to a path comes through the directory above it, so
where that directory cannot be made, no file is found behind it.
-/

namespace SecretStore

namespace FilePath

theorem nameBytes_eq {name : Text} (each : ∀ q ∈ name.points, Text.namePointBytes? q ≠ none) :
    nameBytes name = name.points.flatMap fun q => (Text.namePointBytes? q).getD [] := by
  obtain ⟨bs, encoded⟩ := Text.encodeBy_ok_iff.mpr each
  rw [nameBytes, Text.encodeName, encoded]
  exact Text.bytes_encodeBy encoded

theorem intercalate_front (between : Text) (ts : List Text) (last : Text) :
    (Text.intercalate between ts).points <+: (Text.intercalate between (ts ++ [last])).points := by
  simp only [Text.intercalate, List.map_append]
  induction ts with
  | nil => exact List.nil_prefix
  | cons t rest ih =>
    cases rest with
    | nil =>
      refine ⟨between.points ++ last.points, ?_⟩
      simp [List.intercalate]
    | cons next rest =>
      rw [List.map_cons, List.cons_append, List.intercalate_cons_of_ne_nil (by simp),
        List.intercalate_cons_of_ne_nil (by simp)]
      exact List.prefix_append_right_inj _ |>.mpr ih

theorem text_parent_prefix (p : FilePath) (named : p.parent.text ≠ ".") :
    p.parent.text.points <+: p.text.points := by
  obtain ⟨root, parts⟩ := p
  rcases List.eq_nil_or_concat parts with rfl | ⟨front, last, rfl⟩
  · exact List.prefix_rfl
  · rw [List.concat_eq_append] at named ⊢
    simp only [parent, List.dropLast_concat, text] at named ⊢
    split at named
    · exact absurd rfl named
    · next shown =>
      rw [if_neg shown, if_neg (by simp)]
      exact List.prefix_append_right_inj _ |>.mpr (intercalate_front "/" front last)

theorem isLong_of_parent {p : FilePath} (fit : p.unfit? = none) (h : p.parent.isLong = true) :
    p.isLong = true := by
  have long : 4096 ≤ (nameBytes p.parent.text).length := of_decide_eq_true h
  have named : p.parent.text ≠ "." := by
    intro dot
    rw [dot] at long
    revert long
    decide
  have each {p : FilePath} (fit : p.unfit? = none) :
      ∀ q ∈ p.text.points, Text.namePointBytes? q ≠ none := by
    intro q inside refused
    obtain ⟨part, member, inside⟩ := (mem_text refused).mp inside
    exact (unfit?_eq_none_iff.mp fit part member q inside).1 refused
  obtain ⟨more, whole⟩ := p.text_parent_prefix named
  rw [nameBytes_eq (each (unfit?_parent fit))] at long
  refine decide_eq_true ?_
  rw [nameBytes_eq (each fit), ← whole, List.flatMap_append, List.length_append]
  omega

end FilePath

namespace FileTree

variable {t t' : FileTree} {p : FilePath}

theorem entry_start (t : FileTree) (p : FilePath) : t.entry? (.start p) = some .directory := by
  have given : (Location.start p).isGiven = true := by
    rw [Location.start]
    split <;> rfl
  rw [ entry?, given, if_pos rfl]

theorem walk_above {here goal : Location} {parts : List Text} {part : Text}
    (walked : t.walk here (parts ++ [part]) = .ok goal)
    (given : t.entry? here = some .directory) :
    ∃ above, t.walk here parts = .ok above ∧ t.entry? above = some .directory := by
  induction parts generalizing here with
  | nil => exact ⟨here, rfl, given⟩
  | cons first rest ih =>
    obtain ⟨leads, ⟨last, -⟩ | ⟨-, there, walked⟩⟩ := walk_cons walked
    · simp at last
    · obtain ⟨above, reached, directory⟩ := ih walked there
      rcases eq : rest with _ | ⟨next, others⟩
      · subst eq
        cases reached
        exact ⟨_, walk_last leads, directory⟩
      · rw [eq] at reached
        exact ⟨above, (walk_more leads (List.cons_ne_nil _ _) there).trans reached, directory⟩

theorem look_above {goal : Location} (located : t.locate p = .ok goal) :
    t.look p.parent = .ok .directory := by
  obtain ⟨fit, short, walked⟩ := locate_eq_ok_iff.mp located
  have fit' := FilePath.unfit?_parent fit
  have short' : p.parent.isLong = false := Bool.eq_false_iff.mpr fun long =>
    Bool.eq_false_iff.mp short (FilePath.isLong_of_parent fit long)
  rcases List.eq_nil_or_concat p.parts with root | ⟨parts, last, eq⟩
  · have parts : p.parent.parts = [] := by rw [FilePath.parent, root, List.dropLast_nil]
    refine look_eq_ok_iff.mpr ⟨.start p, locate_eq_ok_iff.mpr ⟨fit', short', ?_⟩, entry_start t p⟩
    rw [parts]
    rfl
  · have parent_parts : p.parent.parts = parts := by
      rw [FilePath.parent, eq, List.concat_eq_append, List.dropLast_concat]
    rw [eq, List.concat_eq_append] at walked
    obtain ⟨above, reached, directory⟩ := walk_above walked (entry_start t p)
    refine look_eq_ok_iff.mpr ⟨above, locate_eq_ok_iff.mpr ⟨fit', short', ?_⟩, directory⟩
    rw [parent_parts]
    exact reached

theorem look_parent {e : FileEntry} (h : t.look p = .ok e) : t.look p.parent = .ok .directory := by
  obtain ⟨goal, located, -⟩ := look_eq_ok_iff.mp h
  exact look_above located

theorem makeOne_above (h : t.makeOne p = .ok t') : t.look p.parent = .ok .directory := by
  rw [makeOne] at h
  split at h
  · next made =>
    obtain ⟨goal, located, -⟩ := makeDirectory_eq_ok made
    exact look_above located
  · cases h
  · split at h
    · next there => exact look_parent (isDirectory_iff.mp there)
    · cases h

theorem parent_shorter (more : p.parent ≠ p) : p.parent.parts.length < p.parts.length := by
  have named : p.parts ≠ [] := by
    intro root
    refine more ?_
    obtain ⟨_, parts⟩ := p
    cases root
    rfl
  have dropped : p.parent.parts.length = p.parts.length - 1 := List.length_dropLast
  have some_part := List.length_pos_of_ne_nil named
  omega

theorem makeUp_failed {fuel : Nat} {why : FileError} (deep : p.parts.length < fuel)
    (h : makeUp fuel t p = (.error why, t')) : t'.look p ≠ .ok .directory := by
  induction fuel generalizing t t' p why with
  | zero => exact absurd deep (Nat.not_lt_zero _)
  | succ fuel ih =>
    rw [makeUp] at h
    split at h
    · cases h
    · next failed =>
      split at h
      · cases h
        intro there
        rw [makeOne_there there] at failed
        cases failed
      · next more =>
        have shorter : p.parent.parts.length < fuel :=
          Nat.lt_of_lt_of_le (parent_shorter more) (Nat.le_of_lt_succ deep)
        split at h
        · next above =>
          cases h
          exact fun there => ih shorter above (look_parent there)
        · split at h
          · cases h
          · next again =>
            cases h
            intro there
            rw [makeOne_there there] at again
            cases again
    · next failed =>
      cases h
      intro there
      rw [makeOne_there there] at failed
      cases failed

theorem makeDirectories_failed {why : FileError} (h : t.makeDirectories p = (.error why, t')) :
    t'.look p ≠ .ok .directory :=
  makeUp_failed (Nat.lt_succ_self _) h

theorem makeUp_again {fuel : Nat} {why : FileError} (deep : p.parts.length < fuel)
    (h : makeUp fuel t p = (.error why, t')) : ∃ why', makeUp fuel t' p = (.error why', t') := by
  induction fuel generalizing t t' p why with
  | zero => exact absurd deep (Nat.not_lt_zero _)
  | succ fuel ih =>
    rw [makeUp] at h
    split at h
    · cases h
    · next q failed =>
      split at h
      · next root =>
        cases h
        exact ⟨_, by simp only [makeUp, failed, root, if_true]; rfl⟩
      · next more =>
        have shorter : p.parent.parts.length < fuel :=
          Nat.lt_of_lt_of_le (parent_shorter more) (Nat.le_of_lt_succ deep)
        rw [makeUp]
        split at h
        · next above =>
          cases h
          -- The directory above is still not there, so this one is not made before it.
          obtain ⟨why', again⟩ := ih shorter above
          split
          · next made => exact absurd (makeOne_above made) (makeUp_failed shorter above)
          · exact ⟨why', by simp only [more, again, if_false]⟩
          · exact ⟨_, rfl⟩
        · next above =>
          have there := makeOne_there (look_makeUp above)
          split at h
          · cases h
          · next failed' =>
            cases h
            rw [failed']
            split
            · next made => cases made
            · next made =>
              cases made
              obtain ⟨fuel, rfl⟩ := Nat.exists_eq_add_of_lt shorter
              exact ⟨_, by simp only [more, makeUp, there, failed', if_false]; rfl⟩
            · exact ⟨_, rfl⟩
    · next other failed =>
      cases h
      rw [makeUp, failed]
      split
      · next made => cases made
      · next made => cases made; exact absurd rfl (other _)
      · exact ⟨_, rfl⟩

theorem makeDirectories_again {why : FileError}
    (h : t.makeDirectories p = (.error why, t')) :
    ∃ why', t'.makeDirectories p = (.error why', t') :=
  makeUp_again (Nat.lt_succ_self _) h

theorem makeDirectories_twice (t : FileTree) (p : FilePath) :
    ((t.makeDirectories p).2.makeDirectories p).2 = (t.makeDirectories p).2 := by
  rcases made : t.makeDirectories p with ⟨why | _, above⟩
  · obtain ⟨why', again⟩ := makeDirectories_again made
    rw [again]
  · rw [makeDirectories_there (look_makeDirectories made)]

def Vacant (t : FileTree) (p : FilePath) : Prop :=
  ∀ content, t.look p ≠ .ok (.file content)

theorem vacant_of_isThere (absent : t.isThere p = .ok false) : t.Vacant p := by
  intro content there
  rw [isThere_of_look there] at absent
  cases absent

theorem write_cases (t : FileTree) (p : FilePath) :
    (∀ content, ∃ t', t.write p content = .ok t') ∨
      ∃ why, (t.Vacant p ∨ t.bars p .write = true) ∧ ∀ content, t.write p content = .error why := by
  cases located : t.locate p with
  | error why =>
    refine .inr ⟨⟨why, p⟩, .inl fun content there => ?_, fun content => by
      simp only [FileTree.write, located]⟩
    obtain ⟨goal, reached, -⟩ := look_eq_ok_iff.mp there
    rw [located] at reached
    cases reached
  | ok goal =>
    have look {e : FileEntry} (there : t.look p = .ok e) : t.entry? goal = some e := by
      obtain ⟨goal', reached, there⟩ := look_eq_ok_iff.mp there
      cases located.symm.trans reached
      exact there
    rcases there : t.entry? goal with _ | old | _
    · cases denied : t.denies goal.dropLast .write with
      | true =>
        refine .inr ⟨⟨.permission, p⟩, .inl fun content held => ?_, fun content => by
          simp only [FileTree.write, located, there, create, denied, if_true]⟩
        cases there.symm.trans (look held)
      | false =>
        refine .inl fun content => ⟨t.add goal (.file content), ?_⟩
        simp only [FileTree.write, located, there, create, denied, Bool.false_eq_true, if_false]
    · cases denied : t.denies goal .write with
      | true =>
        exact .inr ⟨⟨.permission, p⟩, .inr ((bars_eq located _).trans denied), fun content => by
          simp only [FileTree.write, located, there, denied, if_true]⟩
      | false =>
        refine .inl fun content => ⟨t.put goal (.file content), ?_⟩
        simp only [FileTree.write, located, there, denied, Bool.false_eq_true, if_false]
    · refine .inr ⟨⟨.isDirectory, p⟩, .inl fun content held => ?_, fun content => by
        simp only [FileTree.write, located, there]⟩
      cases there.symm.trans (look held)

/-- No file is at a path, and one that is behind directories which are missing, should they
be made, may be read and written. -/
structure Clear (t : FileTree) (p : FilePath) : Prop where
  vacant : t.Vacant p
  behind : ∀ content, (t.makeDirectories p.parent).2.look p = .ok (.file content) →
    (t.makeDirectories p.parent).2.bars p .read = false ∧
      (t.makeDirectories p.parent).2.bars p .write = false

theorem vacant_of_parent (none_above : t.look p.parent ≠ .ok .directory) : t.Vacant p :=
  fun _ there => none_above (look_parent there)

end FileTree

end SecretStore
