import SecretStore.Proofs.Files.Above

/-!
A file beside one that is written. Directories are made only where nothing is, and a
file is written at the place that its path leads to, so a file at another place stays
as it is, and its path still leads to it.
-/

namespace SecretStore.FileTree

variable {t t' : FileTree} {p other : FilePath} {place : Location} {content : Bytes}

/-- A path leads to a place at which there is a file that can be read. -/
structure Rests (t : FileTree) (p : FilePath) (place : Location) (content : Bytes) : Prop where
  located : t.locate p = .ok place
  there : t.entry? place = some (.file content)
  readable : t.denies place .read = false

theorem Rests.read (rests : t.Rests p place content) : t.read p = .ok content :=
  read_ok_iff.mpr ⟨look_eq_ok_iff.mpr ⟨place, rests.located, rests.there⟩,
    (bars_eq rests.located _).trans rests.readable⟩

theorem exists_rests (file : t.read p = .ok content) : ∃ place, t.Rests p place content := by
  obtain ⟨there, readable⟩ := read_ok_iff.mp file
  obtain ⟨place, located, there⟩ := look_eq_ok_iff.mp there
  exact ⟨place, located, there, (bars_eq located _).symm.trans readable⟩

theorem Rests.puts (rests : t.Rests other place content) {goal : Location} {e : FileEntry}
    (puts : t.Puts goal e t') (free : t.entry? goal ≠ some .directory) (apart : goal ≠ place) :
    t'.Rests other place content where
  located := puts.locate free rests.located
  there := by rw [puts.entry, if_neg apart.symm, rests.there]
  readable := puts.denies _ _ rests.readable

theorem Rests.makeDirectory (rests : t.Rests other place content)
    (made : t.makeDirectory p = .ok t') : t'.Rests other place content := by
  obtain ⟨goal, located, absent, puts⟩ := makeDirectory_eq_ok made
  refine rests.puts puts (by simp [absent]) ?_
  rintro rfl
  cases absent.symm.trans rests.there

theorem Rests.makeOne (rests : t.Rests other place content) (made : t.makeOne p = .ok t') :
    t'.Rests other place content := by
  rw [FileTree.makeOne] at made
  split at made
  · next new =>
    cases made
    exact rests.makeDirectory new
  · cases made
  · split at made
    · cases made
      exact rests
    · cases made

theorem Rests.makeUp (rests : t.Rests other place content) (fuel : Nat) (p : FilePath) :
    (makeUp fuel t p).2.Rests other place content := by
  induction fuel generalizing t p with
  | zero => exact rests
  | succ fuel ih =>
    rw [FileTree.makeUp]
    split
    · next made => exact rests.makeOne made
    · split
      · exact rests
      · have above := ih rests p.parent
        split
        · next failed =>
          rw [failed] at above
          exact above
        · next done =>
          rw [done] at above
          split
          · next made => exact above.makeOne made
          · exact above
    · exact rests

theorem Rests.makeDirectories (rests : t.Rests other place content) (p : FilePath) :
    (t.makeDirectories p).2.Rests other place content :=
  rests.makeUp _ p

theorem Puts.file_iff (puts : t.Puts place .directory t') (absent : t.entry? place = none)
    {other : Location} :
    t'.entry? other = some (.file content) ↔ t.entry? other = some (.file content) := by
  rw [puts.entry]
  split
  · next same => simp [same, absent]
  · exact .rfl

theorem makeOne_file_iff (made : t.makeOne p = .ok t') :
    t'.entry? place = some (.file content) ↔ t.entry? place = some (.file content) := by
  rw [FileTree.makeOne] at made
  split at made
  · next new =>
    cases made
    obtain ⟨goal, -, absent, puts⟩ := makeDirectory_eq_ok new
    exact puts.file_iff absent
  · cases made
  · split at made
    · cases made
      exact .rfl
    · cases made

theorem makeUp_file_iff (fuel : Nat) (t : FileTree) (p : FilePath) :
    entry? (makeUp fuel t p).2 place = some (.file content) ↔
      t.entry? place = some (.file content) := by
  induction fuel generalizing t p with
  | zero => exact .rfl
  | succ fuel ih =>
    rw [FileTree.makeUp]
    split
    · next made => exact makeOne_file_iff made
    · split
      · exact .rfl
      · have above := ih t p.parent
        split
        · next failed =>
          rw [failed] at above
          exact above
        · next done =>
          rw [done] at above
          split
          · next made => exact (makeOne_file_iff made).trans above
          · exact above
    · exact .rfl

theorem makeDirectories_file_iff (t : FileTree) (p : FilePath) :
    entry? (t.makeDirectories p).2 place = some (.file content) ↔
      t.entry? place = some (.file content) :=
  makeUp_file_iff _ t p

/-- A file, and beside it a path that is free, or one with a file at another place. -/
structure Beside (t : FileTree) (p other : FilePath) (content : Bytes) : Prop where
  file : t.read other = .ok content
  writable : t.Free p ∨ ∃ token, t.Keeps p token
  apart : ∀ place, t.locate other = .ok place → t.locate p ≠ .ok place

/-- No file is beside itself: nothing is at a free path. -/
theorem Free.beside (free : t.Free p) (file : t.read other = .ok content) :
    t.Beside p other content := by
  refine ⟨file, .inl free, fun place located same => ?_⟩
  obtain ⟨place', located', there, -⟩ := exists_rests file
  cases located.symm.trans located'
  have absent := free.absent
  rw [isThere_of_look (look_eq_ok_iff.mpr ⟨place, same, there⟩)] at absent
  cases absent

theorem Rests.beside (rests : t.Rests other place content) {goal : Location} {token : Bytes}
    (located : t.locate p = .ok goal) (free : t.entry? goal ≠ some .directory)
    (puts : t.Puts goal (.file token) t') (keeps : t'.Keeps p token) (apart : goal ≠ place) :
    t'.Beside p other content where
  file := (rests.puts puts free apart).read
  writable := .inr ⟨token, keeps⟩
  apart place' located' same := by
    cases located'.symm.trans (rests.puts puts free apart).located
    cases same.symm.trans (puts.locate free located)
    exact apart rfl

theorem Beside.write (beside : t.Beside p other content) (token : Bytes) :
    ∃ above t', t.makeDirectories p.parent = (.ok (), above) ∧ above.write p token = .ok t' ∧
      t'.Beside p other content := by
  obtain ⟨file, free | ⟨old, keeps⟩, apart⟩ := beside
  · obtain ⟨place, rests⟩ := exists_rests file
    obtain ⟨above, t', made, written, keeps⟩ := free.write token
    obtain ⟨goal, located, unused, puts, -⟩ := write_eq_ok written
    have rests' := rests.makeDirectories p.parent
    have missing := free.missing
    rw [made] at rests' missing
    refine ⟨above, _, made, written, rests'.beside located unused puts keeps ?_⟩
    rintro rfl
    rw [look_eq_ok_iff.mpr ⟨goal, located, rests'.there⟩] at missing
    cases missing
  · obtain ⟨place, rests⟩ := exists_rests file
    obtain ⟨t', made, written, keeps'⟩ := keeps.write token
    obtain ⟨goal, located, unused, puts, -⟩ := write_eq_ok written
    refine ⟨t, _, made, written, rests.beside located unused puts keeps' ?_⟩
    rintro rfl
    exact apart goal rests.located located

end SecretStore.FileTree
