import SecretStore.Proofs.Files.Unfit
import Mathlib.Data.List.Basic

/-!
Files that stay where they were put. A walk passes through directories only, so
putting an entry where no directory stands leaves every walk as it was. A file
can be written where nothing is once the directories above it are made, if this
is not denied there, and from then on it can be read and written over.
-/

namespace SecretStore.FileTree

theorem lookup_replaceEntry (place : Location) (e : FileEntry)
    (entries : List (Location × FileEntry)) (other : Location) :
    (replaceEntry place e entries).lookup other =
      if other = place then some e else entries.lookup other := by
  induction entries with
  | nil =>
    by_cases here : other = place
    · simp [replaceEntry, here]
    · have apart : (other == place) = false := by simpa using here
      simp [replaceEntry, List.lookup_cons, here, apart]
  | cons first rest ih =>
    obtain ⟨p, old⟩ := first
    rw [replaceEntry]
    by_cases here : other = p
    · subst here
      by_cases same : other = place <;> simp [same]
    · have apart : (other == p) = false := by simpa using here
      by_cases same : p = place
      · subst same
        simp [List.lookup_cons, here, apart]
      · have differ : (p == place) = false := by simpa using same
        simp [List.lookup_cons, apart, differ, ih]

/-- A tree in which an entry was put at a place: it is there, all others are as they were,
and no more is denied. -/
structure Puts (t : FileTree) (place : Location) (e : FileEntry) (t' : FileTree) : Prop where
  entry : ∀ other, t'.entry? other = if other = place then some e else t.entry? other
  denies : ∀ other right, t.denies other right = false → t'.denies other right = false

theorem puts_put {t : FileTree} {place : Location} (e : FileEntry)
    (free : t.entry? place ≠ some .directory) : t.Puts place e (t.put place e) where
  entry other := by
    have given : place.isGiven = false := by
      cases h : place.isGiven with
      | false => rfl
      | true => exact absurd (by rw [ entry?, h, if_pos rfl]) free
    simp only [ entry?, put, lookup_replaceEntry]
    by_cases same : other = place
    · simp [same, given]
    · simp [same]
  denies _ _ allowed := allowed

theorem denies_add (t : FileTree) (place other : Location) (e : FileEntry) (right : FileRight) :
    (t.add place e).denies other right = (t.denies other right && other != place) := by
  rw [Bool.eq_iff_iff]
  simp only [denies, add, put, List.contains_iff_mem, Bool.and_eq_true, List.mem_filter]

theorem puts_add {t : FileTree} {place : Location} (e : FileEntry)
    (free : t.entry? place ≠ some .directory) : t.Puts place e (t.add place e) where
  entry := (puts_put e free).entry
  denies other right allowed := by rw [denies_add, allowed, Bool.false_and]

section Puts

variable {t t' : FileTree} {place : Location} {e : FileEntry} (puts : t.Puts place e t')
  (free : t.entry? place ≠ some .directory)

include puts free

theorem Puts.directory {other : Location} (there : t.entry? other = some .directory) :
    t'.entry? other = some .directory := by
  rw [puts.entry, if_neg, there]
  rintro rfl
  exact free there

end Puts

def Leads (t : FileTree) (here : Location) (part : Text) : Prop :=
  t.denies here .search = false ∧ (part != ".." && FilePath.isLongName part) = false

theorem walk_cons {t : FileTree} {here : Location} {part : Text} {rest : List Text}
    {place : Location} (h : t.walk here (part :: rest) = .ok place) :
    t.Leads here part ∧
      (rest = [] ∧ place = here.enter part ∨
        rest ≠ [] ∧ t.entry? (here.enter part) = some .directory ∧
          t.walk (here.enter part) rest = .ok place) := by
  simp only [walk] at h
  split at h
  · cases h
  next searched =>
  split at h
  · cases h
  next short =>
  refine ⟨⟨Bool.eq_false_iff.mpr searched, Bool.eq_false_iff.mpr short⟩, ?_⟩
  split at h
  · next last =>
    cases h
    exact .inl ⟨List.isEmpty_iff.mp last, rfl⟩
  · next more =>
    split at h
    · cases h
    · cases h
    · next there => exact .inr ⟨fun last => more (List.isEmpty_iff.mpr last), there, h⟩

theorem walk_last {t : FileTree} {here : Location} {part : Text} (leads : t.Leads here part) :
    t.walk here [part] = .ok (here.enter part) := by
  simp [walk, leads.1, leads.2]

theorem walk_more {t : FileTree} {here : Location} {part : Text} {rest : List Text}
    (leads : t.Leads here part) (more : rest ≠ [])
    (there : t.entry? (here.enter part) = some .directory) :
    t.walk here (part :: rest) = t.walk (here.enter part) rest := by
  have nonempty : rest.isEmpty = false := List.isEmpty_eq_false_iff.mpr more
  simp [walk, leads.1, leads.2, nonempty, there]

theorem Puts.walk {t t' : FileTree} {place : Location} {e : FileEntry}
    (puts : t.Puts place e t') (free : t.entry? place ≠ some .directory) {here goal : Location}
    {parts : List Text} (h : t.walk here parts = .ok goal) : t'.walk here parts = .ok goal := by
  induction parts generalizing here with
  | nil => exact h
  | cons part rest ih =>
    obtain ⟨⟨searched, short⟩, ⟨rfl, rfl⟩ | ⟨more, there, walked⟩⟩ := walk_cons h
    · exact walk_last ⟨puts.denies _ _ searched, short⟩
    · rw [walk_more ⟨puts.denies _ _ searched, short⟩ more (puts.directory free there)]
      exact ih walked

theorem walk_append {t : FileTree} {here above : Location} {parts : List Text}
    (walked : t.walk here parts = .ok above) (there : t.entry? above = some .directory)
    (part : Text) : t.walk here (parts ++ [part]) = t.walk above [part] := by
  induction parts generalizing here with
  | nil =>
    cases walked
    rfl
  | cons first rest ih =>
    obtain ⟨leads, ⟨rfl, rfl⟩ | ⟨more, between, walked⟩⟩ := walk_cons walked
    · exact walk_more leads (List.cons_ne_nil _ _) there
    · rw [List.cons_append, walk_more leads (by simp) between]
      exact ih walked

theorem look_eq_ok_iff {t : FileTree} {p : FilePath} {e : FileEntry} :
    t.look p = .ok e ↔ ∃ place, t.locate p = .ok place ∧ t.entry? place = some e := by
  rw [look]
  cases t.locate p with
  | error why => simp [bind, Except.bind]
  | ok place =>
    cases there : t.entry? place <;> simp [bind, Except.bind, pure, Except.pure, there]

theorem locate_eq_ok_iff {t : FileTree} {p : FilePath} {place : Location} :
    t.locate p = .ok place ↔
      p.unfit? = none ∧ p.isLong = false ∧ t.walk (.start p) p.parts = .ok place := by
  rw [locate]
  cases p.unfit? <;> cases p.isLong <;> simp

section Puts

variable {t t' : FileTree} {place : Location} {e : FileEntry} {p : FilePath}
  (puts : t.Puts place e t') (free : t.entry? place ≠ some .directory)

include puts free

theorem Puts.locate {goal : Location} (h : t.locate p = .ok goal) : t'.locate p = .ok goal := by
  obtain ⟨fit, short, walked⟩ := locate_eq_ok_iff.mp h
  exact locate_eq_ok_iff.mpr ⟨fit, short, puts.walk free walked⟩

theorem Puts.look_directory (h : t.look p = .ok .directory) : t'.look p = .ok .directory := by
  obtain ⟨goal, located, there⟩ := look_eq_ok_iff.mp h
  exact look_eq_ok_iff.mpr ⟨goal, puts.locate free located, puts.directory free there⟩

theorem Puts.look (h : t.locate p = .ok place) : t'.look p = .ok e :=
  look_eq_ok_iff.mpr ⟨place, puts.locate free h, by rw [puts.entry, if_pos rfl]⟩

end Puts

theorem create_eq_ok_iff {t t' : FileTree} {p : FilePath} {place : Location} {e : FileEntry} :
    t.create p place e = .ok t' ↔
      t.denies place.dropLast .write = false ∧ t' = t.add place e := by
  rw [create]
  split
  · next denied => simp [denied]
  · next allowed => simp [allowed, eq_comm]

theorem makeDirectory_eq_ok {t t' : FileTree} {p : FilePath} (made : t.makeDirectory p = .ok t') :
    ∃ goal, t.locate p = .ok goal ∧ t.entry? goal = none ∧ t.Puts goal .directory t' := by
  rw [makeDirectory] at made
  split at made
  · cases made
  · next goal located =>
    split at made
    · cases made
    · next absent =>
      obtain ⟨-, rfl⟩ := create_eq_ok_iff.mp made
      exact ⟨goal, located, absent, puts_add _ (by simp [absent])⟩

theorem look_makeDirectory {t t' : FileTree} {p : FilePath} (h : t.makeDirectory p = .ok t') :
    t'.look p = .ok .directory := by
  obtain ⟨goal, located, absent, puts⟩ := makeDirectory_eq_ok h
  exact puts.look (by simp [absent]) located

theorem isDirectory_iff {t : FileTree} {p : FilePath} :
    t.isDirectory p = true ↔ t.look p = .ok .directory := by
  rw [isDirectory]
  split
  · next there => simp [there]
  · next other => simpa using other

theorem look_makeOne {t t' : FileTree} {p : FilePath} (h : t.makeOne p = .ok t') :
    t'.look p = .ok .directory := by
  rw [makeOne] at h
  split at h
  · next made =>
    cases h
    exact look_makeDirectory made
  · cases h
  · split at h
    · next there =>
      cases h
      exact isDirectory_iff.mp there
    · cases h

theorem look_makeUp {fuel : Nat} {t t' : FileTree} {p : FilePath}
    (h : makeUp fuel t p = (.ok (), t')) : t'.look p = .ok .directory := by
  cases fuel with
  | zero => cases h
  | succ fuel =>
    rw [makeUp] at h
    split at h
    · next made =>
      cases h
      exact look_makeOne made
    · split at h
      · cases h
      · split at h
        · cases h
        · split at h
          · next made =>
            cases h
            exact look_makeOne made
          · cases h
    · cases h

theorem look_makeDirectories {t t' : FileTree} {p : FilePath}
    (h : t.makeDirectories p = (.ok (), t')) : t'.look p = .ok .directory :=
  look_makeUp h

theorem makeOne_there {t : FileTree} {p : FilePath} (h : t.look p = .ok .directory) :
    t.makeOne p = .ok t := by
  obtain ⟨place, located, there⟩ := look_eq_ok_iff.mp h
  have refused : t.makeDirectory p = .error ⟨.exists, p⟩ := by
    simp only [makeDirectory, located, there]
  simp only [makeOne, refused, isDirectory_iff.mpr h, if_true]

theorem makeDirectories_there {t : FileTree} {p : FilePath} (h : t.look p = .ok .directory) :
    t.makeDirectories p = (.ok (), t) := by
  rw [makeDirectories, makeUp, makeOne_there h]

theorem isThere_error_iff {t : FileTree} {p : FilePath} {why : FileError} :
    t.isThere p = .error why ↔ ∃ reason, (reason = .nameTooLong ∨ reason = .permission) ∧
      t.look p = .error reason ∧ why = ⟨reason, p⟩ := by
  rw [isThere]
  constructor
  · intro failed
    split at failed
    · cases failed
    · next long =>
      cases failed
      exact ⟨_, .inl rfl, long, rfl⟩
    · next barred =>
      cases failed
      exact ⟨_, .inr rfl, barred, rfl⟩
    · cases failed
  · rintro ⟨_, rfl | rfl, failed, rfl⟩ <;> rw [failed]

theorem isThere_of_look {t : FileTree} {p : FilePath} {e : FileEntry} (h : t.look p = .ok e) :
    t.isThere p = .ok true := by
  rw [isThere, h]

theorem read_ok_iff {t : FileTree} {p : FilePath} {content : Bytes} :
    t.read p = .ok content ↔ t.look p = .ok (.file content) ∧ t.bars p .read = false := by
  rw [read]
  cases t.look p with
  | error why => simp
  | ok e => cases t.bars p .read <;> cases e <;> simp

theorem read_error_of_isThere {t : FileTree} {p : FilePath} {why : FileError}
    (there : t.isThere p = .ok true) (failed : t.read p = .error why) :
    (∃ e, t.look p = .ok e ∧ t.bars p .read = true ∧ why = ⟨.permission, p⟩) ∨
      t.look p = .ok .directory ∧ t.bars p .read = false ∧ why = ⟨.isDirectory, p⟩ := by
  rw [read] at failed
  split at failed
  · next absent =>
    rw [isThere, absent] at there
    split at there <;> cases there
    next found => cases found
  · next e found =>
    split at failed
    · next barred =>
      cases failed
      exact .inl ⟨e, found, barred, rfl⟩
    · next readable =>
      split at failed
      · cases failed
      · cases failed
        exact .inr ⟨found, Bool.eq_false_iff.mpr readable, rfl⟩

theorem bars_eq {t : FileTree} {p : FilePath} {place : Location} (located : t.locate p = .ok place)
    (right : FileRight) : t.bars p right = t.denies place right := by
  rw [bars, located]

def Permits (t : FileTree) (p : FilePath) : Prop :=
  ∀ place, t.locate p = .ok place → t.denies place.dropLast .write = false

theorem permits_of_denied {t : FileTree} (denied : t.denied = []) (p : FilePath) : t.Permits p := by
  simp [Permits, denies, denied]

structure Keeps (t : FileTree) (p : FilePath) (content : Bytes) : Prop where
  above : t.look p.parent = .ok .directory
  file : t.look p = .ok (.file content)
  readable : t.bars p .read = false
  writable : t.bars p .write = false

theorem Keeps.read {t : FileTree} {p : FilePath} {content : Bytes} (h : t.Keeps p content) :
    t.read p = .ok content :=
  read_ok_iff.mpr ⟨h.file, h.readable⟩

/-- A path where nothing is, where the directories above can be made, and where
the file is then all that is missing. -/
structure Free (t : FileTree) (p : FilePath) : Prop where
  absent : t.isThere p = .ok false
  made : (t.makeDirectories p.parent).1 = .ok ()
  missing : (t.makeDirectories p.parent).2.look p = .error .missing
  permits : (t.makeDirectories p.parent).2.Permits p

/-- In a directory that is there, only the length of its name and the right to go through
the directory keep a file from a place. -/
theorem locate_above {t : FileTree} {p : FilePath} (above : t.look p.parent = .ok .directory)
    (fit : p.unfit? = none) (short : p.isLong = false) :
    (∃ place, t.locate p = .ok place) ∨ t.locate p = .error .nameTooLong ∨
      t.locate p = .error .permission := by
  obtain ⟨directory, located, there⟩ := look_eq_ok_iff.mp above
  obtain ⟨-, -, walked⟩ := locate_eq_ok_iff.mp located
  have same : t.locate p = t.walk (.start p) p.parts := by simp [locate, fit, short]
  rw [same]
  rcases List.eq_nil_or_concat p.parts with root | ⟨parts, last, eq⟩
  · exact .inl ⟨.start p, by rw [root, walk]⟩
  · have parent_parts : p.parent.parts = parts := by
      rw [FilePath.parent, eq, List.concat_eq_append, List.dropLast_concat]
    have start : Location.start p.parent = .start p := rfl
    rw [start, parent_parts] at walked
    rw [eq, List.concat_eq_append, walk_append walked there]
    cases searched : t.denies directory .search with
    | true => exact .inr (.inr (by simp [walk, searched]))
    | false =>
      cases name : (last != ".." && FilePath.isLongName last) with
      | false => exact .inl ⟨_, walk_last ⟨searched, name⟩⟩
      | true => exact .inr (.inl (by simp [walk, searched, name]))

theorem locate_missing {t : FileTree} {p : FilePath} (above : t.look p.parent = .ok .directory)
    (missing : t.look p = .error .missing) :
    ∃ place, t.locate p = .ok place ∧ t.entry? place = none := by
  have fit : p.unfit? = none := by
    refine Option.eq_none_iff_forall_ne_some.mpr fun why unfit => ?_
    rw [t.look_unfit unfit] at missing
    cases missing
    cases FilePath.isUnfit_of_unfit? unfit
  have short : p.isLong = false := by
    refine Bool.eq_false_iff.mpr fun long => ?_
    simp [look, locate, fit, long, bind, Except.bind] at missing
  rcases locate_above above fit short with ⟨place, located⟩ | long | barred
  · refine ⟨place, located, ?_⟩
    cases there : t.entry? place with
    | none => rfl
    | some e =>
      rw [look_eq_ok_iff.mpr ⟨place, located, there⟩] at missing
      cases missing
  · simp [look, long, bind, Except.bind] at missing
  · simp [look, barred, bind, Except.bind] at missing

/-- What is written is put where the path leads: a new entry, or one that may be written. -/
theorem write_eq_ok {t t' : FileTree} {p : FilePath} {content : Bytes}
    (written : t.write p content = .ok t') :
    ∃ goal, t.locate p = .ok goal ∧ t.entry? goal ≠ some .directory ∧
      t.Puts goal (.file content) t' ∧ t'.denies goal .write = false ∧
      ( t.entry? goal = none ∨ t.denies goal .read = false → t'.denies goal .read = false) := by
  rw [write] at written
  split at written
  · cases written
  · next goal located =>
    split at written
    · next absent =>
      obtain ⟨-, rfl⟩ := create_eq_ok_iff.mp written
      have free : t.entry? goal ≠ some .directory := by simp [absent]
      exact ⟨goal, located, free, puts_add _ free, by simp [denies_add], by simp [denies_add]⟩
    · cases written
    · next there =>
      split at written
      · cases written
      · next writable =>
        cases written
        have free : t.entry? goal ≠ some .directory := by simp [there]
        exact ⟨goal, located, free, puts_put _ free, Bool.eq_false_iff.mpr writable,
          fun readable => readable.resolve_left (by simp [there])⟩

theorem write_over {t : FileTree} {p : FilePath} {old : Bytes}
    (there : t.look p = .ok (.file old)) (content : Bytes) :
    t.bars p .write = true ∧ t.write p content = .error ⟨.permission, p⟩ ∨
      t.bars p .write = false ∧ ∃ t', t.write p content = .ok t' ∧
        t'.look p = .ok (.file content) ∧ ∀ right, t'.bars p right = t.bars p right := by
  obtain ⟨place, located, there⟩ := look_eq_ok_iff.mp there
  rw [bars_eq located, FileTree.write]
  simp only [located, there]
  cases writable : t.denies place .write with
  | true => exact .inl ⟨rfl, rfl⟩
  | false =>
    have free : t.entry? place ≠ some .directory := by simp [there]
    have puts := puts_put (.file content) free
    refine .inr ⟨rfl, _, rfl, puts.look free located, fun right => ?_⟩
    rw [bars_eq (puts.locate free located), bars_eq located]
    rfl

theorem bars_write {t t' t'' : FileTree} {p : FilePath} {content content' : Bytes}
    (written : t.write p content = .ok t') (written' : t.write p content' = .ok t'')
    (right : FileRight) : t'.bars p right = t''.bars p right := by
  obtain ⟨goal, located, free, puts, -⟩ := write_eq_ok written
  obtain ⟨goal', located', free', puts', -⟩ := write_eq_ok written'
  cases located.symm.trans located'
  rw [bars_eq (puts.locate free located), bars_eq (puts'.locate free' located)]
  have same : t'.denied = t''.denied := by
    rw [FileTree.write, located] at written written'
    rcases there : t.entry? goal with _ | old | _ <;> simp only [there] at written written'
    · obtain ⟨-, rfl⟩ := create_eq_ok_iff.mp written
      obtain ⟨-, rfl⟩ := create_eq_ok_iff.mp written'
      rfl
    · split at written
      · cases written
      · next writable =>
        rw [if_neg writable] at written'
        cases written
        cases written'
        rfl
    · cases written
  rw [denies, denies, same]

theorem Puts.keeps {t t' : FileTree} {p : FilePath} {place : Location} {content : Bytes}
    (puts : t.Puts place (.file content) t') (free : t.entry? place ≠ some .directory)
    (above : t.look p.parent = .ok .directory) (located : t.locate p = .ok place)
    (readable : t'.denies place .read = false) (writable : t'.denies place .write = false) :
    t'.Keeps p content := by
  have located' := puts.locate free located
  exact ⟨puts.look_directory free above, puts.look free located,
    (bars_eq located' _).trans readable, (bars_eq located' _).trans writable⟩

theorem Free.write {t : FileTree} {p : FilePath} (h : t.Free p) (content : Bytes) :
    ∃ above t', t.makeDirectories p.parent = (.ok (), above) ∧
      above.write p content = .ok t' ∧ t'.Keeps p content := by
  obtain ⟨_, made, missing, permits⟩ := h
  rcases eq : t.makeDirectories p.parent with ⟨result, above⟩
  rw [eq] at made missing permits
  cases made
  obtain ⟨place, located, absent⟩ := locate_missing (look_makeDirectories eq) missing
  have free : above.entry? place ≠ some .directory := by simp [absent]
  refine ⟨above, above.add place (.file content), rfl, ?_,
    (puts_add _ free).keeps free (look_makeDirectories eq) located (by simp [denies_add])
      (by simp [denies_add])⟩
  simp only [FileTree.write, located, absent]
  exact create_eq_ok_iff.mpr ⟨permits place located, rfl⟩

theorem Keeps.write {t : FileTree} {p : FilePath} {old : Bytes} (h : t.Keeps p old)
    (content : Bytes) :
    ∃ t', t.makeDirectories p.parent = (.ok (), t) ∧ t.write p content = .ok t' ∧
      t'.Keeps p content := by
  obtain ⟨place, located, there⟩ := look_eq_ok_iff.mp h.file
  have readable := (bars_eq located .read).symm.trans h.readable
  have writable := (bars_eq located .write).symm.trans h.writable
  refine ⟨t.put place (.file content), makeDirectories_there h.above, ?_,
    (puts_put _ (by simp [there])).keeps (by simp [there]) h.above located readable writable⟩
  simp only [FileTree.write, located, there, writable, Bool.false_eq_true, if_false]

end SecretStore.FileTree
