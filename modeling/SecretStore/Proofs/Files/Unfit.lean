import SecretStore.Files.Tree
import SecretStore.Proofs.Text.Unencodable

/-!
A path that holds a NUL or has no bytes is not passed on. No other path fails for
such a reason, also not while the directories above it are made.
-/

namespace SecretStore

namespace Text

theorem mem_intercalate {p : CodePoint} {between : Text} (other : p ∉ between.points)
    (ts : List Text) : p ∈ (intercalate between ts).points ↔ ∃ t ∈ ts, p ∈ t.points := by
  induction ts with
  | nil => simp [intercalate]
  | cons t rest ih =>
    cases rest with
    | nil => simp [intercalate, List.intercalate]
    | cons next rest =>
      have step : (intercalate between (t :: next :: rest)).points =
          t.points ++ between.points ++ (intercalate between (next :: rest)).points := by
        simp [intercalate, List.intercalate]
      rw [step, List.mem_append, List.mem_append, ih]
      simp [other]

end Text

namespace FilePath

/-- Every part has bytes, and no part holds a NUL. -/
def IsFit (p : FilePath) : Prop :=
  ∀ part ∈ p.parts, ∀ q ∈ part.points, Text.namePointBytes? q ≠ none ∧ q ≠ .char '\x00'

theorem IsFit.parent {p : FilePath} (fit : p.IsFit) : p.parent.IsFit :=
  fun part member => fit part (List.dropLast_subset _ member)

theorem mem_text {p : FilePath} {q : CodePoint} (refused : Text.namePointBytes? q = none) :
    q ∈ p.text.points ↔ ∃ part ∈ p.parts, q ∈ part.points := by
  have not_char (s : String) : q ∉ (Text.ofString s).points := by
    rw [Text.points_ofString]
    intro member
    obtain ⟨c, _, rfl⟩ := List.mem_map.mp member
    cases refused
  rw [text]
  split
  · next bare =>
    rw [Bool.and_eq_true, List.isEmpty_iff] at bare
    simp [bare.2, not_char]
  · rw [Text.points_append, List.mem_append, Text.mem_intercalate (not_char "/")]
    simp [not_char]

theorem hasNull_iff {p : FilePath} :
    p.hasNull = true ↔ ∃ part ∈ p.parts, .char '\x00' ∈ part.points := by
  simp [hasNull]

theorem unfit?_eq_none_iff {p : FilePath} : p.unfit? = none ↔ p.IsFit := by
  have encodes : (∃ bs, Text.encodeName p.text = .ok bs) ↔
      ∀ part ∈ p.parts, ∀ q ∈ part.points, Text.namePointBytes? q ≠ none := by
    rw [Text.encodeName, Text.encodeBy_ok_iff]
    constructor
    · exact fun all part member q inside refused =>
        all q ((mem_text refused).mpr ⟨part, member, inside⟩) refused
    · intro all q inside refused
      obtain ⟨part, member, inside⟩ := (mem_text refused).mp inside
      exact all part member q inside refused
  have clear : ¬ p.hasNull = true ↔
      ∀ part ∈ p.parts, ∀ q ∈ part.points, q ≠ CodePoint.char '\x00' := by
    rw [hasNull_iff]
    grind
  rw [unfit?]
  cases encoded : Text.encodeName p.text with
  | error why =>
    have refused : ¬ ∃ bs, Text.encodeName p.text = .ok bs := by simp [encoded]
    simp only [reduceCtorEq, false_iff]
    exact fun fit => refused (encodes.mpr fun part member q inside => (fit part member q inside).1)
  | ok bs =>
    have each := encodes.mp ⟨bs, encoded⟩
    simp only [ite_eq_right_iff, reduceCtorEq, imp_false, clear]
    exact ⟨fun rest part member q inside => ⟨each part member q inside, rest part member q inside⟩,
      fun fit part member q inside => (fit part member q inside).2⟩

theorem unfit?_parent {p : FilePath} (fit : p.unfit? = none) : p.parent.unfit? = none :=
  unfit?_eq_none_iff.mpr (unfit?_eq_none_iff.mp fit).parent

theorem isUnfit_of_unfit? {p : FilePath} {why : FileReason} (unfit : p.unfit? = some why) :
    why.isUnfit = true := by
  rw [unfit?] at unfit
  split at unfit
  · cases unfit
    rfl
  · split at unfit
    · cases unfit
      rfl
    · cases unfit

end FilePath

namespace FileTree

theorem isUnfit_of_walk {t : FileTree} {here : Location} {parts : List Text} {why : FileReason}
    (failed : t.walk here parts = .error why) : why.isUnfit = false := by
  induction parts generalizing here with
  | nil =>
    rw [walk] at failed
    cases failed
  | cons part rest ih =>
    rw [walk] at failed
    split at failed
    · cases failed
      rfl
    split at failed
    · cases failed
      rfl
    split at failed
    · cases failed
    split at failed
    · cases failed
      rfl
    · cases failed
      rfl
    · exact ih failed

theorem locate_unfit {p : FilePath} {why : FileReason} (t : FileTree)
    (unfit : p.unfit? = some why) : t.locate p = .error why := by
  rw [locate, unfit]

theorem unfit_of_locate {t : FileTree} {p : FilePath} {why : FileReason}
    (failed : t.locate p = .error why) (out : why.isUnfit = true) : p.unfit? = some why := by
  rw [locate] at failed
  split at failed
  · next unfit =>
    cases failed
    exact unfit
  · split at failed
    · cases failed
      cases out
    · rw [isUnfit_of_walk failed] at out
      cases out

theorem look_unfit {p : FilePath} {why : FileReason} (t : FileTree) (unfit : p.unfit? = some why) :
    t.look p = .error why := by
  rw [look, t.locate_unfit unfit]
  rfl

section Changes

variable {t : FileTree} {p q : FilePath} {why : FileReason} (out : why.isUnfit = true)
include out

theorem create_ne_unfit {place : Location} {e : FileEntry} :
    t.create p place e ≠ .error ⟨why, q⟩ := by
  intro failed
  rw [create] at failed
  split at failed
  · cases failed
    cases out
  · cases failed

theorem write_unfit_iff {content : Bytes} :
    t.write p content = .error ⟨why, q⟩ ↔ p.unfit? = some why ∧ q = p := by
  constructor
  · intro failed
    rw [write] at failed
    cases located : t.locate p with
    | error reason =>
      rw [located] at failed
      cases failed
      exact ⟨unfit_of_locate located out, rfl⟩
    | ok place =>
      rw [located] at failed
      dsimp only at failed
      split at failed
      · exact absurd failed (create_ne_unfit out)
      · cases failed
        cases out
      · split at failed
        · cases failed
          cases out
        · cases failed
  · rintro ⟨unfit, rfl⟩
    rw [write, t.locate_unfit unfit]

theorem makeDirectory_unfit_iff :
    t.makeDirectory p = .error ⟨why, q⟩ ↔ p.unfit? = some why ∧ q = p := by
  constructor
  · intro failed
    rw [makeDirectory] at failed
    cases located : t.locate p with
    | error reason =>
      rw [located] at failed
      cases failed
      exact ⟨unfit_of_locate located out, rfl⟩
    | ok place =>
      rw [located] at failed
      dsimp only at failed
      split at failed
      · cases failed
        cases out
      · exact absurd failed (create_ne_unfit out)
  · rintro ⟨unfit, rfl⟩
    rw [makeDirectory, t.locate_unfit unfit]

theorem makeOne_unfit_iff :
    t.makeOne p = .error ⟨why, q⟩ ↔ p.unfit? = some why ∧ q = p := by
  rw [← makeDirectory_unfit_iff (t := t) out]
  constructor
  · intro failed
    rw [makeOne] at failed
    split at failed
    · cases failed
    · cases failed
      cases out
    · next e made =>
      split at failed
      · cases failed
      · cases failed
        exact made
  · intro made
    have unfit := ((makeDirectory_unfit_iff out).mp made).1
    have absent : t.isDirectory p = false := by rw [isDirectory, t.look_unfit unfit]
    have other : why ≠ .missing := by
      rintro rfl
      cases out
    simp only [makeOne, made, absent, Bool.false_eq_true, if_false]
    split
    · next same => cases same
    · next same =>
      cases same
      exact absurd rfl other
    · next same =>
      cases same
      rfl

end Changes

theorem makeUp_fit {p q : FilePath} {why : FileReason} (fit : p.unfit? = none)
    (out : why.isUnfit = true) (fuel : Nat) (t : FileTree) :
    (makeUp fuel t p).1 ≠ .error ⟨why, q⟩ := by
  have one {p : FilePath} (fit : p.unfit? = none) (t : FileTree) :
      t.makeOne p ≠ .error ⟨why, q⟩ := by
    intro failed
    rw [((makeOne_unfit_iff out).mp failed).1] at fit
    cases fit
  -- A directory that is missing is no reason not to pass a path on.
  have missing_out {q' : FilePath} : (.error ⟨.missing, q'⟩ : Except FileError Unit) ≠
      .error ⟨why, q⟩ := by
    intro same
    cases same
    cases out
  induction fuel generalizing t p with
  | zero =>
    rw [makeUp]
    exact missing_out
  | succ fuel ih =>
    rw [makeUp]
    split
    · nofun
    · split
      · exact missing_out
      · split
        · next made =>
          intro failed
          exact ih (FilePath.unfit?_parent fit) t (made ▸ failed)
        · split
          · nofun
          · next e made =>
            intro failed
            cases failed
            exact one fit _ made
    · next e made =>
      intro failed
      cases failed
      exact one fit t made

theorem makeDirectories_unfit_iff {t : FileTree} {p q : FilePath} {why : FileReason}
    (out : why.isUnfit = true) :
    (t.makeDirectories p).1 = .error ⟨why, q⟩ ↔ p.unfit? = some why ∧ q = p := by
  have refused {why : FileReason} (unfit : p.unfit? = some why) :
      (t.makeDirectories p).1 = .error ⟨why, p⟩ := by
    have out := FilePath.isUnfit_of_unfit? unfit
    have made : t.makeOne p = .error ⟨why, p⟩ := (makeOne_unfit_iff out).mpr ⟨unfit, rfl⟩
    rw [makeDirectories, makeUp, made]
    cases why with
    | missing => cases out
    | _ => rfl
  constructor
  · intro failed
    cases unfit : p.unfit? with
    | none => exact absurd failed (makeUp_fit unfit out _ t)
    | some reason =>
      rw [refused unfit] at failed
      cases failed
      exact ⟨rfl, rfl⟩
  · rintro ⟨unfit, rfl⟩
    exact refused unfit

end FileTree

end SecretStore
