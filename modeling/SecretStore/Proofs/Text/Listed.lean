import Mathlib.Data.List.DropRight
import SecretStore.Text.Blank

/-!
Names between commas. A text lists names if, between its commas, they stand in their order,
with any white space around them, and among any pieces that are white space alone. Every
text lists the names that are read from it, and no others. So the names of one text, joined
by commas, are read as the same names again.
-/

namespace SecretStore.Text

variable {cs before behind name : List CodePoint} {pieces names : List (List CodePoint)}

def Blank (cs : List CodePoint) : Prop :=
  ∀ c ∈ cs, isBlankPoint c = true

/-- What can stand in a list between commas: something without a comma, and without white
space around it. -/
structure IsName (cs : List CodePoint) : Prop where
  nonempty : cs ≠ []
  whole : CodePoint.char ',' ∉ cs
  front : ∀ c, cs.head? = some c → isBlankPoint c = false
  back : ∀ c, cs.getLast? = some c → isBlankPoint c = false

/-- The pieces of a list of names, which are the names and gaps. -/
inductive Pieces : List (List CodePoint) → List (List CodePoint) → Prop
  | nil : Pieces [] []
  | gap {piece : List CodePoint} {names pieces : List (List CodePoint)} (blank : Blank piece)
      (rest : Pieces names pieces) : Pieces names (piece :: pieces)
  | name {before name behind : List CodePoint} {names pieces : List (List CodePoint)}
      (front : Blank before) (named : IsName name) (back : Blank behind)
      (rest : Pieces names pieces) : Pieces (name :: names) ((before ++ name ++ behind) :: pieces)

def Lists (names : List (List CodePoint)) (cs : List CodePoint) : Prop :=
  ∃ pieces, Pieces names pieces ∧ [CodePoint.char ','].intercalate pieces = cs

theorem Blank.whole (blank : Blank cs) : CodePoint.char ',' ∉ cs :=
  fun member => absurd (blank _ member) (by decide)

theorem trim_eq (cs : List CodePoint) :
    trim cs = (cs.dropWhile isBlankPoint).rdropWhile isBlankPoint := rfl

theorem trim_blank (blank : Blank cs) : trim cs = [] := by
  rw [trim_eq, List.dropWhile_eq_nil_iff.mpr blank, List.rdropWhile_nil]

theorem trim_around (front : Blank before) (named : IsName name) (back : Blank behind) :
    trim (before ++ name ++ behind) = name := by
  obtain ⟨c, rest, rfl⟩ := List.exists_cons_of_ne_nil named.nonempty
  have first : ¬ isBlankPoint c = true := Bool.eq_false_iff.mp (named.front c rfl)
  calc trim (before ++ c :: rest ++ behind)
      = (c :: rest ++ behind).rdropWhile isBlankPoint := by
        rw [trim_eq, List.append_assoc, List.dropWhile_append_of_pos front, List.cons_append,
          List.dropWhile_cons_of_neg first]
    _ = (c :: rest).rdropWhile isBlankPoint := by
        rw [List.rdropWhile, List.rdropWhile, List.reverse_append,
          List.dropWhile_append_of_pos fun d member => back d (List.mem_reverse.mp member)]
    _ = c :: rest := by
        refine List.rdropWhile_eq_self_iff.mpr fun nonempty => ?_
        rw [named.back _ (List.getLast?_eq_some_getLast nonempty)]
        exact Bool.false_ne_true

theorem exists_trim (cs : List CodePoint) :
    ∃ before behind, Blank before ∧ Blank behind ∧ before ++ trim cs ++ behind = cs := by
  refine ⟨cs.takeWhile isBlankPoint, (cs.dropWhile isBlankPoint).rtakeWhile isBlankPoint,
    fun _ => List.mem_takeWhile_imp, fun _ => List.mem_rtakeWhile_imp, ?_⟩
  rw [trim_eq, List.append_assoc, List.rdropWhile_append_rtakeWhile,
    List.takeWhile_append_dropWhile]

theorem isName_trim (whole : CodePoint.char ',' ∉ cs) (nonempty : trim cs ≠ []) :
    IsName (trim cs) := by
  have start : trim cs <+: cs.dropWhile isBlankPoint := List.rdropWhile_prefix isBlankPoint _
  refine ⟨nonempty, fun member => whole ?_, fun c first => ?_, fun c last => ?_⟩
  · exact List.dropWhile_subset _ (start.subset member)
  · have there := List.singleton_prefix_iff_head?_eq_some.mp
      ((List.singleton_prefix_iff_head?_eq_some.mpr first).trans start)
    have stopped := List.head?_dropWhile_not isBlankPoint cs
    rwa [there] at stopped
  · rw [List.getLast?_eq_some_getLast nonempty, Option.some_inj] at last
    exact last ▸ Bool.eq_false_iff.mpr (List.rdropWhile_last_not isBlankPoint _ nonempty)

theorem splitOn_eq (separator : CodePoint) (cs : List CodePoint) :
    splitOn separator cs = cs.splitOn separator := by
  induction cs with
  | nil => rfl
  | cons c rest ih =>
    rw [splitOn, List.splitOn_cons_eq_if_modifyHead, ih]
    split
    · rfl
    · cases pieces : rest.splitOn separator with
      | nil => exact absurd pieces (List.splitOn_ne_nil _ _)
      | cons piece pieces => rfl

theorem whole_of_mem_splitOn : ∀ piece ∈ splitOn (.char ',') cs, CodePoint.char ',' ∉ piece := by
  induction cs with
  | nil => exact fun piece member => List.mem_singleton.mp member ▸ List.not_mem_nil
  | cons c rest ih =>
    rw [splitOn]
    split
    · exact List.forall_mem_cons.mpr ⟨List.not_mem_nil, ih⟩
    · next other =>
      have apart : CodePoint.char ',' ≠ c := fun same => other (beq_iff_eq.mpr same.symm)
      split
      · exact fun piece member => List.mem_singleton.mp member ▸ by simpa using apart
      · next piece pieces split =>
        rw [split] at ih
        obtain ⟨first, later⟩ := List.forall_mem_cons.mp ih
        exact List.forall_mem_cons.mpr ⟨List.not_mem_cons_of_ne_of_not_mem apart first, later⟩

theorem Pieces.whole (listed : Pieces names pieces) :
    ∀ piece ∈ pieces, CodePoint.char ',' ∉ piece := by
  induction listed with
  | nil => exact fun _ member => absurd member List.not_mem_nil
  | gap blank _ ih => exact List.forall_mem_cons.mpr ⟨blank.whole, ih⟩
  | name front named back _ ih =>
    refine List.forall_mem_cons.mpr ⟨fun member => ?_, ih⟩
    rcases List.mem_append.mp member with member | member
    · rcases List.mem_append.mp member with member | member
      · exact front.whole member
      · exact named.whole member
    · exact back.whole member

theorem Pieces.trimmed (listed : Pieces names pieces) :
    (pieces.map trim).filter (!·.isEmpty) = names := by
  induction listed with
  | nil => rfl
  | gap blank _ ih =>
    rw [List.map_cons, trim_blank blank, List.filter_cons_of_neg (by simp), ih]
  | name front named back _ ih =>
    rw [List.map_cons, trim_around front named back,
      List.filter_cons_of_pos (by simpa using named.nonempty), ih]

theorem pieces_of_whole (whole : ∀ piece ∈ pieces, CodePoint.char ',' ∉ piece) :
    Pieces ((pieces.map trim).filter (!·.isEmpty)) pieces := by
  induction pieces with
  | nil => exact .nil
  | cons piece pieces ih =>
    obtain ⟨first, later⟩ := List.forall_mem_cons.mp whole
    obtain ⟨before, behind, front, back, parts⟩ := exists_trim piece
    rw [List.map_cons]
    by_cases empty : trim piece = []
    -- nothing but what was taken off, which is white space
    · rw [empty, List.filter_cons_of_neg (by simp)]
      refine .gap ?_ (ih later)
      rw [← parts, empty, List.append_nil]
      exact fun c member => (List.mem_append.mp member).elim (front c) (back c)
    · rw [List.filter_cons_of_pos (by simpa using empty)]
      have listed := Pieces.name front (isName_trim first empty) back (ih later)
      rwa [parts] at listed

theorem lists_iff : Lists names cs ↔ commaSeparated cs = names := by
  rw [commaSeparated]
  constructor
  · rintro ⟨pieces, listed, rfl⟩
    cases pieces with
    | nil =>
      cases listed
      rfl
    | cons piece pieces =>
      rw [splitOn_eq,
        List.splitOn_intercalate (CodePoint.char ',') listed.whole (List.cons_ne_nil _ _)]
      exact listed.trimmed
  · rintro rfl
    refine ⟨splitOn (.char ',') cs, pieces_of_whole whole_of_mem_splitOn, ?_⟩
    rw [splitOn_eq, List.intercalate_splitOn]

theorem Pieces.isName (listed : Pieces names pieces) : ∀ name ∈ names, IsName name := by
  induction listed with
  | nil => exact fun _ member => absurd member List.not_mem_nil
  | gap _ _ ih => exact ih
  | name _ named _ _ ih => exact List.forall_mem_cons.mpr ⟨named, ih⟩

theorem lists_intercalate (named : ∀ name ∈ names, IsName name) :
    Lists names ([CodePoint.char ','].intercalate names) := by
  refine ⟨names, ?_, rfl⟩
  induction names with
  | nil => exact .nil
  | cons name names ih =>
    obtain ⟨first, later⟩ := List.forall_mem_cons.mp named
    have listed := @Pieces.name [] name [] names names nofun first nofun (ih later)
    rwa [List.nil_append, List.append_nil] at listed

theorem commaSeparated_again (cs : List CodePoint) :
    commaSeparated ([CodePoint.char ','].intercalate (commaSeparated cs)) = commaSeparated cs := by
  obtain ⟨pieces, listed, -⟩ := lists_iff.mpr (Eq.refl (commaSeparated cs))
  exact lists_iff.mp (lists_intercalate listed.isName)

end SecretStore.Text
