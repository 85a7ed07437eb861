import SecretStore.Json.Encoding
import SecretStore.Json.Writer
import SecretStore.Proofs.Text.Digit
import Mathlib.Data.List.TakeDrop
import Mathlib.Data.List.TakeWhile

/-!
Values that were read can be written. An integer that is read has at most 4300
digits, so its value has no more, and reading makes no other integers; lists
and objects nest no deeper than the reader may go.
-/

namespace SecretStore

theorem exists_of_bind {ε α β : Type} {x : Except ε α} {f : α → Except ε β} {b : β}
    (h : x >>= f = .ok b) : ∃ a, x = .ok a ∧ f a = .ok b := by
  cases x with
  | error why => cases h
  | ok a => exact ⟨a, rfl, h⟩

namespace Text

theorem toNat_le_of_isAsciiDigit {c : Char} (digit : isAsciiDigit c = true) :
    c.toNat - 48 ≤ 9 := by
  have last : c ≤ '9' := of_decide_eq_true (Bool.and_eq_true_iff.mp digit).2
  have bound : c.toNat ≤ 57 := last
  omega

theorem foldl_digits_lt {cs : List Char} (digits : ∀ c ∈ cs, isAsciiDigit c = true) (n : Nat) :
    cs.foldl (fun n c => n * 10 + (c.toNat - 48)) n < (n + 1) * 10 ^ cs.length := by
  induction cs generalizing n with
  | nil => simp
  | cons c rest ih =>
    rw [List.forall_mem_cons] at digits
    have digit := toNat_le_of_isAsciiDigit digits.1
    have first : n * 10 + (c.toNat - 48) + 1 ≤ (n + 1) * 10 := by omega
    calc rest.foldl (fun n c => n * 10 + (c.toNat - 48)) (n * 10 + (c.toNat - 48))
        < (n * 10 + (c.toNat - 48) + 1) * 10 ^ rest.length := ih digits.2 _
      _ ≤ (n + 1) * 10 * 10 ^ rest.length := Nat.mul_le_mul_right _ first
      _ = (n + 1) * 10 ^ (c :: rest).length := by
        rw [List.length_cons, Nat.pow_succ', Nat.mul_assoc]

theorem digitsValue_lt {cs : List Char} (digits : ∀ c ∈ cs, isAsciiDigit c = true) :
    digitsValue cs < 10 ^ cs.length := by
  have bound := foldl_digits_lt digits 0
  rwa [Nat.zero_add, Nat.one_mul] at bound

end Text

namespace Json

mutual

/-- How many lists and objects are open at once where a value nests most. -/
def depth : Json → Nat
  | .arr items => itemsDepth items + 1
  | .obj fields => fieldsDepth fields + 1
  | _ => 0

def itemsDepth : List Json → Nat
  | [] => 0
  | item :: rest => max (depth item) (itemsDepth rest)

def fieldsDepth : List (Text × Json) → Nat
  | [] => 0
  | (_, value) :: rest => max (depth value) (fieldsDepth rest)

end

theorem isShort_of_lt {n : Nat} (small : n < 10 ^ digitLimit) : isShort n = true :=
  decide_eq_true ((Nat.length_toDigits_le_iff (by decide) (by decide)).mpr small)

theorem isShort_of_le {m n : Nat} (short : isShort n = true) (le : m ≤ n) : isShort m = true := by
  have small : n < 10 ^ digitLimit :=
    (Nat.length_toDigits_le_iff (by decide) (by decide)).mp (of_decide_eq_true short)
  exact isShort_of_lt (Nat.lt_of_le_of_lt le small)

theorem digits_spanWhole (cs : List Char) :
    ∀ c ∈ (spanWhole cs).1, Text.isAsciiDigit c = true := by
  unfold spanWhole
  split
  · simp [Text.isAsciiDigit]
  · intro c member
    rw [Decimal.spanDigits, List.span_eq_takeWhile_dropWhile] at member
    exact List.mem_takeWhile_imp member

/-- The integers of a value can be written, and it nests no deeper than `levels`. -/
def IsWithin (levels : Nat) (j : Json) : Prop :=
  j.isWritable = true ∧ j.depth ≤ levels

def ItemsWithin (levels : Nat) (items : List Json) : Prop :=
  areWritable items = true ∧ itemsDepth items ≤ levels

def FieldsWithin (levels : Nat) (fields : List (Text × Json)) : Prop :=
  fieldsWritable fields = true ∧ fieldsDepth fields ≤ levels

theorem itemsWithin_cons {levels : Nat} {item : Json} {items : List Json}
    (first : item.IsWithin levels) (others : ItemsWithin levels items) :
    ItemsWithin levels (item :: items) :=
  ⟨Bool.and_eq_true_iff.mpr ⟨first.1, others.1⟩, Nat.max_le.mpr ⟨first.2, others.2⟩⟩

theorem fieldsWithin_cons {levels : Nat} {field : Text × Json} {fields : List (Text × Json)} :
    FieldsWithin levels (field :: fields) ↔
      field.2.IsWithin levels ∧ FieldsWithin levels fields := by
  obtain ⟨name, value⟩ := field
  simp only [FieldsWithin, IsWithin, fieldsWritable, fieldsDepth, Bool.and_eq_true, Nat.max_le]
  tauto

theorem isWithin_readUnsigned {levels : Nat} {negative : Bool} {cs rest : List Char} {j : Json}
    (read : readUnsigned negative cs = some (.ok (j, rest))) : j.IsWithin levels := by
  have digits := digits_spanWhole cs
  simp only [readUnsigned] at read
  split at read
  · cases read
  · split at read
    · split at read
      · cases read
      · next short =>
        cases read
        have few : (spanWhole cs).1.length ≤ digitLimit := Nat.le_of_not_lt short
        have small : Text.digitsValue (spanWhole cs).1 < 10 ^ digitLimit :=
          Nat.lt_of_lt_of_le (Text.digitsValue_lt digits)
            (Nat.pow_le_pow_right (by decide) few)
        have magnitude (n : Int) (eq : n.natAbs = Text.digitsValue (spanWhole cs).1) :
            (Json.int n).IsWithin levels := by
          refine ⟨?_, Nat.zero_le _⟩
          rw [isWritable, eq]
          exact isShort_of_lt small
        split
        · exact magnitude _ (Int.natAbs_neg _)
        · exact magnitude _ rfl
    · cases read
      exact ⟨rfl, Nat.zero_le _⟩

theorem isWithin_readFront {levels : Nat} {cs rest : List Char} {j : Json}
    (read : readFront cs = some (.ok (j, rest))) : j.IsWithin levels := by
  simp only [readFront] at read
  split at read
  · cases read; exact ⟨rfl, Nat.zero_le _⟩
  · cases read; exact ⟨rfl, Nat.zero_le _⟩
  · cases read; exact ⟨rfl, Nat.zero_le _⟩
  · split at read
    · cases read; exact ⟨rfl, Nat.zero_le _⟩
    · cases read; exact ⟨rfl, Nat.zero_le _⟩
    · cases read; exact ⟨rfl, Nat.zero_le _⟩
    · split at read
      · exact isWithin_readUnsigned read
      · exact isWithin_readUnsigned read

theorem isWithin_readScalar {levels : Nat} {cs rest : List CodePoint} {j : Json}
    (read : readScalar cs = .ok (j, rest)) : j.IsWithin levels := by
  rw [readScalar] at read
  split at read
  · cases read
  · cases read
  · next front =>
    cases read
    exact isWithin_readFront front

theorem fieldsWithin_setField {levels : Nat} {name : Text} {value : Json}
    (within : value.IsWithin levels) :
    ∀ {fields : List (Text × Json)}, FieldsWithin levels fields →
      FieldsWithin levels (setField name value fields)
  | [], all => fieldsWithin_cons.mpr ⟨within, all⟩
  | (n, v) :: rest, all => by
    obtain ⟨first, others⟩ := fieldsWithin_cons.mp all
    rw [setField]
    split
    · exact fieldsWithin_cons.mpr ⟨within, others⟩
    · exact fieldsWithin_cons.mpr ⟨first, fieldsWithin_setField within others⟩

theorem fieldsWithin_ofFields {levels : Nat} {written : List (Text × Json)}
    (all : FieldsWithin levels written) : FieldsWithin levels (ofFields written) := by
  suffices ∀ {fields}, FieldsWithin levels fields → FieldsWithin levels
      (written.foldl (fun fields field => setField field.1 field.2 fields) fields) from
    this ⟨rfl, Nat.zero_le _⟩
  induction written with
  | nil => exact id
  | cons field rest ih =>
    obtain ⟨first, others⟩ := fieldsWithin_cons.mp all
    exact fun kept => ih others (fieldsWithin_setField first kept)

section Readers

variable {fuel : Nat}
  (values : ∀ {levels cs j rest}, readValue levels fuel cs = .ok (j, rest) → j.IsWithin levels)
  (items : ∀ {levels cs is rest}, readItems levels fuel cs = .ok (is, rest) →
    ItemsWithin levels is)
  (fields : ∀ {levels cs fs rest}, readFields levels fuel cs = .ok (fs, rest) →
    FieldsWithin levels fs)

include items fields in
theorem isWithin_readValue {levels : Nat} {cs rest : List CodePoint} {j : Json}
    (read : readValue levels (fuel + 1) cs = .ok (j, rest)) : j.IsWithin levels := by
  unfold readValue at read
  split at read
  · obtain ⟨_, -, read⟩ := exists_of_bind read
    cases read
    exact ⟨rfl, Nat.zero_le _⟩
  · split at read
    · cases read
    · cases read
      exact ⟨rfl, Nat.succ_le_succ (Nat.zero_le _)⟩
    · obtain ⟨⟨is, _⟩, inner, read⟩ := exists_of_bind read
      cases read
      have within := items inner
      exact ⟨within.1, Nat.succ_le_succ within.2⟩
  · split at read
    · cases read
    · cases read
      exact ⟨rfl, Nat.succ_le_succ (Nat.zero_le _)⟩
    · obtain ⟨⟨fs, _⟩, inner, read⟩ := exists_of_bind read
      cases read
      have within := fieldsWithin_ofFields (fields inner)
      exact ⟨within.1, Nat.succ_le_succ within.2⟩
  · exact isWithin_readScalar read

include values items in
theorem itemsWithin_readItems {levels : Nat} {cs rest : List CodePoint} {is : List Json}
    (read : readItems levels (fuel + 1) cs = .ok (is, rest)) : ItemsWithin levels is := by
  unfold readItems at read
  obtain ⟨⟨item, _⟩, first, read⟩ := exists_of_bind read
  have within := values first
  dsimp only at read
  split at read
  · cases read
    exact itemsWithin_cons within ⟨rfl, Nat.zero_le _⟩
  · obtain ⟨⟨others, _⟩, inner, read⟩ := exists_of_bind read
    cases read
    exact itemsWithin_cons within (items inner)
  · cases read

include values fields in
theorem fieldsWithin_readFields {levels : Nat} {cs rest : List CodePoint}
    {fs : List (Text × Json)} (read : readFields levels (fuel + 1) cs = .ok (fs, rest)) :
    FieldsWithin levels fs := by
  unfold readFields at read
  split at read
  · obtain ⟨⟨name, _⟩, -, read⟩ := exists_of_bind read
    dsimp only at read
    split at read
    · obtain ⟨⟨value, _⟩, first, read⟩ := exists_of_bind read
      have within := values first
      dsimp only at read
      split at read
      · cases read
        exact fieldsWithin_cons.mpr ⟨within, rfl, Nat.zero_le _⟩
      · obtain ⟨⟨others, _⟩, inner, read⟩ := exists_of_bind read
        cases read
        exact fieldsWithin_cons.mpr ⟨within, fields inner⟩
      · cases read
    · cases read
  · cases read

end Readers

theorem within_readers (fuel : Nat) :
    (∀ {levels cs j rest}, readValue levels fuel cs = .ok (j, rest) → j.IsWithin levels) ∧
    (∀ {levels cs is rest}, readItems levels fuel cs = .ok (is, rest) → ItemsWithin levels is) ∧
    ∀ {levels cs fs rest}, readFields levels fuel cs = .ok (fs, rest) →
      FieldsWithin levels fs := by
  induction fuel with
  | zero =>
    refine ⟨fun read => ?_, fun read => ?_, fun read => ?_⟩
    · unfold readValue at read
      cases read
    · unfold readItems at read
      cases read
    · unfold readFields at read
      cases read
  | succ fuel ih =>
    obtain ⟨values, items, fields⟩ := ih
    exact ⟨isWithin_readValue items fields, itemsWithin_readItems values items,
      fieldsWithin_readFields values fields⟩

theorem isWithin_ofBytes {levels : Nat} {bs : Bytes} {j : Json}
    (read : ofBytes levels bs = .ok j) : j.IsWithin levels := by
  rw [ofBytes] at read
  split at read
  · cases read
  · split at read
    · cases read
    · cases read
    · next value whole =>
      cases read
      rw [Json.read] at whole
      split at whole
      · cases whole
      · next inner =>
        split at whole
        · cases whole
          exact (within_readers _).1 inner
        · cases whole

end Json

end SecretStore
