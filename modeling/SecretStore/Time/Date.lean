import SecretStore.Text.Digit

/-!
Dates of the Gregorian calendar in the years 1 to 9999, and their ordinals:
the first of January of the year 1 is day 1.
-/

namespace SecretStore

structure Date where
  year : Nat
  month : Nat
  day : Nat
deriving DecidableEq, Repr, Inhabited

namespace Date

def isLeap (year : Nat) : Bool :=
  year % 4 == 0 && (year % 100 != 0 || year % 400 == 0)

def daysInMonth (year month : Nat) : Nat :=
  if month = 2 then (if isLeap year then 29 else 28)
  else if month = 4 || month = 6 || month = 9 || month = 11 then 30
  else 31

inductive Fault
  | year (n : Nat)
  | month
  | day
deriving DecidableEq, Repr

def check (d : Date) : Except Fault Date :=
  if d.year < 1 || 9999 < d.year then .error (.year d.year)
  else if d.month < 1 || 12 < d.month then .error .month
  else if d.day < 1 || daysInMonth d.year d.month < d.day then .error .day
  else .ok d

def Valid (d : Date) : Prop :=
  1 ≤ d.year ∧ d.year ≤ 9999 ∧ 1 ≤ d.month ∧ d.month ≤ 12 ∧
    1 ≤ d.day ∧ d.day ≤ daysInMonth d.year d.month

instance (d : Date) : Decidable d.Valid :=
  inferInstanceAs (Decidable (_ ∧ _))

def Fault.message : Fault → String
  | .year n => "year " ++ String.ofList (Text.decimal n) ++ " is out of range"
  | .month => "month must be in 1..12"
  | .day => "day is out of range for month"

def daysBeforeYear (year : Nat) : Nat :=
  let y := year - 1
  y * 365 + y / 4 - y / 100 + y / 400

def daysBeforeMonth (year : Nat) : Nat → Nat
  | 0 => 0
  | month + 1 => if month = 0 then 0 else daysBeforeMonth year month + daysInMonth year month

def toOrdinal (d : Date) : Nat :=
  daysBeforeYear d.year + daysBeforeMonth d.year d.month + d.day

/-- The month and day of a day of the year, counted from zero, at most `fuel` months on. -/
private def splitYear (year : Nat) : Nat → Nat → Nat → Nat × Nat
  | 0, month, n => (month, n + 1)
  | fuel + 1, month, n =>
    if n < daysInMonth year month then (month, n + 1)
    else splitYear year fuel (month + 1) (n - daysInMonth year month)

/-- The date of a positive ordinal; cycles of 400, 100, 4 and 1 years have
146097, 36524, 1461 and 365 days. -/
def ofOrdinal (ordinal : Nat) : Date :=
  let n := ordinal - 1
  let n400 := n / 146097
  let n := n % 146097
  let n100 := min (n / 36524) 3
  let n := n - n100 * 36524
  let n4 := n / 1461
  let n := n % 1461
  let n1 := min (n / 365) 3
  let n := n - n1 * 365
  let year := n400 * 400 + n100 * 100 + n4 * 4 + n1 + 1
  let (month, day) := splitYear year 11 1 n
  ⟨year, month, day⟩

/-- Monday is 0 and Sunday 6. -/
def weekday (d : Date) : Nat :=
  (d.toOrdinal + 6) % 7

/-- The ordinal of the Monday of the first week of a year, the one that holds
its first Thursday; it may be zero or less. -/
def firstMonday (year : Nat) : Int :=
  let first := toOrdinal ⟨year, 1, 1⟩
  let day := (first + 6) % 7
  let monday : Int := (first : Int) - day
  if 3 < day then monday + 7 else monday

def text (d : Date) : List Char :=
  Text.padded 4 d.year ++ '-' :: Text.padded 2 d.month ++ '-' :: Text.padded 2 d.day

end Date

end SecretStore
