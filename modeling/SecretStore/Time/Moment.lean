import SecretStore.Time.Date
import SecretStore.Time.Span

/-!
Moments: a date, a time of day to the microsecond, and the distance of the
clock from universal time, if it is known. The text has microseconds only if
there are any, and in the distance seconds and microseconds likewise.
-/

namespace SecretStore

structure Clock where
  hour : Nat
  minute : Nat
  second : Nat
  micro : Nat
deriving DecidableEq, Repr, Inhabited

namespace Clock

def Valid (c : Clock) : Prop :=
  c.hour < 24 ∧ c.minute < 60 ∧ c.second < 60 ∧ c.micro < 1000000

instance (c : Clock) : Decidable c.Valid :=
  inferInstanceAs (Decidable (_ ∧ _))

inductive Fault
  | hour
  | minute
  | second
  | micro
deriving DecidableEq, Repr

def check (c : Clock) : Except Fault Clock :=
  if 24 ≤ c.hour then .error .hour
  else if 60 ≤ c.minute then .error .minute
  else if 60 ≤ c.second then .error .second
  else if 1000000 ≤ c.micro then .error .micro
  else .ok c

def Fault.message : Fault → String
  | .hour => "hour must be in 0..23"
  | .minute => "minute must be in 0..59"
  | .second => "second must be in 0..59"
  | .micro => "microsecond must be in 0..999999"

def text (c : Clock) : List Char :=
  Text.padded 2 c.hour ++ ':' :: Text.padded 2 c.minute ++ ':' :: Text.padded 2 c.second ++
    (if c.micro = 0 then [] else '.' :: Text.padded 6 c.micro)

def ofMicros (us : Nat) : Clock :=
  ⟨us / 3600000000, us / 60000000 % 60, us / 1000000 % 60, us % 1000000⟩

def toMicros (c : Clock) : Nat :=
  ((c.hour * 60 + c.minute) * 60 + c.second) * 1000000 + c.micro

end Clock

structure Moment where
  date : Date
  clock : Clock
  offset : Option Span
deriving DecidableEq, Repr, Inhabited

namespace Moment

def offsetInRange (s : Span) : Bool :=
  s.micros.natAbs < 86400000000

def Valid (m : Moment) : Prop :=
  m.date.Valid ∧ m.clock.Valid ∧ ∀ s ∈ m.offset, offsetInRange s = true

instance (m : Moment) : Decidable m.Valid :=
  inferInstanceAs (Decidable (_ ∧ _ ∧ _))

/-- Days from day 1 of the calendar to the first of January 1970. -/
def epochOrdinal : Int := 719163

/-- The moment so many microseconds after the start of 1970, in universal time. -/
def ofMicros (us : Int) : Moment :=
  let day := us.fdiv Span.microsPerDay + epochOrdinal
  let rest := (us.fmod Span.microsPerDay).toNat
  ⟨.ofOrdinal day.toNat, .ofMicros rest, some .zero⟩

def toMicros (m : Moment) : Int :=
  ((m.date.toOrdinal : Int) - epochOrdinal) * Span.microsPerDay + m.clock.toMicros -
    (m.offset.getD .zero).micros

def offsetText (s : Span) : List Char :=
  let us := s.micros.natAbs
  let seconds := us / 1000000
  let micro := us % 1000000
  (if s.micros < 0 then '-' else '+') :: Text.padded 2 (seconds / 3600) ++
    ':' :: Text.padded 2 (seconds / 60 % 60) ++
    (if seconds % 60 = 0 && micro = 0 then []
      else ':' :: Text.padded 2 (seconds % 60) ++
        (if micro = 0 then [] else '.' :: Text.padded 6 micro))

def chars (m : Moment) : List Char :=
  m.date.text ++ 'T' :: m.clock.text ++
    (match m.offset with
      | none => []
      | some s => offsetText s)

def text (m : Moment) : String :=
  String.ofList m.chars

private def numberList (ns : List Nat) : String :=
  ", ".intercalate (ns.map fun n => String.ofList (Text.decimal n))

def dateLiteral (d : Date) : String :=
  "datetime.date(" ++ numberList [d.year, d.month, d.day] ++ ")"

def literal (m : Moment) : String :=
  let c := m.clock
  let parts := [m.date.year, m.date.month, m.date.day, c.hour, c.minute] ++
    (if c.second = 0 && c.micro = 0 then []
      else if c.micro = 0 then [c.second]
      else [c.second, c.micro])
  let zone := match m.offset with
    | none => ""
    | some s =>
      if s = .zero then ", tzinfo=datetime.timezone.utc"
      else ", tzinfo=datetime.timezone(" ++ s.literal ++ ")"
  "datetime.datetime(" ++ numberList parts ++ zone ++ ")"

/-- Equality of moments: two with known distances are compared in universal time. -/
def same (a b : Moment) : Bool :=
  match a.offset, b.offset with
  | some _, some _ => a.toMicros == b.toMicros
  | none, none => a == b
  | _, _ => false

end Moment

end SecretStore
