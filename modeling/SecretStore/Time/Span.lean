import SecretStore.Text.Digit

/-!
Lengths of time in whole microseconds, of either sign. The text of a span is
its days, if any, and the hours, minutes and seconds of what is left, the days
being rounded down, so that only they can be negative. A span that is held has
at most 999999999 days in either direction.
-/

namespace SecretStore

structure Span where
  micros : Int
deriving DecidableEq, Repr, Inhabited

namespace Span

def zero : Span := ⟨0⟩

def microsPerDay : Int := 86400000000

def InRange (s : Span) : Prop :=
  -999999999 * microsPerDay ≤ s.micros ∧ s.micros < 1000000000 * microsPerDay

instance (s : Span) : Decidable s.InRange :=
  inferInstanceAs (Decidable (_ ∧ _))

def days (s : Span) : Int :=
  s.micros.fdiv microsPerDay

/-- Microseconds since the start of the last day, never negative. -/
def withinDay (s : Span) : Nat :=
  (s.micros.fmod microsPerDay).toNat

def intText (n : Int) : List Char :=
  if n < 0 then '-' :: Text.decimal n.natAbs else Text.decimal n.natAbs

structure Overflow where
  days : Int
deriving DecidableEq, Repr

def Overflow.message (o : Overflow) : String :=
  "days=" ++ String.ofList (intText o.days) ++ "; must have magnitude <= 999999999"

/-- The span itself, if it can be held. The days are rounded down, so one of minus
999999999 days and a little more cannot. -/
def held (s : Span) : Except Overflow Span :=
  if s.InRange then .ok s else .error ⟨s.days⟩

def text (s : Span) : String :=
  let day := s.days
  let us := s.withinDay
  let seconds := us / 1000000
  let front :=
    if day = 0 then []
    else intText day ++ (if day.natAbs = 1 then " day, " else " days, ").toList
  let clock := Text.decimal (seconds / 3600) ++ ':' :: Text.padded 2 (seconds / 60 % 60) ++
    ':' :: Text.padded 2 (seconds % 60)
  let fraction := if us % 1000000 = 0 then [] else '.' :: Text.padded 6 (us % 1000000)
  String.ofList (front ++ clock ++ fraction)

def literal (s : Span) : String :=
  let part (name : String) (n : Int) : List String :=
    if n = 0 then [] else [name ++ "=" ++ String.ofList (intText n)]
  let us := s.withinDay
  let parts := part "days" s.days ++ part "seconds" (us / 1000000 : Nat) ++
    part "microseconds" (us % 1000000 : Nat)
  "datetime.timedelta(" ++ (if parts.isEmpty then "0" else ", ".intercalate parts) ++ ")"

end Span

end SecretStore
