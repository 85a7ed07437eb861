import SecretStore.Text.Digit
import SecretStore.Value
import SecretStore.Yaml.Fault

/-!
Timestamps in YAML: a date with month and day of one or two digits, and behind
it, if it is more than a date, a time of day with an optional fraction of a
second and an optional distance from universal time.
-/

namespace SecretStore.Yaml

structure Timestamp where
  date : Date
  wide : Bool
  time : Option (Clock × Option Span)
deriving Repr

namespace Timestamp

private def digits (least most : Nat) (cs : List Char) : Option (List Char × List Char) :=
  let run := (cs.take most).takeWhile Text.isAsciiDigit
  if run.length < least then none else some (run, cs.drop run.length)

private def mark (c : Char) : List Char → Option (List Char)
  | [] => none
  | d :: rest => if d == c then some rest else none

private def isBlank (c : Char) : Bool :=
  c == ' ' || c == '\t'

private def readZone : List Char → Option (Option Span)
  | [] => some none
  | cs => match cs.dropWhile isBlank with
    | ['Z'] => some (some .zero)
    | sign :: rest => do
      if sign != '+' && sign != '-' then none
      let (hours, rest) ← digits 1 2 rest
      let minutes ← match rest with
        | [] => some []
        | rest => do
          let (minutes, rest) ← digits 2 2 (← mark ':' rest)
          if rest.isEmpty then some minutes else none
      let us : Int := ((Text.digitsValue hours * 60 + Text.digitsValue minutes) * 60000000 : Nat)
      return some ⟨if sign == '-' then -us else us⟩
    | [] => none

private def readTime (cs : List Char) : Option (Clock × Option Span) := do
  let rest ← match cs with
    | [] => none
    | c :: rest =>
      if c == 'T' || c == 't' then some rest
      else if isBlank c then some (rest.dropWhile isBlank)
      else none
  let (hour, rest) ← digits 1 2 rest
  let (minute, rest) ← digits 2 2 (← mark ':' rest)
  let (second, rest) ← digits 2 2 (← mark ':' rest)
  let (fraction, rest) := match rest with
    | '.' :: rest => rest.span Text.isAsciiDigit
    | rest => ([], rest)
  let clock : Clock := ⟨Text.digitsValue hour, Text.digitsValue minute, Text.digitsValue second,
    Text.millionths fraction⟩
  return (clock, ← readZone rest)

/-- The parts of a timestamp as written; its numbers are not checked. -/
def read? (cs : List Char) : Option Timestamp := do
  let (year, rest) ← digits 4 4 cs
  let (month, rest) ← digits 1 2 (← mark '-' rest)
  let (day, rest) ← digits 1 2 (← mark '-' rest)
  let date : Date := ⟨Text.digitsValue year, Text.digitsValue month, Text.digitsValue day⟩
  let wide := month.length == 2 && day.length == 2
  match rest with
  | [] => return ⟨date, wide, none⟩
  | rest => return ⟨date, wide, some (← readTime rest)⟩

/-- A scalar looks like a timestamp without saying so only if a date alone is
written in full. -/
def looksLike (cs : List Char) : Bool :=
  (read? cs).any fun t => t.wide || t.time.isSome

/-- The date or the moment. The distance is checked first, then the date, then
the time of day. -/
def toValue (t : Timestamp) : Except Fault Value :=
  match t.time with
  | none => match t.date.check with
    | .ok date => .ok (.date date)
    | .error why => .error (.date why)
  | some (clock, offset) =>
    match offset.filter (!Moment.offsetInRange ·) with
    | some s => .error (.offset s)
    | none => match t.date.check, clock.check with
      | .error why, _ => .error (.date why)
      | _, .error why => .error (.clock why)
      | .ok date, .ok clock => .ok (.moment ⟨date, clock, offset⟩)

end Timestamp

end SecretStore.Yaml
