import SecretStore.Number.Bounds
import SecretStore.Number.Decimal
import SecretStore.Text.Utf8
import SecretStore.Time.Span

/-!
Reading a length of time: a number of seconds, or a text in one of three
forms. Behind the letter P stand quantities with their units, years of 365 and
months of 30 days among them; a text with the letter d is a number of days,
perhaps with a time behind it; any other is hours, minutes and seconds with
colons between them. Days, seconds and microseconds are counted in 32 bits,
and a text in bytes of UTF-8.
-/

namespace SecretStore.Span

inductive Fault
  | tooShort
  | extraCharacters
  | hourCharacter
  | minuteCharacter
  | secondCharacter
  | separator
  | minuteRange
  | secondRange
  | missingFraction
  | notADigit
  | repeatedTime
  | fractionNotLast
  | timeUnit
  | dateUnit
  | dayWord
  | valueTooLarge
  | tooManyDays
  | tooManyHours
  | notANumber
deriving DecidableEq, Repr

def Fault.message : Fault → String
  | .tooShort => "input is too short"
  | .extraCharacters => "unexpected extra characters at the end of the input"
  | .hourCharacter => "invalid character in hour"
  | .minuteCharacter => "invalid character in minute"
  | .secondCharacter => "invalid character in second"
  | .separator => "invalid time separator, expected `:`"
  | .minuteRange => "minute value is outside expected range of 0-59"
  | .secondRange => "second value is outside expected range of 0-59"
  | .missingFraction => "second fraction is missing digits after `.`"
  | .notADigit => "invalid digit in duration"
  | .repeatedTime => "`t` character repeated in duration"
  | .fractionNotLast => "quantity fraction invalid in duration"
  | .timeUnit => "quantity invalid in time part of duration"
  | .dateUnit => "quantity invalid in date part of duration"
  | .dayWord => "\"day\" identifier in duration not correctly formatted"
  | .valueTooLarge => "a numeric value in the duration is too large"
  | .tooManyDays => "durations may not exceed 999,999,999 days"
  | .tooManyHours => "durations may not exceed 999,999,999 hours"
  | .notANumber => "NaN values not permitted"

/-- Days, seconds and microseconds that have not been carried yet. -/
structure Amount where
  days : Nat
  seconds : Nat
  micros : Nat
deriving Repr

private def fit (n : Nat) : Except Fault Nat :=
  if n ≤ Bounds.greatest32 then .ok n else .error .valueTooLarge

/-- Carries microseconds into seconds and seconds into days. The limit is on the days
without their sign. -/
def Amount.toSpan (a : Amount) (negative : Bool) : Except Fault Span := do
  let seconds ← if 1000000 ≤ a.micros then fit (a.seconds + a.micros / 1000000) else .ok a.seconds
  let micros := a.micros % 1000000
  let days ← if 86400 ≤ seconds then fit (a.days + seconds / 86400) else .ok a.days
  let seconds := seconds % 86400
  if 999999999 < days then .error .tooManyDays
  else
    let us : Int := ((days * 86400 + seconds) * 1000000 + micros : Nat)
    return ⟨if negative then -us else us⟩

private def readNumber (cs : List Char) : Except Fault (Nat × List Char) :=
  let (ds, rest) := Decimal.spanDigits cs
  if ds.isEmpty then .error .notADigit
  else (fit (Text.digitsValue ds)).map fun n => (n, rest)

private def fractionValue (ds : List Char) : Binary64 :=
  let ten := Binary64.ofNat 10
  let step (acc : Binary64 × Binary64) (c : Char) : Binary64 × Binary64 :=
    (((acc.1.mul ten).add (.ofNat (c.toNat - 48))), acc.2.mul ten)
  let (num, den) := ds.foldl step (.ofNat 0, .ofNat 1)
  num.div den

private def readQuantity (cs : List Char) : Except Fault (Nat × Option Binary64 × List Char) := do
  let (n, rest) ← readNumber cs
  match rest with
  | c :: rest' =>
    if c == '.' || c == ',' then
      let (ds, rest'') := Decimal.spanDigits rest'
      return (n, some (fractionValue ds), rest'')
    else return (n, none, rest)
  | [] => return (n, none, rest)

/-- A non-negative double cut to whole numbers of 32 bits; the last value stands
for all greater ones, and zero for what is no number. -/
private def cut (x : Binary64) : Nat :=
  match x with
  | .nan => 0
  | .infinite negative => if negative then 0 else Bounds.greatest32
  | _ => min (x.truncate?.getD 0).toNat Bounds.greatest32

private def roundCut (x : Binary64) : Nat :=
  match x with
  | .nan => 0
  | .infinite negative => if negative then 0 else Bounds.greatest32
  | _ => min (x.roundAway?.getD 0).toNat Bounds.greatest32

private def microsOf (fraction : Binary64) : Nat :=
  roundCut (fraction.mul (.ofNat 1000000))

private def addTime (a : Amount) (unit value : Nat) (fraction : Option Binary64) :
    Except Fault Amount := do
  let seconds ← fit (a.seconds + (← fit (unit * value)))
  match fraction with
  | none => return { a with seconds }
  | some f =>
    let extra := f.mul (.ofNat unit)
    let seconds ← fit (seconds + cut extra)
    let micros ← fit (a.micros + microsOf extra.fract)
    return { a with seconds, micros }

private def addDays (a : Amount) (unit value : Nat) (fraction : Option Binary64) :
    Except Fault Amount := do
  let days ← fit (a.days + (← fit (unit * value)))
  match fraction with
  | none => return { a with days }
  | some f =>
    let extra := f.mul (.ofNat unit)
    let days ← fit (days + cut extra)
    let rest := extra.fract.mul (.ofNat 86400)
    let seconds ← fit (a.seconds + cut rest)
    let micros ← fit (a.micros + microsOf rest.fract)
    return ⟨days, seconds, micros⟩

private def timeUnit? : List Char → Option (Nat × List Char)
  | 'H' :: rest => some (3600, rest)
  | 'M' :: rest => some (60, rest)
  | 'S' :: rest => some (1, rest)
  | _ => none

private def dateUnit? : List Char → Option (Nat × List Char)
  | 'Y' :: rest => some (365, rest)
  | 'M' :: rest => some (30, rest)
  | 'W' :: rest => some (7, rest)
  | 'D' :: rest => some (1, rest)
  | _ => none

/-- Quantities with their units; those behind the letter T are times. No
quantity may follow one with a fraction. -/
private def readUnits : Nat → Bool → Bool → Amount → List Char → Except Fault Amount
  | 0, _, _, a, _ => .ok a
  | _ + 1, _, _, a, [] => .ok a
  | fuel + 1, inTime, fractional, a, c :: rest =>
    if c == 'T' then
      if inTime then .error .repeatedTime else readUnits fuel true fractional a rest
    else do
      let (value, fraction, rest) ← readQuantity (c :: rest)
      if fractional then .error .fractionNotLast
      else if inTime then
        match timeUnit? rest with
        | none => .error .timeUnit
        | some (unit, rest) =>
          readUnits fuel true fraction.isSome (← addTime a unit value fraction) rest
      else
        match dateUnit? rest with
        | none => .error .dateUnit
        | some (unit, rest) =>
          readUnits fuel false fraction.isSome (← addDays a unit value fraction) rest

def readPair (fault : Fault) : List Char → Except Fault (Nat × List Char)
  | a :: b :: rest =>
    match Text.asciiDigit? a, Text.asciiDigit? b with
    | some x, some y => .ok (10 * x + y, rest)
    | _, _ => .error fault
  | _ => .error fault

/-- The digits behind the point of a second, in microseconds; those behind the
sixth are dropped. -/
def readMicros (cs : List Char) : Except Fault (Nat × List Char) :=
  let (ds, rest) := Decimal.spanDigits cs
  if ds.isEmpty then .error .missingFraction
  else .ok (Text.millionths ds, rest)

/-- Minutes, and seconds with a fraction if a colon follows: the seconds and
microseconds they make. -/
def readMinutes (cs : List Char) : Except Fault (Nat × Nat × List Char) := do
  let (minute, rest) ← readPair .minuteCharacter cs
  if 59 < minute then .error .minuteRange
  else match rest with
    | ':' :: rest => do
      let (second, rest) ← readPair .secondCharacter rest
      if 59 < second then .error .secondRange
      else match rest with
        | c :: rest' =>
          if c == '.' || c == ',' then
            let (micros, rest) ← readMicros rest'
            return (60 * minute + second, micros, rest)
          else return (60 * minute + second, 0, rest)
        | [] => return (60 * minute + second, 0, rest)
    | rest => return (60 * minute, 0, rest)

/-- Hours, which may make up a hundred million days, minutes and seconds;
twelve characters behind the first colon count. -/
private def readTime (cs : List Char) : Except Fault Amount := do
  let hour := cs.takeWhile (· != ':')
  match cs.dropWhile (· != ':') with
  | [] => .error .hourCharacter
  | _ :: rest =>
    if 10 < hour.length then .error .tooManyHours
    else if !hour.all Text.isAsciiDigit then .error .hourCharacter
    else
      let hours := Text.digitsValue hour
      let rest := rest.take 12
      if 2400000000 < hours then .error .tooManyHours
      else if rest.length < 2 then .error .tooShort
      else
        let (seconds, micros, rest) ← readMinutes rest
        if !rest.isEmpty then .error .extraCharacters
        else return ⟨hours / 24, hours % 24 * 3600 + seconds, micros⟩

/-- The time behind the number of days; an S, a comma and a blank may stand
between them, in this order. -/
private def readAfterDays (days : Nat) (cs : List Char) : Except Fault Amount := do
  let skip (p : Char → Bool) : List Char → List Char
    | c :: rest => if p c then rest else c :: rest
    | [] => []
  let rest := skip (fun c => c == 's' || c == 'S') cs
  let rest := skip (· == ',') rest
  let rest := skip (· == ' ') rest
  if rest.isEmpty then return ⟨days, 0, 0⟩
  else
    let time ← readTime rest
    return { time with days := (← fit (days + time.days)) }

private def readAfterD (days : Nat) : List Char → Except Fault Amount
  | [] => .ok ⟨days, 0, 0⟩
  | a :: rest =>
    if a == 'a' || a == 'A' then
      match rest with
      | [] => .error .tooShort
      | y :: rest => if y == 'y' || y == 'Y' then readAfterDays days rest else .error .dayWord
    else readAfterDays days (a :: rest)

private def readD (days : Nat) : List Char → Except Fault Amount
  | [] => .error .tooShort
  | d :: rest => if d == 'd' || d == 'D' then readAfterD days rest else .error .dayWord

/-- A number of days: a blank may stand before the letter d, or the word it starts. -/
private def readDays (cs : List Char) : Except Fault Amount :=
  if cs.isEmpty then .error .tooShort
  else do
    let (days, rest) ← readNumber cs
    match rest with
    | ' ' :: rest => readD days rest
    | rest => readD days rest

/-- The amount that a text writes behind its sign; `whole` is the text with it. -/
private def readAmount (whole : List Char) : List Char → Except Fault Amount
  | 'P' :: rest =>
    match readUnits rest.length false false ⟨0, 0, 0⟩ rest with
    | .ok amount => if whole.length < 3 then .error .tooShort else .ok amount
    | .error why => .error why
  | body =>
    if whole.any (fun c => c == 'd' || c == 'D') || whole.length < 5 then readDays body
    else readTime body

def readChars (cs : List Char) : Except Fault Span :=
  let (negative, body) := match cs with
    | '+' :: rest => (false, rest)
    | '-' :: rest => (true, rest)
    | rest => (false, rest)
  if cs.isEmpty then .error .tooShort
  else do (← readAmount cs body).toSpan negative

def ofBytes (bs : Bytes) : Except Fault Span :=
  readChars (bs.map fun b => Char.ofNat b.toNat)

def ofText (cs : List Char) : Except Fault Span :=
  ofBytes (Text.Utf8.encodeChars cs)

/-- Seconds given as a double, to the nearest microsecond. -/
def ofSeconds (x : Binary64) : Except Fault Span :=
  match x with
  | .nan => .error .notANumber
  | _ =>
    let magnitude := x.abs
    let micros := microsOf magnitude.fract
    let days := cut (magnitude.div (.ofNat 86400))
    let whole := match magnitude with
      | .finite _ _ _ => min (magnitude.truncate?.getD 0).toNat Bounds.greatest64
      | _ => Bounds.greatest64
    Amount.toSpan ⟨days, whole % 86400, micros⟩ (x.isNegative && !x.isZero)

/-- Seconds given as a whole number; past 64 bits it is read as a double. -/
def ofWholeSeconds (n : Int) : Except Fault Span :=
  if Bounds.isSigned64 n then
    let seconds := n.natAbs
    Amount.toSpan ⟨seconds / 86400 % (Bounds.greatest32 + 1), seconds % 86400, 0⟩ (n < 0)
  else ofSeconds (.ofInt n)

end SecretStore.Span
