import SecretStore.Time.Moment
import SecretStore.Time.SpanReader

/-!
Reading a moment from what a caller gives: a date and a time with a distance
from universal time behind it, a date alone, which means its midnight, or
seconds since the start of 1970 in universal time. Numbers beyond twenty
thousand million are milliseconds. A text that is none of these is faulted as
a date.
-/

namespace SecretStore.Moment

inductive Fault
  | tooShort
  | extraCharacters
  | yearCharacter
  | monthCharacter
  | dayCharacter
  | separator
  | monthRange
  | dayRange
  | tooEarly
  | tooLate
  | yearZero
  | notANumber
deriving DecidableEq, Repr

def Fault.message : Fault → String
  | .tooShort => "input is too short"
  | .extraCharacters => "unexpected extra characters at the end of the input"
  | .yearCharacter => "invalid character in year"
  | .monthCharacter => "invalid character in month"
  | .dayCharacter => "invalid character in day"
  | .separator => "invalid date separator, expected `-`"
  | .monthRange => "month value is outside expected range of 1-12"
  | .dayRange => "day value is outside expected range"
  | .tooEarly => "dates before 0000 are not supported as unix timestamps"
  | .tooLate => "dates after 9999 are not supported as unix timestamps"
  | .yearZero => "year 0 is out of range"
  | .notANumber => "NaN values not permitted"

private def digits? : List Char → Option Nat
  | cs => if cs.all Text.isAsciiDigit then some (Text.digitsValue cs) else none

private def readDateFront (cs : List Char) : Except Fault (Date × List Char) :=
  match cs with
  | y1 :: y2 :: y3 :: y4 :: h1 :: m1 :: m2 :: h2 :: d1 :: d2 :: rest =>
    match digits? [y1, y2, y3, y4] with
    | none => .error .yearCharacter
    | some year =>
      if h1 != '-' then .error .separator
      else match digits? [m1, m2] with
        | none => .error .monthCharacter
        | some month =>
          if h2 != '-' then .error .separator
          else match digits? [d1, d2] with
            | none => .error .dayCharacter
            | some day =>
              if month < 1 || 12 < month then .error .monthRange
              else if day < 1 || Date.daysInMonth year month < day then .error .dayRange
              else .ok (⟨year, month, day⟩, rest)
  | _ => .error .tooShort

private def readZone (cs : List Char) : Option (Option Span) :=
  match cs with
  | [] => some none
  | ['Z'] | ['z'] => some (some .zero)
  | sign :: rest =>
    let body := match sign, rest with
      | '+', rest => some (false, rest)
      | '-', rest => some (true, rest)
      | '\xe2', '\x88' :: '\x92' :: rest => some (true, rest)
      | _, _ => none
    match body with
    | none => none
    | some (negative, rest) =>
      let parts := match rest with
        | [a, b, ':', c, d] => some ([a, b], [c, d])
        | [a, b, c, d] => some ([a, b], [c, d])
        | _ => none
      match parts with
      | none => none
      | some (hh, mm) =>
        match digits? hh, digits? mm with
        | some hour, some minute =>
          if 59 < minute || 23 < hour then none
          else
            let us : Int := ((60 * hour + minute) * 60000000 : Nat)
            some (some ⟨if negative then -us else us⟩)
        | _, _ => none

private def readFull (cs : List Char) : Option Moment := do
  let (date, rest) ← (readDateFront cs).toOption
  match rest with
  | sep :: rest =>
    if sep == 'T' || sep == 't' || sep == ' ' || sep == '_' then
      let (hour, rest) ← (Span.readPair .hourCharacter rest).toOption
      match rest with
      | ':' :: rest =>
        let (seconds, micros, rest) ← (Span.readMinutes rest).toOption
        if 23 < hour then none
        else
          let offset ← readZone rest
          return ⟨date, ⟨hour, seconds / 60, seconds % 60, micros⟩, offset⟩
      | _ => none
    else none
  | [] => none

/-- Seconds or milliseconds, and microseconds to add to them, since 1970. -/
def ofTimestamp (t : Int) (micros : Nat) : Except Fault Moment :=
  let inMillis := 20000000000 < t.natAbs
  let seconds := if inMillis then t.fdiv 1000 else t
  let extra := if inMillis then (t.fmod 1000).toNat * 1000 else 0
  let total := micros + extra
  let seconds := seconds + (total / 1000000 : Nat)
  if seconds < -62167219200 then .error .tooEarly
  else if 253402300799 < seconds then .error .tooLate
  else if seconds < -62135596800 then .error .yearZero
  else .ok (ofMicros (seconds * 1000000 + (total % 1000000 : Nat)))

/-- A number of seconds as a double: its floor, and its fraction without sign. -/
def ofSeconds (x : Binary64) : Except Fault Moment :=
  match x with
  | .nan => .error .notANumber
  | .infinite negative => .error (if negative then .tooEarly else .tooLate)
  | .finite _ _ _ =>
    let whole := x.truncate?.getD 0
    let floor := if x.isNegative && x.toInt?.isNone then whole - 1 else whole
    let micros := (((x.fract.abs).mul (.ofNat 1000000)).roundAway?.getD 0).toNat
    let t := Bounds.clampSigned64 floor
    if t = Bounds.leastSigned64 then .error .tooEarly else ofTimestamp t micros

def ofWholeSeconds (n : Int) : Except Fault Moment :=
  if Bounds.isSigned64 n && n != Bounds.leastSigned64 then ofTimestamp n 0
  else .error (if n < 0 then .tooEarly else .tooLate)

private def wholeNumber? (cs : List Char) : Option Int :=
  let (negative, ds) := match cs with
    | '-' :: rest => (true, rest)
    | '+' :: rest => (false, rest)
    | rest => (false, rest)
  if ds.isEmpty || !ds.all Text.isAsciiDigit then none
  else
    let n : Int := Text.digitsValue ds
    let n := if negative then -n else n
    if Bounds.isSigned64 n then some n else none

private def decimal? (cs : List Char) : Option Binary64 :=
  let (negative, body) := match cs with
    | '-' :: rest => (true, rest)
    | '+' :: rest => (false, rest)
    | rest => (false, rest)
  match Decimal.spanParts body with
  | some (parts, []) => some (parts.toBinary64 negative)
  | _ => none

private def readNumber (cs : List Char) : Option (Except Fault Moment) :=
  match wholeNumber? cs with
  | some n => some (ofWholeSeconds n)
  | none => (decimal? cs).map ofSeconds

private def readDateAlone (cs : List Char) : Except Fault Date :=
  let whole := do
    let (date, rest) ← readDateFront cs
    if rest.isEmpty then return date else .error .extraCharacters
  match whole with
  | .ok date => if date.year = 0 then .error .yearZero else .ok date
  | .error why => match wholeNumber? cs with
    | none => .error why
    | some n => (ofWholeSeconds n).map (·.date)

def readChars (cs : List Char) : Except Fault Moment :=
  let midnight := (readDateAlone cs).map fun d => ⟨d, ⟨0, 0, 0, 0⟩, none⟩
  match readFull cs with
  | some m => if m.date.year = 0 then midnight else .ok m
  | none => match readNumber cs with
    | some (.ok m) => .ok m
    | _ => midnight

def ofBytes (bs : Bytes) : Except Fault Moment :=
  readChars (bs.map fun b => Char.ofNat b.toNat)

def ofText (cs : List Char) : Except Fault Moment :=
  ofBytes (Text.Utf8.encodeChars cs)

end SecretStore.Moment
