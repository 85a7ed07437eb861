import SecretStore.Time.Moment
import SecretStore.Text.Quoted

/-!
Reading the text of a moment. The date is written with or without hyphens, as
month and day or as week and weekday; any one character stands before the
time, which is given to the hour, the minute, the second or a decimal fraction
of it, and may end in a distance from universal time or the letter Z.
Digits of a fraction behind the sixth are dropped, and a distance of less than
a second is none.
-/

namespace SecretStore.Stamp

inductive Fault
  | malformed
  | offset (s : Span)
  | date (why : Date.Fault)
  | clock (why : Clock.Fault)
deriving DecidableEq, Repr

def readDigits : Nat → Nat → List Char → Option (Nat × List Char)
  | 0, n, cs => some (n, cs)
  | width + 1, n, c :: rest =>
    match Text.asciiDigit? c with
    | some d => readDigits width (10 * n + d) rest
    | none => none
  | _ + 1, _, [] => none

/-- The character at the front; the end of a text counts as NUL. -/
def peek (cs : List Char) : Char :=
  cs.headD '\x00'

/-- Where the date ends. A week date without hyphens has one digit more than
one without its weekday, so the count of digits up to the time tells them apart. -/
def dateLength (cs : List Char) : Nat :=
  let isDigitAt (n : Nat) : Bool := Text.isAsciiDigit (peek (cs.drop n))
  let hyphenAt (n : Nat) : Bool := peek (cs.drop n) == '-'
  let size := cs.length
  if size = 7 then 7
  else if hyphenAt 4 then
    if peek (cs.drop 5) == 'W' then
      if 8 < size && hyphenAt 8 then (if 10 < size && isDigitAt 10 then 8 else 10) else 8
    else 10
  else if peek (cs.drop 4) == 'W' then
    let digits := ((cs.drop 7).takeWhile Text.isAsciiDigit).length
    let place := 7 + digits
    if place < 9 then place else if place % 2 = 0 then 7 else 8
  else 8

/-- The date of a week of a year, if the year has that week. The weeks of the
year 0 lie before the first month of the calendar. -/
private def weekDate (year week day : Nat) : Option Date :=
  let long :=
    let firstDay := Date.weekday ⟨year, 1, 1⟩
    firstDay == 3 || (firstDay == 2 && Date.isLeap year)
  if week < 1 || 53 < week || (week == 53 && !long) || day < 1 || 7 < day then none
  else if year = 0 then some ⟨1, 0, 1⟩
  else
    let ordinal := Date.firstMonday year + ((week : Int) - 1) * 7 + day - 1
    some (.ofOrdinal ordinal.toNat)

/-- A date that fills the text; its numbers are not checked yet. -/
def readDate (cs : List Char) : Option Date := do
  let (year, rest) ← readDigits 4 0 cs
  let hyphen := peek rest == '-'
  let rest := if hyphen then rest.drop 1 else rest
  if peek rest == 'W' then
    let (week, rest) ← readDigits 2 0 (rest.drop 1)
    if rest.isEmpty then weekDate year week 1
    else
      if hyphen && peek rest != '-' then none
      else
        let (day, _) ← readDigits 1 0 (if hyphen then rest.drop 1 else rest)
        weekDate year week day
  else
    let (month, rest) ← readDigits 2 0 rest
    if hyphen && peek rest != '-' then none
    else
      let (day, rest) ← readDigits 2 0 (if hyphen then rest.drop 1 else rest)
      if rest.isEmpty then some ⟨year, month, day⟩ else none

/-- A fraction of a second; `after` is the text behind the clock. The second
part tells whether more follows. -/
def readFraction (cs after : List Char) : Option (Nat × Bool) := do
  let width := min cs.length 6
  let (n, rest) ← readDigits width 0 cs
  let rest := rest.dropWhile Text.isAsciiDigit
  return (n * Nat.pow 10 (6 - width), peek (rest ++ after) != '\x00')

/-- Up to three pairs of digits and a fraction. `after` is the text behind the
clock; the result says whether anything follows the clock. -/
def readParts (separated : Bool) : List Nat → List Char → List Char →
    Option (List Nat × Nat × Bool)
  | read, cs, after =>
    match cs with
    | a :: b :: rest =>
      match readDigits 2 0 [a, b] with
      | none => none
      | some (n, _) =>
        let read' := read ++ [n]
        let c := peek (rest ++ after)
        let separated := if read.isEmpty then c == ':' else separated
        match rest with
        | [] => some (read', 0, c != '\x00')
        | [last] => if last.toNat < 0x80 then some (read', 0, c != '\x00') else none
        | next :: rest' =>
          if separated && c == ':' then
            if 2 ≤ read.length then
              (readFraction rest' after).map fun (us, more) => (read', us, more)
            else readParts separated read' rest' after
          else if c == '.' || c == ',' then
            (readFraction rest' after).map fun (us, more) => (read', us, more)
          else if !separated then
            if 2 ≤ read.length then
              (readFraction (next :: rest') after).map fun (us, more) => (read', us, more)
            else readParts separated read' (next :: rest') after
          else none
    | _ => none
termination_by _ cs _ => cs.length

def readClock (cs after : List Char) : Option (Clock × Bool) := do
  let (parts, micro, more) ← readParts true [] cs after
  return (⟨parts.getD 0 0, parts.getD 1 0, parts.getD 2 0, micro⟩, more)

def startsZone (c : Char) : Bool :=
  c == '+' || c == '-' || c == 'Z'

def distanceOf (negative : Bool) (c : Clock) : Span :=
  if c.toMicros < 1000000 then .zero
  else ⟨if negative then -(c.toMicros : Int) else c.toMicros⟩

def readTime (cs : List Char) : Option (Clock × Option Span) := do
  let body := cs.takeWhile (!startsZone ·)
  let zone := cs.dropWhile (!startsZone ·)
  let (clock, more) ← readClock body zone
  match zone with
  | [] => if more then none else return (clock, none)
  | 'Z' :: rest => if peek rest != '\x00' then none else return (clock, some .zero)
  | sign :: rest =>
    let (distance, more) ← readClock rest []
    if more then none else return (clock, some (distanceOf (sign == '-') distance))

def readMoment (cs : List Char) : Option Moment := do
  let size := dateLength cs
  let date ← readDate (cs.take size)
  match cs.drop size with
  | [] => return ⟨date, ⟨0, 0, 0, 0⟩, none⟩
  | _ :: rest =>
    let (clock, offset) ← readTime rest
    return ⟨date, clock, offset⟩

/-- The moment that a text writes. The distance is checked first, then the
date, then the time of day. -/
def read (s : Text) : Except Fault Moment :=
  match readMoment s.shown with
  | none => .error .malformed
  | some m =>
    match m.offset.filter (!Moment.offsetInRange ·) with
    | some s => .error (.offset s)
    | none => match m.date.check with
      | .error why => .error (.date why)
      | .ok _ => match m.clock.check with
        | .error why => .error (.clock why)
        | .ok _ => .ok m

def Fault.message (s : Text) : Fault → String
  | .malformed => "Invalid isoformat string: " ++ Text.quoted s
  | .offset span =>
    "offset must be a timedelta strictly between -timedelta(hours=24) and " ++
      "timedelta(hours=24), not " ++ span.literal ++ "."
  | .date why => why.message
  | .clock why => why.message

end SecretStore.Stamp
