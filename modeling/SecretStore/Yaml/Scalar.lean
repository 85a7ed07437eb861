import SecretStore.Number.Decimal
import SecretStore.Text.Base64
import SecretStore.Text.LowerCase
import SecretStore.Yaml.Tag
import SecretStore.Yaml.Timestamp

/-!
The values of scalars. A scalar without a tag says by its form what it is: a
truth value, a number, nothing, a timestamp, one of two signs for mappings, or
else text. Numbers may hold underscores and be written in base 60.
-/

namespace SecretStore.Yaml

namespace Form

private def isDigitOrLine (c : Char) : Bool :=
  Text.isAsciiDigit c || c == '_'

private def unsigned : List Char → List Char
  | [] => []
  | c :: rest => if c == '+' || c == '-' then rest else c :: rest

private def isDigits : List Char → Bool
  | [] => false
  | c :: rest => Text.isAsciiDigit c && rest.all isDigitOrLine

/-- A place in base 60: one digit, or two of which the first is below six. -/
private def isSixtieth : List Char → Bool
  | [c] => Text.isAsciiDigit c
  | [c, d] => '0' ≤ c && c ≤ '5' && Text.isAsciiDigit d
  | _ => false

private def nonempty (p : Char → Bool) (cs : List Char) : Bool :=
  !cs.isEmpty && cs.all p

def isInt (cs : List Char) : Bool :=
  let body := unsigned cs
  let startsHigh (cs : List Char) : Bool := cs.head?.any fun c => '1' ≤ c && c ≤ '9'
  (match body with
    | '0' :: 'b' :: rest => nonempty (fun c => c == '0' || c == '1' || c == '_') rest
    | '0' :: 'x' :: rest => nonempty (fun c => (Text.hexValue? c).isSome || c == '_') rest
    | '0' :: rest => rest.all fun c => ('0' ≤ c && c ≤ '7') || c == '_'
    | _ => false) ||
  (match Text.splitOn ':' body with
    | first :: rest => startsHigh first && isDigits first && rest.all isSixtieth
    | [] => false)

private def isExponent : List Char → Bool
  | [] => true
  | mark :: sign :: rest =>
    (mark == 'e' || mark == 'E') && (sign == '+' || sign == '-') && nonempty Text.isAsciiDigit rest
  | _ => false

private def isSixtiethWithFraction (cs : List Char) : Bool :=
  match cs.span (· != '.') with
  | (front, '.' :: rest) => isSixtieth front && rest.all isDigitOrLine
  | _ => false

def isFloat (cs : List Char) : Bool :=
  let body := unsigned cs
  let (whole, rest) := body.span isDigitOrLine
  (isDigits whole && match rest with
    | '.' :: rest => isExponent (rest.dropWhile isDigitOrLine)
    | _ => false) ||
  (match cs with
    | '.' :: rest =>
      isDigits (rest.takeWhile isDigitOrLine) && isExponent (rest.dropWhile isDigitOrLine)
    | _ => false) ||
  (match Text.splitOn ':' body with
    | first :: second :: rest =>
      isDigits first && (second :: rest).dropLast.all isSixtieth &&
        isSixtiethWithFraction ((second :: rest).getLastD [])
    | _ => false) ||
  [".inf", ".Inf", ".INF"].contains (String.ofList body) ||
  [".nan", ".NaN", ".NAN"].contains (String.ofList cs)

def isBool (s : String) : Bool :=
  ["yes", "Yes", "YES", "no", "No", "NO", "true", "True", "TRUE", "false", "False", "FALSE",
    "on", "On", "ON", "off", "Off", "OFF"].contains s

def isNull (s : String) : Bool :=
  ["~", "null", "Null", "NULL", ""].contains s

/-- A line end at the end of a text does not change its form. -/
def withoutLineEnd (cs : List Char) : List Char :=
  if cs.length ≤ 1 || cs.getLast? != some '\n' then cs else cs.dropLast

end Form

def Tag.ofForm (text : Text) : Tag :=
  let cs := Form.withoutLineEnd text.shown
  let s := String.ofList cs
  if Form.isBool s then .bool
  else if Form.isFloat cs then .float
  else if Form.isInt cs then .int
  else if s == "<<" then .merge
  else if Form.isNull s then .null
  else if Timestamp.looksLike cs then .timestamp
  else if s == "=" then .value
  else if s == "!" || s == "&" || s == "*" then .unknown
  else .str

namespace Scalar

private def withoutUnderscores (cs : List CodePoint) : List CodePoint :=
  cs.filter (· != .char '_')

private def baseLetter : Nat → Option Char
  | 2 => some 'b'
  | 8 => some 'o'
  | 16 => some 'x'
  | _ => none

private def digitBelow (base : Nat) (c : Char) : Option Nat :=
  (Text.hexValue? c).filter (· < base)

/-- The number that a text writes in a base of at most sixteen, with a sign, the
mark of the base and white space around it. -/
def integer (base : Nat) (text : List CodePoint) : Except Fault Int :=
  let cs := text.map fun p => Decimal.normalDigit p.shown
  let isSpace (c : Char) : Bool := c == ' '
  let cs := ((cs.dropWhile isSpace).reverse.dropWhile isSpace).reverse
  let (negative, cs) := match cs with
    | '-' :: rest => (true, rest)
    | '+' :: rest => (false, rest)
    | rest => (false, rest)
  let cs := match cs with
    | '0' :: c :: rest => if baseLetter base == some c.toLower then rest else cs
    | _ => cs
  let run := (cs.takeWhile fun c => (digitBelow base c).isSome)
  if base == 10 && 4300 < run.length then .error (.tooManyDigits run.length)
  else if run.isEmpty || run.length < cs.length then
    .error (.notInteger base ⟨text⟩)
  else
    let n : Int := run.foldl (fun n c => n * base + ((digitBelow base c).getD 0 : Nat)) 0
    .ok (if negative then -n else n)

/-- A sign in front of a number, and the rest; nothing for an empty text. -/
private def splitSign : List CodePoint → Option (Bool × List CodePoint)
  | [] => none
  | c :: rest =>
    if c == .char '-' then some (true, rest) else if c == .char '+' then some (false, rest)
    else some (false, c :: rest)

private def unsignedInt (cs : List CodePoint) : Except Fault Int :=
  match cs with
  | [] => .error .emptyNumber
  | [.char '0'] => .ok 0
  | .char '0' :: .char 'b' :: rest => integer 2 rest
  | .char '0' :: .char 'x' :: rest => integer 16 rest
  | .char '0' :: _ => integer 8 cs
  | _ => do
    let places ← (Text.splitOn (.char ':') cs).mapM (integer 10)
    return places.foldl (fun n place => n * 60 + place) 0

def int (cs : List CodePoint) : Except Fault Int :=
  match splitSign (withoutUnderscores cs) with
  | none => .error .emptyNumber
  | some (negative, body) => do
    let n ← unsignedInt body
    return if negative then -n else n

private def decimal (cs : List CodePoint) : Except Fault Binary64 :=
  match Decimal.number? (cs.map CodePoint.shown) with
  | some x => .ok x
  | none => .error (.notFloat ⟨cs⟩)

/-- The sum of places in base 60, the lowest first, rounded place by place. -/
private def sixties : Nat → Binary64 → List Binary64 → Except Fault Binary64
  | _, sum, [] => .ok sum
  | base, sum, place :: rest =>
    match Binary64.ofNat base with
    | .infinite _ => .error .tooLargeForFloat
    | weight => sixties (base * 60) (sum.add (place.mul weight)) rest

private def unsignedFloat (cs : List CodePoint) : Except Fault Binary64 :=
  if Text.mk cs = ".inf" then .ok (.infinite false)
  else if Text.mk cs = ".nan" then .ok .nan
  else if cs.contains (.char ':') then do
    let places ← (Text.splitOn (.char ':') cs).mapM decimal
    sixties 1 (.ofNat 0) places.reverse
  else decimal cs

def float (cs : List CodePoint) : Except Fault Binary64 :=
  match splitSign (Text.lowerCase ⟨withoutUnderscores cs⟩).points with
  | none => .error .emptyNumber
  | some (negative, body) => do
    let x ← unsignedFloat body
    return if negative then x.neg else x

def bool (s : Text) : Except Fault Bool :=
  let word := Text.lowerCase s
  let isOneOf (words : List String) : Bool := words.any fun w => Text.ofString w == word
  if isOneOf ["yes", "true", "on"] then .ok true
  else if isOneOf ["no", "false", "off"] then .ok false
  else .error (.notTruth word)

def binary (cs : List Char) : Except Fault Bytes :=
  if cs.any fun c => 128 ≤ c.toNat then .error .malformed
  else match Text.Base64.decode cs with
    | .ok bs => .ok bs
    | .error _ => .error .malformed

def timestamp (cs : List Char) : Except Fault Value :=
  match Timestamp.read? (Form.withoutLineEnd cs) with
  | some t => t.toValue
  | none => .error .notTimestamp

/-- The value of a scalar with a tag. Tags of lists and mappings do not fit. -/
def value (tag : Tag) (text : Text) : Except Fault Value :=
  match tag with
  | .null => .ok .null
  | .bool => .bool <$> bool text
  | .int => .int <$> int text.points
  | .float => .float <$> float text.points
  | .binary => .bytes <$> binary text.shown
  | .timestamp => timestamp text.shown
  | .str => .ok (.text text)
  | _ => .error .malformed

end Scalar

end SecretStore.Yaml
