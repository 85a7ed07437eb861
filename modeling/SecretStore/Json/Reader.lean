import SecretStore.Json
import SecretStore.Number.Decimal
import SecretStore.Text.Utf16

/-!
Reading JSON text. A reader takes the text from some place on and gives a
value with the text behind it, or a fault with the text from the fault on; the
place of a fault, its line and its column follow from how much text is left.
The words NaN, Infinity and -Infinity are numbers, control characters are
refused in strings, and an integer has at most 4300 digits. Lists and objects
nest as deep as the reader is allowed to go; one more level ends the reading,
whatever stands in it.
-/

namespace SecretStore.Json

inductive Fault
  | expectingValue
  | expectingName
  | expectingColon
  | expectingComma
  | extraData
  | unterminatedString
  | controlCharacter
  | badEscape
  | badUnicodeEscape
  | tooManyDigits (count : Nat)
deriving DecidableEq, Repr

inductive Container
  | array
  | object
deriving DecidableEq, Repr

inductive Stop
  | fault (why : Fault) (rest : List CodePoint)
  | tooDeep (within : Container)

abbrev Reading := Except Stop

def isSpace (c : CodePoint) : Bool :=
  c == ' ' || c == '\t' || c == '\n' || c == '\r'

def skipSpace (cs : List CodePoint) : List CodePoint :=
  cs.dropWhile isSpace

def spanChars : List CodePoint → List Char × List CodePoint
  | .char c :: rest => (c :: (spanChars rest).1, (spanChars rest).2)
  | cs => ([], cs)

def unit? (a b c d : Char) : Option Nat := do
  return 4096 * (← Text.hexValue? a) + 256 * (← Text.hexValue? b) + 16 * (← Text.hexValue? c) +
    (← Text.hexValue? d)

def escapedUnit? (a b c d : CodePoint) : Option Nat := do
  unit? (← a.char?) (← b.char?) (← c.char?) (← d.char?)

def simpleEscape? (c : Char) : Option Char :=
  if c == '"' || c == '\\' || c == '/' then some c
  else if c == 'b' then some '\x08'
  else if c == 'f' then some '\x0c'
  else if c == 'n' then some '\n'
  else if c == 'r' then some '\r'
  else if c == 't' then some '\t'
  else none

/-- The code points of a string up to its closing quote; `opening` is the text
from the opening quote on. Four hexadecimal digits must be followed by a code
point, and two escapes that are a pair of surrogates make one character. -/
def readString (opening : List CodePoint) :
    List CodePoint → Reading (List CodePoint × List CodePoint)
  | [] => .error (.fault .unterminatedString opening)
  | .char '"' :: rest => .ok ([], rest)
  | [.char '\\'] => .error (.fault .unterminatedString opening)
  | .char '\\' :: .char 'u' :: .char a :: .char b :: .char c :: .char d :: rest =>
    match unit? a b c d, rest with
    | some high, .char '\\' :: .char 'u' :: e :: f :: g :: h :: next :: rest' =>
      match escapedUnit? e f g h with
      | some low =>
        if Text.Utf16.isHighSurrogate high && Text.Utf16.isLowSurrogate low then do
          let (cs, rest) ← readString opening (next :: rest')
          return (.char (Text.Utf16.joinSurrogates high low) :: cs, rest)
        else do
          let (cs, rest) ← readString opening
            (.char '\\' :: .char 'u' :: e :: f :: g :: h :: next :: rest')
          return (.ofNat high :: cs, rest)
      | none => .error (.fault .badUnicodeEscape (.char 'u' :: e :: f :: g :: h :: next :: rest'))
    | some unit, next :: rest' => do
      let (cs, rest) ← readString opening (next :: rest')
      return (.ofNat unit :: cs, rest)
    | _, _ => .error (.fault .badUnicodeEscape
        (.char 'u' :: .char a :: .char b :: .char c :: .char d :: rest))
  | .char '\\' :: .char 'u' :: rest => .error (.fault .badUnicodeEscape (.char 'u' :: rest))
  | .char '\\' :: c :: rest =>
    match c.char?.bind simpleEscape? with
    | some c => do
      let (cs, rest) ← readString opening rest
      return (.char c :: cs, rest)
    | none => .error (.fault .badEscape (.char '\\' :: c :: rest))
  | c :: rest =>
    if c.toNat < 0x20 then .error (.fault .controlCharacter (c :: rest))
    else do
      let (cs, rest) ← readString opening rest
      return (c :: cs, rest)

def dropWord? : List Char → List Char → Option (List Char)
  | [], cs => some cs
  | w :: ws, c :: cs => if w == c then dropWord? ws cs else none
  | _, [] => none

def spanWhole : List Char → List Char × List Char
  | '0' :: rest => (['0'], rest)
  | cs => Decimal.spanDigits cs

/-- A point with digits behind it; a point alone is left where it is. -/
def spanBehind : List Char → Option (List Char) × List Char
  | '.' :: rest =>
    let (ds, rest') := Decimal.spanDigits rest
    if ds.isEmpty then (none, '.' :: rest) else (some ds, rest')
  | cs => (none, cs)

/-- A number that a text starts with, behind its sign; nothing if the text does
not start with a digit. -/
def readUnsigned (negative : Bool) (cs : List Char) :
    Option (Except Fault (Json × List Char)) :=
  let (whole, rest) := spanWhole cs
  if whole.isEmpty then none
  else
    let (behind, rest) := spanBehind rest
    let (exponent, rest') := Decimal.spanExponent rest
    if behind.isNone && rest'.length == rest.length then
      if digitLimit < whole.length then some (.error (.tooManyDigits whole.length))
      else
        let n : Int := Text.digitsValue whole
        some (.ok (.int (if negative then -n else n), rest'))
    else
      let parts : Decimal.Parts := ⟨whole, behind.getD [], exponent⟩
      some (.ok (.float (parts.toBinary64 negative), rest'))

/-- A value that holds no others, in front of a text of characters. -/
def readFront (cs : List Char) : Option (Except Fault (Json × List Char)) :=
  let word? (w : String) : Option (List Char) := dropWord? w.toList cs
  match word? "null", word? "true", word? "false" with
  | some rest, _, _ => some (.ok (.null, rest))
  | _, some rest, _ => some (.ok (.bool true, rest))
  | _, _, some rest => some (.ok (.bool false, rest))
  | _, _, _ => match word? "NaN", word? "Infinity", word? "-Infinity" with
    | some rest, _, _ => some (.ok (.float .nan, rest))
    | _, some rest, _ => some (.ok (.float (.infinite false), rest))
    | _, _, some rest => some (.ok (.float (.infinite true), rest))
    | _, _, _ => match cs with
      | '-' :: rest => readUnsigned true rest
      | rest => readUnsigned false rest

def readScalar (cs : List CodePoint) : Reading (Json × List CodePoint) :=
  match readFront (spanChars cs).1 with
  | none => .error (.fault .expectingValue cs)
  | some (.error why) => .error (.fault why cs)
  | some (.ok (j, rest)) => .ok (j, rest.map .char ++ (spanChars cs).2)

mutual

def readValue : Nat → Nat → List CodePoint → Reading (Json × List CodePoint)
  | _, 0, cs => .error (.fault .expectingValue cs)
  | levels, fuel + 1, cs =>
    match cs with
    | .char '"' :: rest => do
      let (s, rest) ← readString cs rest
      return (.str ⟨s⟩, rest)
    | .char '[' :: rest =>
      match levels, skipSpace rest with
      | 0, _ => .error (.tooDeep .array)
      | _ + 1, .char ']' :: rest => .ok (.arr [], rest)
      | levels + 1, rest => do
        let (items, rest) ← readItems levels fuel rest
        return (.arr items, rest)
    | .char '{' :: rest =>
      match levels, skipSpace rest with
      | 0, _ => .error (.tooDeep .object)
      | _ + 1, .char '}' :: rest => .ok (.obj [], rest)
      | levels + 1, rest => do
        let (fields, rest) ← readFields levels fuel rest
        return (.obj (ofFields fields), rest)
    | _ => readScalar cs

def readItems : Nat → Nat → List CodePoint → Reading (List Json × List CodePoint)
  | _, 0, cs => .error (.fault .expectingValue cs)
  | levels, fuel + 1, cs => do
    let (item, rest) ← readValue levels fuel cs
    match skipSpace rest with
    | .char ']' :: rest => return ([item], rest)
    | .char ',' :: rest =>
      let (items, rest) ← readItems levels fuel (skipSpace rest)
      return (item :: items, rest)
    | rest => .error (.fault .expectingComma rest)

def readFields : Nat → Nat → List CodePoint → Reading (List (Text × Json) × List CodePoint)
  | _, 0, cs => .error (.fault .expectingName cs)
  | levels, fuel + 1, cs =>
    match cs with
    | .char '"' :: rest => do
      let (name, rest) ← readString cs rest
      match skipSpace rest with
      | .char ':' :: rest =>
        let (value, rest) ← readValue levels fuel (skipSpace rest)
        match skipSpace rest with
        | .char '}' :: rest => return ([(⟨name⟩, value)], rest)
        | .char ',' :: rest =>
          let (fields, rest) ← readFields levels fuel (skipSpace rest)
          return ((⟨name⟩, value) :: fields, rest)
        | rest => .error (.fault .expectingComma rest)
      | rest => .error (.fault .expectingColon rest)
    | _ => .error (.fault .expectingName cs)

end

structure Malformed where
  fault : Fault
  offset : Nat
  line : Nat
  column : Nat
deriving DecidableEq, Repr

def locate (whole : List CodePoint) (why : Fault) (rest : List CodePoint) : Malformed :=
  let offset := whole.length - rest.length
  let before := whole.take offset
  ⟨why, offset, before.count (.char '\n') + 1,
    (before.reverse.takeWhile (· != .char '\n')).length + 1⟩

inductive Unread
  | malformed (why : Malformed)
  | tooDeep (within : Container)
deriving DecidableEq, Repr

def Stop.inText (whole : List CodePoint) : Stop → Unread
  | .fault why rest => .malformed (locate whole why rest)
  | .tooDeep within => .tooDeep within

/-- The value of a whole text, with at most `levels` lists and objects open at once. -/
def read (levels : Nat) (text : List CodePoint) : Except Unread Json :=
  match readValue levels (2 * text.length + 2) (skipSpace text) with
  | .error stop => .error (stop.inText text)
  | .ok (value, rest) => match skipSpace rest with
    | [] => .ok value
    | rest => .error (.malformed (locate text .extraData rest))

private def Fault.words : Fault → String
  | .expectingValue => "Expecting value"
  | .expectingName => "Expecting property name enclosed in double quotes"
  | .expectingColon => "Expecting ':' delimiter"
  | .expectingComma => "Expecting ',' delimiter"
  | .extraData => "Extra data"
  | .unterminatedString => "Unterminated string starting at"
  | .controlCharacter => "Invalid control character at"
  | .badEscape => "Invalid \\escape"
  | .badUnicodeEscape => "Invalid \\uXXXX escape"
  | .tooManyDigits count =>
    "Exceeds the limit (4300 digits) for integer string conversion: value has " ++
      String.ofList (Text.decimal count) ++
      " digits; use sys.set_int_max_str_digits() to increase the limit"

def Malformed.message (m : Malformed) : String :=
  let number (n : Nat) : String := String.ofList (Text.decimal n)
  match m.fault with
  | .tooManyDigits count => (Fault.tooManyDigits count).words
  | fault => fault.words ++ ": line " ++ number m.line ++ " column " ++ number m.column ++
      " (char " ++ number m.offset ++ ")"

def Container.tooDeep : Container → String
  | .array => "maximum recursion depth exceeded while decoding a JSON array from a unicode string"
  | .object => "maximum recursion depth exceeded while decoding a JSON object from a unicode string"

def Unread.message : Unread → String
  | .malformed why => why.message
  | .tooDeep within => within.tooDeep

def Malformed.literal (m : Malformed) : String :=
  let name := match m.fault with
    | .tooManyDigits _ => "ValueError("
    | _ => "JSONDecodeError("
  name ++ Text.quoted m.message ++ ")"

end SecretStore.Json
