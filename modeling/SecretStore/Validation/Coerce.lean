import SecretStore.Validation.Problem

/-!
Which values pass for a text, bytes, a switch, a list, a length of time or a
moment, and what they stand for. Bytes that are UTF-8 pass for their text and
a text for its bytes; 0 and 1 and a few words pass for a switch.
-/

namespace SecretStore.Coerce

abbrev Coercion (α : Type) := Value → Except Complaint α

private def utf8Text? (bs : Bytes) : Option (List Char) :=
  match Text.Utf8.decode bs with
  | .ok cs => some cs
  | .error _ => none

def text : Coercion Text
  | .text s => .ok s
  | .bytes bs => match utf8Text? bs with
    | some cs => .ok (Text.ofChars cs)
    | none => .error .textEncoding
  | _ => .error .notText

/-- The characters of a text that is read on; surrogates are refused. -/
private def readable {α : Type} (s : Text) (read : List Char → Except Complaint α) :
    Except Complaint α :=
  match s.chars? with
  | some cs => read cs
  | none => .error .textEncoding

def bytes : Coercion Bytes
  | .bytes bs => .ok bs
  | .text s => readable s fun cs => .ok (Text.Utf8.encodeChars cs)
  | _ => .error .notBytes

private def lowerAscii (cs : List Char) : String :=
  String.ofList (cs.map fun c =>
    if 'A' ≤ c && c ≤ 'Z' then Char.ofNat (c.toNat + 32) else c)

def boolWord? (cs : List Char) : Option Bool :=
  let word := lowerAscii cs
  if ["0", "off", "f", "false", "n", "no"].contains word then some false
  else if ["1", "on", "t", "true", "y", "yes"].contains word then some true
  else none

private def boolOfInt (n : Int) : Except Complaint Bool :=
  if n = 0 then .ok false else if n = 1 then .ok true else .error .boolText

private def boolOfText (cs : List Char) : Except Complaint Bool :=
  match boolWord? cs with
  | some b => .ok b
  | none => .error .boolText

def bool : Coercion Bool
  | .bool b => .ok b
  | .int n => boolOfInt n
  | .float x => match x.toInt? with
    | some n => boolOfInt n
    | none => .error .notBool
  | .text s => readable s boolOfText
  | .bytes bs => match utf8Text? bs with
    | some cs => boolOfText cs
    | none => .error .boolText
  | _ => .error .notBool

private def spanResult (r : Except Span.Fault Span) : Except Complaint Span :=
  match r with
  | .ok s => .ok s
  | .error why => .error (.spanText why)

/-- An integer that no double comes near is no number of seconds. -/
private def isHuge (n : Int) : Bool :=
  match Binary64.ofInt n with
  | .infinite _ => true
  | _ => false

def span : Coercion Span
  | .bool b => spanResult (Span.ofWholeSeconds (if b then 1 else 0))
  | .int n => if isHuge n then .error .notSpan else spanResult (Span.ofWholeSeconds n)
  | .float x => spanResult (Span.ofSeconds x)
  | .text s => readable s fun cs => spanResult (Span.ofText cs)
  | .bytes bs => spanResult (Span.ofBytes bs)
  | _ => .error .notSpan

def secondsFirst : Value → Value
  | .text s => match Decimal.number? s.shown with
    | some x => .float x
    | none => .text s
  | v => v

private def momentText (r : Except Moment.Fault Moment) : Except Complaint Moment :=
  match r with
  | .ok m => .ok m
  | .error why => .error (.momentText why)

private def momentNumber (r : Except Moment.Fault Moment) : Except Complaint Moment :=
  match r with
  | .ok m => .ok m
  | .error why => .error (.momentNumber why)

def moment : Coercion Moment
  | .moment m => .ok m
  | .date d => .ok ⟨d, ⟨0, 0, 0, 0⟩, none⟩
  | .text s => readable s fun cs => momentText (Moment.ofText cs)
  | .bytes bs => momentText (Moment.ofBytes bs)
  | .int n => if isHuge n then .error .notMoment else momentNumber (Moment.ofWholeSeconds n)
  | .float x => momentNumber (Moment.ofSeconds x)
  | _ => .error .notMoment

def momentOrNull : Coercion (Option Moment)
  | .null => .ok none
  | v => (moment v).map some

def items : Coercion (List Value)
  | .list vs | .tuple vs | .set vs => .ok vs
  | _ => .error .notList

def namesFirst : Value → Value
  | .text s =>
    .list ((Text.commaSeparated s.points).map fun name => .text ⟨name⟩)
  | v => v

end SecretStore.Coerce
