import SecretStore.Time.MomentReader
import SecretStore.Time.SpanReader
import SecretStore.Value

/-!
Problems with values that were given for settings or items: where the value
stands, what was expected of it, and the value. A check either gives its
result or all the problems it found, in the order of the fields. A length of
time that cannot be held is no problem of its field: it ends the whole check.
-/

namespace SecretStore

inductive Step
  | field (name : String)
  | index (n : Nat)
deriving DecidableEq, Repr

inductive Complaint
  | missing
  | notText
  | textEncoding
  | notBytes
  | notBool
  | boolText
  | notList
  | notSpan
  | spanText (why : Span.Fault)
  | notMoment
  | momentNumber (why : Moment.Fault)
  | momentText (why : Moment.Fault)
  | notSection (name : String)
  | notFields
deriving DecidableEq, Repr

namespace Complaint

def kind : Complaint → String
  | missing => "missing"
  | notText => "string_type"
  | textEncoding => "string_unicode"
  | notBytes => "bytes_type"
  | notBool => "bool_type"
  | boolText => "bool_parsing"
  | notList => "list_type"
  | notSpan => "time_delta_type"
  | spanText _ => "time_delta_parsing"
  | notMoment => "datetime_type"
  | momentNumber _ => "datetime_parsing"
  | momentText _ => "datetime_from_date_parsing"
  | notSection _ => "model_type"
  | notFields => "model_attributes_type"

def message : Complaint → String
  | missing => "Field required"
  | notText => "Input should be a valid string"
  | textEncoding =>
    "Input should be a valid string, unable to parse raw data as a unicode string"
  | notBytes => "Input should be a valid bytes"
  | notBool => "Input should be a valid boolean"
  | boolText => "Input should be a valid boolean, unable to interpret input"
  | notList => "Input should be a valid list"
  | notSpan => "Input should be a valid timedelta"
  | spanText why => "Input should be a valid timedelta, " ++ why.message
  | notMoment => "Input should be a valid datetime"
  | momentNumber why => "Input should be a valid datetime, " ++ why.message
  | momentText why => "Input should be a valid datetime or date, " ++ why.message
  | notSection name => "Input should be a valid dictionary or instance of " ++ name
  | notFields => "Input should be a valid dictionary or object to extract fields from"

end Complaint

structure Problem where
  path : List Step
  complaint : Complaint
  given : Value

inductive Check (α : Type)
  | ok (value : α)
  | refused (problems : List Problem)

namespace Check

variable {α β : Type}

def map (f : α → β) : Check α → Check β
  | .ok a => .ok (f a)
  | .refused ps => .refused ps

/-- Both checks are made, and the problems of both are kept. -/
def apply : Check (α → β) → Check α → Check β
  | .ok f, .ok a => .ok (f a)
  | .ok _, .refused qs => .refused qs
  | .refused ps, .ok _ => .refused ps
  | .refused ps, .refused qs => .refused (ps ++ qs)

end Check

structure Rejection where
  subject : String
  problems : List Problem

namespace Rejection

private def stepText : Step → String
  | .field name => name
  | .index n => String.ofList (Text.decimal n)

private def isContinuation (b : UInt8) : Bool :=
  0x80 ≤ b.toNat && b.toNat < 0xc0

/-- A long literal is cut to its first 25 and last 24 bytes; a character that
would be cut in two is dropped. -/
private def shorten (s : String) : String :=
  let bs := Text.Utf8.encode s
  if bs.length ≤ 50 then s
  else
    let tail := bs.drop 25
    let front :=
      if isContinuation (tail.headD 0) then
        ((bs.take 25).reverse.dropWhile isContinuation).drop 1 |>.reverse
      else bs.take 25
    let back := (bs.drop (bs.length - 24)).dropWhile isContinuation
    String.ofList (Text.Utf8.decodeLossy front ++ ['.', '.', '.'] ++ Text.Utf8.decodeLossy back)

private def problemText (p : Problem) : String :=
  ".".intercalate (p.path.map stepText) ++ "\n  " ++ p.complaint.message ++ " [type=" ++
    p.complaint.kind ++ ", input_value=" ++ shorten p.given.literal ++ ", input_type=" ++
    p.given.kind ++ "]"

def message (r : Rejection) : String :=
  let count := r.problems.length
  let noun := if count = 1 then " validation error for " else " validation errors for "
  String.ofList (Text.decimal count) ++ noun ++ r.subject ++ "\n" ++
    "\n".intercalate (r.problems.map problemText)

end Rejection

def Check.toExcept {α : Type} (subject : String) : Check α → Except Rejection α
  | .ok a => .ok a
  | .refused ps => .error ⟨subject, ps⟩

end SecretStore
