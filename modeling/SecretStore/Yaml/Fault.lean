import SecretStore.Text.Quoted
import SecretStore.Time.Moment

/-!
Why a text is no YAML document. Nearly every reason is one of form and is not
told apart from the others; those that lie in the value of a scalar are.
-/

namespace SecretStore.Yaml

inductive Fault
  | malformed
  | noCodePoint
  | noInteger32
  | emptyNumber
  | notInteger (base : Nat) (text : Text)
  | tooManyDigits (count : Nat)
  | notFloat (text : Text)
  /-- A whole part of a number in base 60 that is past the largest float. -/
  | tooLargeForFloat
  | notTruth (text : Text)
  | notTimestamp
  | timestampOfMapping
  | date (why : Date.Fault)
  | clock (why : Clock.Fault)
  | offset (s : Span)
deriving DecidableEq, Repr

namespace Fault

private def number (n : Nat) : String :=
  String.ofList (Text.decimal n)

def kind : Fault → String
  | .malformed => "YAMLError"
  | .noInteger32 | .tooLargeForFloat => "OverflowError"
  | .emptyNumber => "IndexError"
  | .notTruth _ => "KeyError"
  | .notTimestamp => "AttributeError"
  | .timestampOfMapping => "TypeError"
  | _ => "ValueError"

/-- The words of a fault of value; a fault of form has none. A long text is
cut behind 200 characters of its quoted form. -/
def message : Fault → String
  | .malformed => ""
  | .noCodePoint => "chr() arg not in range(0x110000)"
  | .noInteger32 => "Python int too large to convert to C int"
  | .emptyNumber => "string index out of range"
  | .notInteger base text =>
    "invalid literal for int() with base " ++ number base ++ ": " ++
      String.ofList ((Text.quoted text).toList.take 200)
  | .tooManyDigits count =>
    "Exceeds the limit (4300 digits) for integer string conversion: value has " ++ number count ++
      " digits; use sys.set_int_max_str_digits() to increase the limit"
  | .notFloat text => "could not convert string to float: " ++ Text.quoted text
  | .tooLargeForFloat => "int too large to convert to float"
  | .notTruth text => Text.quoted text
  | .notTimestamp => "'NoneType' object has no attribute 'groupdict'"
  | .timestampOfMapping => "expected string or bytes-like object, got 'list'"
  | .date why => why.message
  | .clock why => why.message
  | .offset s =>
    "offset must be a timedelta strictly between -timedelta(hours=24) and " ++
      "timedelta(hours=24), not " ++ s.literal ++ "."

end Fault

end SecretStore.Yaml
