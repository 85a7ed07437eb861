import SecretStore.Json.Reader

/-!
JSON in bytes. A byte order mark names the encoding; without one, the zero
bytes among the first four do, because JSON text starts with two ASCII
characters.
-/

namespace SecretStore.Json

inductive Encoding
  | utf8 (skipped : Nat)
  | utf16 (bigEndian : Bool) (skipped : Nat)
  | utf32 (bigEndian : Bool) (skipped : Nat)
deriving DecidableEq, Repr

namespace Encoding

/-- The byte order marks; one that begins with another stands before it. -/
def marks : List (Bytes × Encoding) :=
  [([0x00, 0x00, 0xfe, 0xff], .utf32 true 4), ([0xff, 0xfe, 0x00, 0x00], .utf32 false 4),
    ([0xfe, 0xff], .utf16 true 2), ([0xff, 0xfe], .utf16 false 2), ([0xef, 0xbb, 0xbf], .utf8 3)]

def unmarked : Bytes → Encoding
  | a :: b :: c :: d :: _ =>
    if a == 0 then (if b == 0 then .utf32 true 0 else .utf16 true 0)
    else if b == 0 then (if c == 0 && d == 0 then .utf32 false 0 else .utf16 false 0)
    else .utf8 0
  | [a, b] =>
    if a == 0 then .utf16 true 0 else if b == 0 then .utf16 false 0 else .utf8 0
  | _ => .utf8 0

def detect (bs : Bytes) : Encoding :=
  match marks.find? fun mark => mark.1.isPrefixOf bs with
  | some mark => mark.2
  | none => unmarked bs

end Encoding

def decodeText (bs : Bytes) : Except Text.Undecodable (List CodePoint) :=
  match Encoding.detect bs with
  | .utf8 skipped =>
    let body := bs.drop skipped
    match Text.Utf8.decodePass body with
    | .ok cs => .ok cs
    | .error fault => .error (.ofUtf8 body fault)
  | .utf16 bigEndian skipped => Text.Utf16.read bigEndian bs skipped
  | .utf32 bigEndian skipped => Text.Utf16.read32 bigEndian bs skipped

inductive Unreadable
  | undecodable (why : Text.Undecodable)
  | malformed (why : Malformed)

def Unreadable.literal : Unreadable → String
  | .undecodable why => why.literal
  | .malformed why => why.literal

/-- The value that the bytes write, or why there is none; the container that is
one too deep ends the reading before the rest is looked at. -/
def ofBytes (levels : Nat) (bs : Bytes) : Except (Unreadable ⊕ Container) Json :=
  match decodeText bs with
  | .error why => .error (.inl (.undecodable why))
  | .ok text => match read levels text with
    | .error (.malformed why) => .error (.inl (.malformed why))
    | .error (.tooDeep within) => .error (.inr within)
    | .ok value => .ok value

end SecretStore.Json
