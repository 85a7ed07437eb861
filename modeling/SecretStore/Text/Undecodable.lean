import SecretStore.Text.Utf8
import SecretStore.Text.Digit

/-!
Bytes that are no text: the encoding, the bytes it was asked to read, the part
that it refused, and why.
-/

namespace SecretStore.Text

structure Undecodable where
  encoding : String
  bytes : Bytes
  first : Nat
  past : Nat
  reason : String
deriving DecidableEq, Repr

namespace Undecodable

private def number (n : Nat) : String :=
  String.ofList (decimal n)

def message (u : Undecodable) : String :=
  let place :=
    if u.past == u.first + 1 then
      let b := ((u.bytes.drop u.first).headD 0).toNat
      "byte 0x" ++ String.ofList (hexDigits 2 b) ++ " in position " ++ number u.first
    else "bytes in position " ++ number u.first ++ "-" ++ number (u.past - 1)
  quoted u.encoding ++ " codec can't decode " ++ place ++ ": " ++ u.reason

def literal (u : Undecodable) : String :=
  "UnicodeDecodeError(" ++ quoted u.encoding ++ ", " ++ quotedBytes u.bytes ++ ", " ++
    number u.first ++ ", " ++ number u.past ++ ", " ++ quoted u.reason ++ ")"

end Undecodable

def Utf8.Reason.message : Utf8.Reason → String
  | .invalidStart => "invalid start byte"
  | .invalidContinuation => "invalid continuation byte"
  | .unexpectedEnd => "unexpected end of data"

def Undecodable.ofUtf8 (bs : Bytes) (fault : Utf8.Fault) : Undecodable :=
  ⟨"utf-8", bs, fault.start, fault.start + fault.width, fault.reason.message⟩

def readUtf8 (bs : Bytes) : Except Undecodable (List Char) :=
  match Utf8.decode bs with
  | .ok cs => .ok cs
  | .error fault => .error (.ofUtf8 bs fault)

end SecretStore.Text
