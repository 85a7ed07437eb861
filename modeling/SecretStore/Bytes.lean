import SecretStore.Text.Digit
import SecretStore.Text.Quoted

/-!
Byte strings, and their text in hexadecimal digits.
-/

namespace SecretStore

abbrev Bytes := List UInt8

namespace Bytes

def toHex (bs : Bytes) : String :=
  String.ofList (bs.flatMap fun b => Text.hexDigits 2 b.toNat)

private def ofHexChars? : List Char → Option Bytes
  | [] => some []
  | [_] => none
  | h :: l :: rest => do
    let high ← Text.hexValue? h
    let low ← Text.hexValue? l
    return (UInt8.ofNat (16 * high + low)) :: (← ofHexChars? rest)

def ofHex? (s : String) : Option Bytes :=
  ofHexChars? s.toList

/-- The eight bytes of a number modulo 2^64, highest first. -/
def ofNat64 (n : Nat) : Bytes :=
  (List.range 8).map fun i => UInt8.ofNat (n >>> (8 * (7 - i)) % 256)

/-- The sixteen bytes of a number modulo 2^128, highest first. -/
def ofNat128 (n : Nat) : Bytes :=
  (List.range 16).map fun i => UInt8.ofNat (n >>> (8 * (15 - i)) % 256)

end Bytes

end SecretStore
