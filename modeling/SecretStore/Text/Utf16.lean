import SecretStore.Text.Undecodable

/-!
UTF-16 and UTF-32. A code point past U+FFFF is a pair of surrogates in UTF-16;
a surrogate without its partner is kept.
-/

namespace SecretStore.Text.Utf16

def isHighSurrogate (n : Nat) : Bool :=
  0xd800 ≤ n && n < 0xdc00

def isLowSurrogate (n : Nat) : Bool :=
  0xdc00 ≤ n && n < 0xe000

def joinSurrogates (high low : Nat) : Char :=
  Char.ofNat (0x10000 + (high - 0xd800) * 0x400 + (low - 0xdc00))

/-- One unit, or the two surrogates of a code point past U+FFFF. -/
def units (c : Char) : List Nat :=
  let n := c.toNat
  if n < 0x10000 then [n]
  else [0xd800 + (n - 0x10000) / 0x400, 0xdc00 + (n - 0x10000) % 0x400]

def ofUnits : List Nat → List CodePoint
  | [] => []
  | [n] => [.ofNat n]
  | high :: low :: rest =>
    if isHighSurrogate high && isLowSurrogate low then
      .char (joinSurrogates high low) :: ofUnits rest
    else .ofNat high :: ofUnits (low :: rest)

private def pairUnits (bigEndian : Bool) : Bytes → List Nat
  | a :: b :: rest =>
    (if bigEndian then 256 * a.toNat + b.toNat else 256 * b.toNat + a.toNat) ::
      pairUnits bigEndian rest
  | _ => []

/-- Text of UTF-16 bytes after `skipped` bytes of the subject. A byte left over is refused. -/
def read (bigEndian : Bool) (subject : Bytes) (skipped : Nat) :
    Except Undecodable (List CodePoint) :=
  let bs := subject.drop skipped
  let us := pairUnits bigEndian bs
  if bs.length % 2 == 0 then .ok (ofUnits us)
  else
    let encoding := if bigEndian then "utf-16-be" else "utf-16-le"
    let size := subject.length
    if isHighSurrogate (us.getLastD 0) then
      .error ⟨encoding, subject, size - 3, size, "unexpected end of data"⟩
    else .error ⟨encoding, subject, size - 1, size, "truncated data"⟩

private def read32From (bigEndian : Bool) (subject : Bytes) (place : Nat) :
    Bytes → Except Undecodable (List CodePoint)
  | [] => .ok []
  | a :: b :: c :: d :: rest =>
    let join (p q r s : UInt8) : Nat :=
      16777216 * p.toNat + 65536 * q.toNat + 256 * r.toNat + s.toNat
    let n := if bigEndian then join a b c d else join d c b a
    if n < 0x110000 then return .ofNat n :: (← read32From bigEndian subject (place + 4) rest)
    else .error ⟨if bigEndian then "utf-32-be" else "utf-32-le", subject, place, place + 4,
      "code point not in range(0x110000)"⟩
  | rest => .error ⟨if bigEndian then "utf-32-be" else "utf-32-le", subject, place,
      place + rest.length, "truncated data"⟩

def read32 (bigEndian : Bool) (subject : Bytes) (skipped : Nat) :
    Except Undecodable (List CodePoint) :=
  read32From bigEndian subject skipped (subject.drop skipped)

end SecretStore.Text.Utf16
