import SecretStore.Bytes

/-!
Base64 with padding. Writing is the usual text in groups of four. Reading is
lenient: characters outside the alphabet are skipped, and the padding that
completes a group ends the text, whatever follows it.
-/

namespace SecretStore.Text.Base64

/-- The character of a number below 64, in the alphabet with plus and slash. -/
def digit (n : Nat) : Char :=
  if n < 26 then Char.ofNat (65 + n)
  else if n < 52 then Char.ofNat (71 + n)
  else if n < 62 then Char.ofNat (n - 4)
  else if n = 62 then '+'
  else '/'

def digitValue? (c : Char) : Option Nat :=
  if 'A' ≤ c && c ≤ 'Z' then some (c.toNat - 65)
  else if 'a' ≤ c && c ≤ 'z' then some (c.toNat - 71)
  else if '0' ≤ c && c ≤ '9' then some (c.toNat + 4)
  else if c == '+' then some 62
  else if c == '/' then some 63
  else none

/-- Three bytes to four characters; one or two left over are padded. -/
def encode : Bytes → List Char
  | [] => []
  | [a] => [digit (a.toNat / 4), digit (a.toNat % 4 * 16), '=', '=']
  | [a, b] =>
    [digit (a.toNat / 4), digit (a.toNat % 4 * 16 + b.toNat / 16), digit (b.toNat % 16 * 4), '=']
  | a :: b :: c :: rest =>
    digit (a.toNat / 4) :: digit (a.toNat % 4 * 16 + b.toNat / 16) ::
      digit (b.toNat % 16 * 4 + c.toNat / 64) :: digit (c.toNat % 64) :: encode rest

/-- Where a reader stands in a group: how many of its characters were read,
and the bits of the last one that belong to the next byte. -/
inductive Place
  | zero
  | one (bits : Nat)
  | two (bits : Nat)
  | three (bits : Nat)
deriving DecidableEq, Repr

inductive Fault
  /-- A group was left with one character; `complete` of them were read before it. -/
  | lonelyCharacter (complete : Nat)
  | missingPadding
deriving DecidableEq, Repr

/-- Reads on from a place, `pads` paddings having been seen since the last
character of the alphabet, and `written` bytes made. -/
def decodeFrom : Place → Nat → Nat → List Char → Except Fault Bytes
  | .zero, _, _, [] => .ok []
  | .one _, _, written, [] => .error (.lonelyCharacter (written / 3 * 4 + 1))
  | .two _, _, _, [] | .three _, _, _, [] => .error .missingPadding
  | place, pads, written, c :: rest =>
    if c == '=' then
      match place with
      | .zero | .one _ => decodeFrom place pads written rest
      | .two _ => if 1 ≤ pads then .ok [] else decodeFrom place (pads + 1) written rest
      | .three _ => .ok []
    else match digitValue? c with
      | none => decodeFrom place pads written rest
      | some v => match place with
        | .zero => decodeFrom (.one v) 0 written rest
        | .one bits =>
          return UInt8.ofNat (bits * 4 + v / 16) ::
            (← decodeFrom (.two (v % 16)) 0 (written + 1) rest)
        | .two bits =>
          return UInt8.ofNat (bits * 16 + v / 4) ::
            (← decodeFrom (.three (v % 4)) 0 (written + 1) rest)
        | .three bits =>
          return UInt8.ofNat (bits * 64 + v) :: (← decodeFrom .zero 0 (written + 1) rest)

def decode (cs : List Char) : Except Fault Bytes :=
  decodeFrom .zero 0 0 cs

def toUrlAlphabet (c : Char) : Char :=
  if c == '+' then '-' else if c == '/' then '_' else c

def ofUrlAlphabet (c : Char) : Char :=
  if c == '-' then '+' else if c == '_' then '/' else c

def encodeUrl (bs : Bytes) : List Char :=
  (encode bs).map toUrlAlphabet

def decodeUrl (cs : List Char) : Except Fault Bytes :=
  decode (cs.map ofUrlAlphabet)

def Fault.message : Fault → String
  | .lonelyCharacter complete =>
    "Invalid base64-encoded string: number of data characters (" ++
      String.ofList (Nat.toDigits 10 complete) ++ ") cannot be 1 more than a multiple of 4"
  | .missingPadding => "Incorrect padding"

end SecretStore.Text.Base64
