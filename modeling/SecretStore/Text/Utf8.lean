import SecretStore.Bytes

/-!
UTF-8. Writing is one to four bytes a character. Reading is a machine that
takes one byte at a time and knows how many continuation bytes a character
still owes and which range its next byte must fall in, so that overlong forms,
surrogates and code points past U+10FFFF are refused at the earliest byte. A
fault covers the longest start of a character that was well formed, and
reading resumes behind it. The three bytes that a surrogate would have are
refused too, unless the reader lets them pass.
-/

namespace SecretStore.Text.Utf8

def encodeChar (c : Char) : Bytes :=
  let n := c.toNat
  if n < 0x80 then [UInt8.ofNat n]
  else if n < 0x800 then [UInt8.ofNat (0xc0 + n / 64), UInt8.ofNat (0x80 + n % 64)]
  else if n < 0x10000 then
    [UInt8.ofNat (0xe0 + n / 4096), UInt8.ofNat (0x80 + n / 64 % 64), UInt8.ofNat (0x80 + n % 64)]
  else
    [UInt8.ofNat (0xf0 + n / 262144), UInt8.ofNat (0x80 + n / 4096 % 64),
      UInt8.ofNat (0x80 + n / 64 % 64), UInt8.ofNat (0x80 + n % 64)]

def encodeChars (cs : List Char) : Bytes :=
  cs.flatMap encodeChar

def encode (s : String) : Bytes :=
  encodeChars s.toList

inductive Reason
  | invalidStart
  | invalidContinuation
  | unexpectedEnd
deriving DecidableEq, Repr

inductive Piece
  | char (c : Char)
  | fault (reason : Reason) (width : Nat)
deriving DecidableEq, Repr

/-- What is known of a character of which `width` bytes are read: its leading
bits, the continuation bytes it owes, and the range of the next one. -/
structure Unfinished where
  width : Nat
  bits : Nat
  owed : Nat
  low : Nat
  high : Nat
deriving Repr

inductive Start
  | whole (c : Char)
  | opens (p : Unfinished)
  | refused

def start (b : Nat) : Start :=
  if b < 0x80 then .whole (Char.ofNat b)
  else if b < 0xc2 then .refused
  else if b < 0xe0 then .opens ⟨1, b - 0xc0, 1, 0x80, 0xbf⟩
  else if b < 0xf0 then
    .opens ⟨1, b - 0xe0, 2, if b = 0xe0 then 0xa0 else 0x80, if b = 0xed then 0x9f else 0xbf⟩
  else if b < 0xf5 then
    .opens ⟨1, b - 0xf0, 3, if b = 0xf0 then 0x90 else 0x80, if b = 0xf4 then 0x8f else 0xbf⟩
  else .refused

def pieces : Option Unfinished → Bytes → List Piece
  | none, [] => []
  | some p, [] => [.fault .unexpectedEnd p.width]
  | pending, b :: rest =>
    let fresh (_ : Unit) : List Piece :=
      match start b.toNat with
      | .whole c => .char c :: pieces none rest
      | .opens p => pieces (some p) rest
      | .refused => .fault .invalidStart 1 :: pieces none rest
    match pending with
    | none => fresh ()
    | some p =>
      if p.low ≤ b.toNat && b.toNat ≤ p.high then
        let bits := 64 * p.bits + (b.toNat - 0x80)
        match p.owed with
        | 0 | 1 => .char (Char.ofNat bits) :: pieces none rest
        | owed + 1 => pieces (some ⟨p.width + 1, bits, owed, 0x80, 0xbf⟩) rest
      else .fault .invalidContinuation p.width :: fresh ()

/-- The text of the bytes, with U+FFFD in place of each fault. -/
def decodeLossy (bs : Bytes) : List Char :=
  (pieces none bs).map fun
    | .char c => c
    | .fault _ _ => '\ufffd'

/-- The code points of pieces, with a surrogate for each byte of a fault; `bs`
are the bytes that the pieces were read from. -/
def escapePieces : Bytes → List Piece → List CodePoint
  | _, [] => []
  | bs, .char c :: rest => .char c :: escapePieces (bs.drop (encodeChar c).length) rest
  | bs, .fault _ width :: rest =>
    (bs.take width).map (fun b => .surrogate (Fin.ofNat 2048 (0x400 + b.toNat))) ++
      escapePieces (bs.drop width) rest

def decodeEscaped (bs : Bytes) : List CodePoint :=
  escapePieces bs (pieces none bs)

structure Fault where
  reason : Reason
  start : Nat
  width : Nat
deriving DecidableEq, Repr

def collectChars (position : Nat) : List Piece → Except Fault (List Char)
  | [] => .ok []
  | .char c :: rest => return c :: (← collectChars (position + (encodeChar c).length) rest)
  | .fault reason width :: _ => .error ⟨reason, position, width⟩

def decode (bs : Bytes) : Except Fault (List Char) :=
  collectChars 0 (pieces none bs)

def surrogate? : Bytes → Option (Fin 2048)
  | 0xed :: b :: c :: _ =>
    if 0xa0 ≤ b.toNat && b.toNat < 0xc0 && 0x80 ≤ c.toNat && c.toNat < 0xc0 then
      some ⟨(64 * (b.toNat - 0xa0) + (c.toNat - 0x80)) % 2048, Nat.mod_lt _ (by decide)⟩
    else none
  | _ => none

/-- The code points of pieces, surrogates among them; `bs` are the bytes that
the pieces were read from. The bytes of a surrogate are three faults. -/
def collectPoints (position : Nat) : Bytes → List Piece → Except Fault (List CodePoint)
  | _, [] => .ok []
  | bs, .char c :: rest => do
    let width := (encodeChar c).length
    return .char c :: (← collectPoints (position + width) (bs.drop width) rest)
  | bs, .fault reason width :: rest =>
    match surrogate? bs, rest with
    | some n, _ :: _ :: rest => do
      return .surrogate n :: (← collectPoints (position + 3) (bs.drop 3) rest)
    | _, _ => .error ⟨reason, position, width⟩

def decodePass (bs : Bytes) : Except Fault (List CodePoint) :=
  collectPoints 0 bs (pieces none bs)

end SecretStore.Text.Utf8
