import SecretStore.Bytes

/-!
AES with keys of 128 bits, and messages of any length under it. Bytes are
elements of the field of 256 elements; a block is four columns of four bytes.
A message is filled up to whole blocks by as many bytes as are missing, each
holding their number, and every block is joined with the encrypted one before.
-/

namespace SecretStore.Aes

def double (b : UInt8) : UInt8 :=
  (b <<< 1) ^^^ (if 0x80 ≤ b then 0x1b else 0)

/-- The product in the field, by the bits of the second factor from the lowest one. -/
def mulBits : Nat → UInt8 → UInt8 → UInt8
  | 0, _, _ => 0
  | n + 1, a, b => (if b &&& 1 == 1 then a else 0) ^^^ mulBits n (double a) (b >>> 1)

def mul (a b : UInt8) : UInt8 :=
  mulBits 8 a b

def power (b : UInt8) : Nat → UInt8
  | 0 => 1
  | n + 1 => mul b (power b n)

/-- The inverse in the field; zero goes to itself. -/
def inverse (b : UInt8) : UInt8 :=
  power b 254

def rotateLeft (b : UInt8) (n : UInt8) : UInt8 :=
  (b <<< n) ||| (b >>> (8 - n))

def substituted (b : UInt8) : UInt8 :=
  let i := inverse b
  i ^^^ rotateLeft i 1 ^^^ rotateLeft i 2 ^^^ rotateLeft i 3 ^^^ rotateLeft i 4 ^^^ 0x63

def unsubstituted (b : UInt8) : UInt8 :=
  inverse (rotateLeft b 1 ^^^ rotateLeft b 3 ^^^ rotateLeft b 6 ^^^ 0x05)

def table (f : UInt8 → UInt8) : Array UInt8 :=
  ((List.range 256).map fun n => f (UInt8.ofNat n)).toArray

def substitution : Array UInt8 := table substituted

def unsubstitution : Array UInt8 := table unsubstituted

def substitute (b : UInt8) : UInt8 :=
  substitution.getD b.toNat 0

def unsubstitute (b : UInt8) : UInt8 :=
  unsubstitution.getD b.toNat 0

structure Column where
  a : UInt8
  b : UInt8
  c : UInt8
  d : UInt8
deriving DecidableEq, Repr

namespace Column

def map (f : UInt8 → UInt8) (x : Column) : Column :=
  ⟨f x.a, f x.b, f x.c, f x.d⟩

def xor (x y : Column) : Column :=
  ⟨x.a ^^^ y.a, x.b ^^^ y.b, x.c ^^^ y.c, x.d ^^^ y.d⟩

def circulant (p q r s : UInt8) (x : Column) : Column :=
  ⟨mul x.a p ^^^ mul x.b q ^^^ mul x.c r ^^^ mul x.d s,
    mul x.a s ^^^ mul x.b p ^^^ mul x.c q ^^^ mul x.d r,
    mul x.a r ^^^ mul x.b s ^^^ mul x.c p ^^^ mul x.d q,
    mul x.a q ^^^ mul x.b r ^^^ mul x.c s ^^^ mul x.d p⟩

def mix (x : Column) : Column :=
  circulant 2 3 1 1 x

def unmix (x : Column) : Column :=
  circulant 14 11 13 9 x

end Column

structure Block where
  w : Column
  x : Column
  y : Column
  z : Column
deriving DecidableEq, Repr

namespace Block

def map (f : Column → Column) (s : Block) : Block :=
  ⟨f s.w, f s.x, f s.y, f s.z⟩

def xor (s t : Block) : Block :=
  ⟨s.w.xor t.w, s.x.xor t.x, s.y.xor t.y, s.z.xor t.z⟩

def shift (s : Block) : Block :=
  ⟨⟨s.w.a, s.x.b, s.y.c, s.z.d⟩, ⟨s.x.a, s.y.b, s.z.c, s.w.d⟩,
    ⟨s.y.a, s.z.b, s.w.c, s.x.d⟩, ⟨s.z.a, s.w.b, s.x.c, s.y.d⟩⟩

def unshift (s : Block) : Block :=
  ⟨⟨s.w.a, s.z.b, s.y.c, s.x.d⟩, ⟨s.x.a, s.w.b, s.z.c, s.y.d⟩,
    ⟨s.y.a, s.x.b, s.w.c, s.z.d⟩, ⟨s.z.a, s.y.b, s.x.c, s.w.d⟩⟩

theorem unshift_shift (s : Block) : s.shift.unshift = s := rfl

def toBytes (s : Block) : Bytes :=
  [s.w, s.x, s.y, s.z].flatMap fun c => [c.a, c.b, c.c, c.d]

def zero : Block :=
  ⟨⟨0, 0, 0, 0⟩, ⟨0, 0, 0, 0⟩, ⟨0, 0, 0, 0⟩, ⟨0, 0, 0, 0⟩⟩

end Block

/-- The whole blocks of bytes; what is left over is dropped. -/
def blocks : Bytes → List Block
  | b0 :: b1 :: b2 :: b3 :: b4 :: b5 :: b6 :: b7 :: b8 :: b9 :: b10 :: b11 :: b12 :: b13 :: b14 ::
      b15 :: rest =>
    ⟨⟨b0, b1, b2, b3⟩, ⟨b4, b5, b6, b7⟩, ⟨b8, b9, b10, b11⟩, ⟨b12, b13, b14, b15⟩⟩ :: blocks rest
  | _ => []

private def nextKey (constant : UInt8) (k : Block) : Block :=
  let turned : Column := ⟨k.z.b, k.z.c, k.z.d, k.z.a⟩
  let t := (turned.map substitute).xor ⟨constant, 0, 0, 0⟩
  let w := k.w.xor t
  let x := k.x.xor w
  let y := k.y.xor x
  ⟨w, x, y, k.z.xor y⟩

private def laterKeys : Nat → UInt8 → Block → List Block
  | 0, _, _ => []
  | n + 1, constant, k =>
    let next := nextKey constant k
    next :: laterKeys n (double constant) next

structure KeySchedule where
  first : Block
  middle : List Block
  last : Block

def KeySchedule.ofBytes (key : Bytes) : KeySchedule :=
  let first := (blocks key).headD .zero
  let later := laterKeys 10 1 first
  ⟨first, later.take 9, later.getLastD .zero⟩

def encryptBlock (keys : KeySchedule) (s : Block) : Block :=
  let bytes (s : Block) : Block := (s.map (·.map substitute)).shift
  let s := keys.middle.foldl (fun s k => ((bytes s).map Column.mix).xor k) (s.xor keys.first)
  (bytes s).xor keys.last

def decryptBlock (keys : KeySchedule) (s : Block) : Block :=
  let bytes (s : Block) : Block := s.unshift.map (·.map unsubstitute)
  let s := keys.middle.foldr (fun k s => ((bytes s).xor k).map Column.unmix) (s.xor keys.last)
  (bytes s).xor keys.first

def chain (keys : KeySchedule) : Block → List Block → List Block
  | _, [] => []
  | last, s :: rest =>
    let t := encryptBlock keys (s.xor last)
    t :: chain keys t rest

def unchain (keys : KeySchedule) : Block → List Block → List Block
  | _, [] => []
  | last, t :: rest => (decryptBlock keys t).xor last :: unchain keys t rest

def fill (message : Bytes) : Bytes :=
  let missing := 16 - message.length % 16
  message ++ List.replicate missing (UInt8.ofNat missing)

def unfill? (filled : Bytes) : Option Bytes :=
  let count := (filled.getLastD 0).toNat
  let message := filled.take (filled.length - count)
  if 1 ≤ count && count ≤ 16 && filled == message ++ List.replicate count (UInt8.ofNat count) then
    some message
  else none

def encrypt (key start message : Bytes) : Bytes :=
  let start := (blocks start).headD .zero
  (chain (.ofBytes key) start (blocks (fill message))).flatMap Block.toBytes

def decrypt? (key start encrypted : Bytes) : Option Bytes :=
  if encrypted.length % 16 != 0 then none
  else
    let start := (blocks start).headD .zero
    unfill? ((unchain (.ofBytes key) start (blocks encrypted)).flatMap Block.toBytes)

end SecretStore.Aes
