import SecretStore.Text
import SecretStore.Text.Printable

/-!
Quoted text: a string as one printable line between quotes. The single quote
is used unless the text holds single quotes and no double quote. A backslash
and the quote in use are escaped by a backslash, tab, newline and carriage
return by a letter, and every other character that is not printable, and every
surrogate, by its code point in two, four or eight hexadecimal digits.
-/

namespace SecretStore.Text

def hexDigit (n : Nat) : Char :=
  if n < 10 then Char.ofNat (48 + n) else Char.ofNat (87 + n)

/-- The lowest `width` hexadecimal digits of a number, highest first. -/
def hexDigits : Nat → Nat → List Char
  | 0, _ => []
  | width + 1, n => hexDigit (n >>> (4 * width) % 16) :: hexDigits width n

/-- The quote that needs the fewest escapes: single unless only single quotes occur. -/
def quoteFor (cs : List CodePoint) : Char :=
  if cs.contains '\'' && !cs.contains '"' then '"' else '\''

def escapeChar (quote c : Char) : List Char :=
  if c == quote || c == '\\' then ['\\', c]
  else if c == '\n' then ['\\', 'n']
  else if c == '\r' then ['\\', 'r']
  else if c == '\t' then ['\\', 't']
  else if isPrintable c then [c]
  else if c.toNat < 0x100 then '\\' :: 'x' :: hexDigits 2 c.toNat
  else if c.toNat < 0x10000 then '\\' :: 'u' :: hexDigits 4 c.toNat
  else '\\' :: 'U' :: hexDigits 8 c.toNat

def escapePoint (quote : Char) : CodePoint → List Char
  | .char c => escapeChar quote c
  | .surrogate n => '\\' :: 'u' :: hexDigits 4 (0xd800 + n)

def escape (quote : Char) (cs : List CodePoint) : List Char :=
  cs.flatMap (escapePoint quote)

def quotePoints (cs : List CodePoint) : List Char :=
  let quote := quoteFor cs
  quote :: escape quote cs ++ [quote]

def quoted (t : Text) : String :=
  String.ofList (quotePoints t.points)

private def escapeByte (quote : Char) (b : UInt8) : List Char :=
  let c := Char.ofNat b.toNat
  if c == quote || c == '\\' then ['\\', c]
  else if c == '\n' then ['\\', 'n']
  else if c == '\r' then ['\\', 'r']
  else if c == '\t' then ['\\', 't']
  else if 32 ≤ b.toNat && b.toNat < 127 then [c]
  else '\\' :: 'x' :: hexDigits 2 b.toNat

/-- Bytes between quotes behind the letter b; bytes that are no printable ASCII are escaped. -/
def quotedBytes (bs : List UInt8) : String :=
  let quote := quoteFor (bs.map fun b => .char (Char.ofNat b.toNat))
  String.ofList ('b' :: quote :: bs.flatMap (escapeByte quote) ++ [quote])

end SecretStore.Text
