import SecretStore.Number.Binary64
import SecretStore.Text.Blank
import SecretStore.Text.Digit

/-!
Reading numbers from text: decimal digits with a point and an exponent, the
words for infinity and for no number, a sign, white space at both ends, and
underscores between digits.
-/

namespace SecretStore.Decimal

def spanDigits (cs : List Char) : List Char × List Char :=
  cs.span Text.isAsciiDigit

structure Parts where
  whole : List Char
  behind : List Char
  exponent : Int

def Parts.toBinary64 (p : Parts) (negative : Bool) : Binary64 :=
  Binary64.ofDecimal negative (Text.digitsValue (p.whole ++ p.behind))
    (p.exponent - p.behind.length)

/-- An exponent mark with its digits, or nothing; a mark without digits is left alone. -/
def spanExponent (cs : List Char) : Int × List Char :=
  match cs with
  | mark :: rest =>
    if mark == 'e' || mark == 'E' then
      let (negative, body) := match rest with
        | '-' :: r => (true, r)
        | '+' :: r => (false, r)
        | r => (false, r)
      let (ds, rest') := spanDigits body
      if ds.isEmpty then (0, cs)
      else
        let n : Int := Text.digitsValue ds
        (if negative then -n else n, rest')
    else (0, cs)
  | [] => (0, [])

def spanParts (cs : List Char) : Option (Parts × List Char) :=
  let (whole, rest) := spanDigits cs
  let (behind, rest) := match rest with
    | '.' :: r => spanDigits r
    | r => ([], r)
  if whole.isEmpty && behind.isEmpty then none
  else
    let (exponent, rest) := spanExponent rest
    some (⟨whole, behind, exponent⟩, rest)

private def lowerAscii (c : Char) : Char :=
  if 'A' ≤ c && c ≤ 'Z' then Char.ofNat (c.toNat + 32) else c

private def unsigned? (negative : Bool) (cs : List Char) : Option Binary64 :=
  match String.ofList (cs.map lowerAscii) with
  | "inf" | "infinity" => some (.infinite negative)
  | "nan" => some .nan
  | _ => match spanParts cs with
    | some (parts, []) => some (parts.toBinary64 negative)
    | _ => none

/-- White space around a number: outside ASCII any, inside it the usual six. -/
private def isNumberBlank (c : Char) : Bool :=
  if c.toNat < 127 then c == ' ' || (9 ≤ c.toNat && c.toNat ≤ 13) else Text.isBlank c

private def dropUnderscores : Bool → List Char → Option (List Char)
  | _, [] => some []
  | afterDigit, c :: rest =>
    if c == '_' then
      match rest with
      | d :: _ => if afterDigit && Text.isAsciiDigit d then dropUnderscores false rest else none
      | [] => none
    else (dropUnderscores (Text.isAsciiDigit c) rest).map (c :: ·)

/-- A character as numbers read it: digits of every script are digits, and all
white space is a blank. -/
def normalDigit (c : Char) : Char :=
  match Text.digitValue? c with
  | some d => Char.ofNat (48 + d)
  | none => if isNumberBlank c then ' ' else c

def number? (cs : List Char) : Option Binary64 := do
  let cs := cs.map normalDigit
  let isSpace (c : Char) : Bool := c == ' '
  let body := ((cs.dropWhile isSpace).reverse.dropWhile isSpace).reverse
  let body ← dropUnderscores false body
  match body with
  | '-' :: rest => unsigned? true rest
  | '+' :: rest => unsigned? false rest
  | rest => unsigned? false rest

end SecretStore.Decimal
