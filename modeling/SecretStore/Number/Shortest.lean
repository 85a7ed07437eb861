import SecretStore.Number.Binary64
import SecretStore.Text.Digit

/-!
The shortest decimal text of a double-precision number: of all decimals with
the fewest digits that round to the number, the one nearest to it. Grids of
one, two, up to seventeen digits are tried, and on each the two neighbours of
the number.
-/

namespace SecretStore.Binary64

structure Digits where
  value : Nat
  exponent : Int

private def scaleTen (num den : Nat) : Int → Nat × Nat
  | .ofNat k => (num * Nat.pow 10 k, den)
  | .negSucc k => (num, den * Nat.pow 10 (k + 1))

/-- Exponent of the leading decimal digit of a positive fraction above 10^-400. -/
private def leadingExponent (num den : Nat) : Int :=
  ((Text.decimal (num * Nat.pow 10 400 / den)).length : Int) - 401

/-- The point of the grid `10 ^ exponent` nearest to `num / den` of the two
around it that lie between the bounds `low / den` and `high / den`, ends
included if `closed`. -/
private def gridPoint (num low high den : Nat) (closed : Bool) (exponent : Int) : Option Nat :=
  let x := scaleTen num den (-exponent)
  let l := scaleTen low den (-exponent)
  let h := scaleTen high den (-exponent)
  let below := x.1 / x.2
  let inside (n : Nat) : Bool :=
    if closed then l.1 ≤ n * l.2 && n * h.2 ≤ h.1 else l.1 < n * l.2 && n * h.2 < h.1
  let gap := x.1 - below * x.2
  let first := if 2 * gap < x.2 || (2 * gap == x.2 && below % 2 == 0) then below else below + 1
  let second := if first == below then below + 1 else below
  if inside first then some first else if inside second then some second else none

private def searchGrid (num low high den : Nat) (closed : Bool) (leading : Int) :
    Nat → Nat → Digits
  | 0, digits => ⟨0, digits⟩
  | fuel + 1, digits =>
    let exponent := leading + 1 - digits
    match gridPoint num low high den closed exponent with
    | some n => ⟨n, exponent⟩
    | none => searchGrid num low high den closed leading fuel (digits + 1)

/-- The shortest digits of a positive number. Four times the mantissa leaves
room for the half gaps on both sides; the gap below a power of two is half as
wide as the one above. -/
def shortest (mantissa : Nat) (exponent : Int) : Digits :=
  let unit := fraction 1 (exponent - 2)
  let centre := 4 * mantissa
  let low := if mantissa == normalMantissa && -1074 < exponent then centre - 1 else centre - 2
  let high := centre + 2
  searchGrid (centre * unit.1) (low * unit.1) (high * unit.1) unit.2 (mantissa % 2 == 0)
    (leadingExponent (centre * unit.1) unit.2) 17 1

private def dropZeros : Nat → Nat → Int → Nat × Int
  | 0, n, e => (n, e)
  | fuel + 1, n, e => if n % 10 == 0 && n != 0 then dropZeros fuel (n / 10) (e + 1) else (n, e)

/-- Positional from 10^-4 to below 10^16, else one digit before the point and
an exponent of at least two digits. -/
private def magnitudeText (mantissa : Nat) (exponent : Int) : List Char :=
  if mantissa = 0 then ['0', '.', '0']
  else
    let d := shortest mantissa exponent
    let (n, e) := dropZeros 400 d.value d.exponent
    let ds := Text.decimal n
    let point : Int := ds.length + e
    if -4 < point && point ≤ 16 then
      if point ≤ 0 then '0' :: '.' :: (List.replicate (-point).toNat '0' ++ ds)
      else
        let whole := ds.take point.toNat
        let rest := ds.drop point.toNat
        whole ++ List.replicate (point.toNat - whole.length) '0' ++
          '.' :: (if rest.isEmpty then ['0'] else rest)
    else
      let power := point - 1
      ds.take 1 ++ (if ds.length ≤ 1 then [] else '.' :: ds.drop 1) ++
        'e' :: (if power < 0 then '-' else '+') :: Text.padded 2 power.natAbs

def textWith (infinity notNumber : String) : Binary64 → String
  | .nan => notNumber
  | .infinite negative => if negative then "-" ++ infinity else infinity
  | .finite negative m e =>
    String.ofList ((if negative then ['-'] else []) ++ magnitudeText m e)

def text : Binary64 → String :=
  textWith "inf" "nan"

end SecretStore.Binary64
