/-!
Texts. A text is a list of code points, and a code point is a character or one
half of a surrogate pair. No encoding holds such a half alone, but it can come
from an escape, or from an argument or a variable that is not UTF-8, and it is
kept as it is until the text has to be encoded.
-/

namespace SecretStore

inductive CodePoint
  | char (c : Char)
  | surrogate (n : Fin 2048)
deriving DecidableEq, Repr

namespace CodePoint

instance : Inhabited CodePoint := ⟨.char default⟩

instance : Coe Char CodePoint := ⟨.char⟩

def toNat : CodePoint → Nat
  | .char c => c.toNat
  | .surrogate n => 0xd800 + n

def ofNat (n : Nat) : CodePoint :=
  if h : 0xd800 ≤ n ∧ n < 0xe000 then .surrogate ⟨n - 0xd800, by omega⟩ else .char (Char.ofNat n)

def char? : CodePoint → Option Char
  | .char c => some c
  | .surrogate _ => none

/-- The character, with U+FFFD in place of a surrogate. -/
def shown : CodePoint → Char
  | .char c => c
  | .surrogate _ => '\ufffd'

def isHigh : CodePoint → Bool
  | .surrogate n => n < 0x400
  | _ => false

def isLow : CodePoint → Bool
  | .surrogate n => 0x400 ≤ n.val
  | _ => false

theorem toNat_surrogate (n : Fin 2048) : (surrogate n).toNat = 0xd800 + n := rfl

@[simp] theorem ofNat_toNat (p : CodePoint) : ofNat p.toNat = p := by
  cases p with
  | char c =>
    have valid : c.toNat < 0xd800 ∨ 0xdfff < c.toNat ∧ c.toNat < 0x110000 := c.valid
    have other : ¬ (0xd800 ≤ c.toNat ∧ c.toNat < 0xe000) := by omega
    rw [toNat, ofNat, dif_neg other, Char.ofNat_toNat]
  | surrogate n =>
    have half : 0xd800 ≤ 0xd800 + n.val ∧ 0xd800 + n.val < 0xe000 := by omega
    rw [toNat, ofNat, dif_pos half]
    simp

end CodePoint

structure Text where
  points : List CodePoint
deriving DecidableEq, Repr, Inhabited

namespace Text

def ofChars (cs : List Char) : Text :=
  ⟨cs.map .char⟩

@[coe]
def ofString (s : String) : Text :=
  ofChars s.toList

instance : Coe String Text := ⟨ofString⟩

instance : Append Text := ⟨fun s t => ⟨s.points ++ t.points⟩⟩

def intercalate (between : Text) (ts : List Text) : Text :=
  ⟨between.points.intercalate (ts.map points)⟩

def join (ts : List Text) : Text :=
  ⟨ts.flatMap points⟩

def chars? (t : Text) : Option (List Char) :=
  t.points.mapM CodePoint.char?

def shown (t : Text) : List Char :=
  t.points.map CodePoint.shown

instance : LT Text := ⟨fun s t => s.points.map CodePoint.toNat < t.points.map CodePoint.toNat⟩

instance (s t : Text) : Decidable (s < t) :=
  inferInstanceAs (Decidable (s.points.map CodePoint.toNat < t.points.map CodePoint.toNat))

@[simp] theorem points_append (s t : Text) : (s ++ t).points = s.points ++ t.points := rfl

@[ext] theorem ext {s t : Text} (h : s.points = t.points) : s = t :=
  congrArg Text.mk h

theorem points_ofString (s : String) : (ofString s).points = s.toList.map .char := rfl

theorem ofChars_inj {cs ds : List Char} : ofChars cs = ofChars ds ↔ cs = ds := by
  refine ⟨fun same => ?_, congrArg ofChars⟩
  exact (List.map_inj_right fun _ _ => CodePoint.char.inj).mp (congrArg points same)

@[simp] theorem ofString_inj {s t : String} : ofString s = ofString t ↔ s = t := by
  rw [ofString, ofString, ofChars_inj, String.toList_inj]

@[simp] theorem shown_ofChars (cs : List Char) : (ofChars cs).shown = cs := by
  rw [shown, ofChars, List.map_map]
  exact List.map_id cs

@[simp] theorem shown_ofString (s : String) : (ofString s).shown = s.toList :=
  shown_ofChars _

end Text

end SecretStore
