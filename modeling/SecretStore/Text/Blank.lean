import SecretStore.Text
import SecretStore.Text.CodeRange

/-!
White space: the separators of Unicode, and the controls that end lines or
fields.
-/

namespace SecretStore.Text

private def blankRanges : List CodeRange :=
  [(0x9, 0xd), (0x1c, 0x20), (0x85, 0x85), (0xa0, 0xa0), (0x1680, 0x1680), (0x2000, 0x200a),
   (0x2028, 0x2029), (0x202f, 0x202f), (0x205f, 0x205f), (0x3000, 0x3000)]

def isBlank (c : Char) : Bool :=
  covers blankRanges c.toNat

def isBlankPoint : CodePoint → Bool
  | .char c => isBlank c
  | .surrogate _ => false

def trim (cs : List CodePoint) : List CodePoint :=
  ((cs.dropWhile isBlankPoint).reverse.dropWhile isBlankPoint).reverse

/-- The pieces between the separators; at least one, and none is dropped. -/
def splitOn {α : Type} [BEq α] (separator : α) : List α → List (List α)
  | [] => [[]]
  | c :: rest =>
    if c == separator then [] :: splitOn separator rest
    else match splitOn separator rest with
      | [] => [[c]]
      | piece :: pieces => (c :: piece) :: pieces

def commaSeparated (cs : List CodePoint) : List (List CodePoint) :=
  ((splitOn (.char ',') cs).map trim).filter (!·.isEmpty)

end SecretStore.Text
