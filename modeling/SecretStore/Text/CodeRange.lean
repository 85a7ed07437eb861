/-!
Character classes as sorted lists of code point ranges, ends included.
-/

namespace SecretStore.Text

abbrev CodeRange := Nat × Nat

def covers : List CodeRange → Nat → Bool
  | [], _ => false
  | (first, last) :: rest, n =>
    if n < first then false else if n ≤ last then true else covers rest n

end SecretStore.Text
