import SecretStore.Value

/-!
Laying one mapping over another. Where both have a mapping under a key the two
are merged in turn; anything else under a key of the upper mapping takes the
place of what the lower one has there.
-/

namespace SecretStore.Value

mutual

def mergeEntries (lower : List (Value × Value)) : List (Value × Value) → List (Value × Value)
  | [] => lower
  | (key, value) :: rest =>
    mergeEntries (insert key (mergeValue (lookup key lower) value) lower) rest

def mergeValue : Option Value → Value → Value
  | some (.mapping lower), .mapping upper => .mapping (mergeEntries lower upper)
  | _, upper => upper

end

end SecretStore.Value
