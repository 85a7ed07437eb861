import SecretStore.Yaml.Document

/-!
What the stack has room for. Reading JSON takes a frame for each list or object
that is open, and how many are left depends on what called the reader. Reading
YAML takes frames for nested collections, but also for mappings that bring each
other in, so all that is said of a text is whether there is room for it.
-/

namespace SecretStore

/-- How many lists and objects of JSON may be open at once. A table of records
opens four itself. -/
structure Levels where
  count : Nat
  enough : 4 ≤ count

namespace Levels

def standard : Levels := ⟨985, by decide⟩

instance : Inhabited Levels := ⟨standard⟩

end Levels

structure Stack where
  json : Levels
  exhausts : List Char → Bool

namespace Stack

def standard : Stack :=
  ⟨.standard, fun text => 485 < Yaml.depth text⟩

instance : Inhabited Stack := ⟨standard⟩

end Stack

end SecretStore
