import SecretStore.Files.Tree
import SecretStore.Text.Lines
import SecretStore.Text.Undecodable

/-!
The version of a program: the text of the nearest file of that name in a
directory above a file of the program. Blanks around the text count for nothing.
-/

namespace SecretStore

/-- The parts of a path with its double dots resolved by their names alone;
nothing if they lead above its start. -/
def FilePath.resolved (p : FilePath) : Option (List Text) :=
  p.parts.foldlM (fun (done : List Text) (part : Text) =>
    if part = ".." then (if done.isEmpty then none else some done.dropLast)
    else some (done ++ [part])) []

namespace Version

def fileName : String := "VERSION"

def unknown : String := "0.0.0"

/-- The content of the nearest version file in a directory or above it, the
directory being given from the innermost name outwards. -/
def nearest? (t : FileTree) : List Text → Option Bytes
  | [] => inDirectory []
  | name :: outer => (inDirectory (name :: outer)).orElse fun () => nearest? t outer
where
  inDirectory (names : List Text) : Option Bytes :=
    match t.look ⟨"", names.reverse ++ [(fileName : Text)]⟩ with
    | .ok (.file content) => some content
    | _ => none

def read (t : FileTree) (program : FilePath) : Except Text.Undecodable Text :=
  match (program.resolved.map fun parts => parts.dropLast.reverse).bind (nearest? t) with
  | none => .ok unknown
  | some content => do
    let text ← Text.readUtf8 content
    return ⟨Text.trim ((Text.normalLines text).map .char)⟩

end Version

end SecretStore
