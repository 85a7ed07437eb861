import SecretStore.Text.Blank
import SecretStore.Text.Unencodable

/-!
Paths of files. Empty parts and single dots count for nothing, and two dots are
kept; a path without parts is shown as a dot.
-/

namespace SecretStore

structure FilePath where
  /-- The slashes in front: none, one or exactly two. -/
  root : String
  parts : List Text
deriving DecidableEq, Repr, Inhabited

namespace FilePath

def ofText (t : Text) : FilePath :=
  let slashes := (t.points.takeWhile (· == .char '/')).length
  let root := if slashes = 0 then "" else if slashes = 2 then "//" else "/"
  let parts := ((Text.splitOn (.char '/') t.points).map Text.mk).filter fun p =>
    p != Text.ofString "" && p != Text.ofString "."
  ⟨root, parts⟩

def text (p : FilePath) : Text :=
  if p.root = "" && p.parts.isEmpty then "." else p.root ++ Text.intercalate "/" p.parts

/-- The path without its last part; a path without parts is its own parent. -/
def parent (p : FilePath) : FilePath :=
  { p with parts := p.parts.dropLast }

def join (p : FilePath) (part : Text) : FilePath :=
  { p with parts := p.parts ++ [part] }

def hasNull (p : FilePath) : Bool :=
  p.parts.any fun part => part.points.contains (.char '\x00')

/-- The bytes of a name; one that has none is never looked up. -/
def nameBytes (part : Text) : Bytes :=
  (Text.encodeName part).toOption.getD []

def isLongName (part : Text) : Bool :=
  255 < (nameBytes part).length

/-- Whether the whole path is too long: 4096 bytes or more. -/
def isLong (p : FilePath) : Bool :=
  4096 ≤ (nameBytes p.text).length

end FilePath

end SecretStore
