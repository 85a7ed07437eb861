import SecretStore.Files.Path
import SecretStore.Text.Quoted

/-!
A tree of files and directories, and what can be done with it: looking at an
entry, reading and writing a file, making directories and removing a file. A
path is walked part by part from the working directory or from the root, and
two dots lead to the directory above. To go through a directory, to read an
entry and to write it are rights, each of which can be denied at a location.
Operations fail for the reasons a file system gives, with the number and the
words of the reason and the path.
-/

namespace SecretStore

inductive FileEntry
  | file (content : Bytes)
  | directory
deriving DecidableEq, Repr

inductive FileReason
  | missing
  | exists
  | notDirectory
  | isDirectory
  | nameTooLong
  | permission
  /-- The path holds a NUL and is not even passed on. -/
  | nullCharacter
  | unencodable (why : Text.Unencodable)
deriving DecidableEq, Repr

structure FileError where
  reason : FileReason
  path : FilePath
deriving DecidableEq, Repr

namespace FileReason

def words : FileReason → String
  | .missing => "[Errno 2] No such file or directory"
  | .exists => "[Errno 17] File exists"
  | .notDirectory => "[Errno 20] Not a directory"
  | .isDirectory => "[Errno 21] Is a directory"
  | .nameTooLong => "[Errno 36] File name too long"
  | .permission => "[Errno 13] Permission denied"
  | .nullCharacter => "embedded null byte"
  | .unencodable why => why.message

def kind : FileReason → String
  | .missing => "FileNotFoundError"
  | .exists => "FileExistsError"
  | .notDirectory => "NotADirectoryError"
  | .isDirectory => "IsADirectoryError"
  | .nameTooLong => "OSError"
  | .permission => "PermissionError"
  | .nullCharacter => "ValueError"
  | .unencodable _ => "UnicodeEncodeError"

/-- Whether the file system was never asked: the path cannot be passed on. -/
def isUnfit : FileReason → Bool
  | .nullCharacter | .unencodable _ => true
  | _ => false

end FileReason

def FilePath.unfit? (p : FilePath) : Option FileReason :=
  match Text.encodeName p.text with
  | .error why => some (.unencodable why)
  | .ok _ => if p.hasNull then some .nullCharacter else none

def FileError.message (e : FileError) : String :=
  if e.reason.isUnfit then e.reason.words
  else e.reason.words ++ ": " ++ Text.quoted e.path.text

/-- The names on the way from the working directory to an entry. Double dots
stand only in front, and a slash stands there for the root directory. -/
abbrev Location := List Text

namespace Location

def start (p : FilePath) : Location :=
  if p.root = "" then [] else [("/" : String)]

/-- The location that a part leads to; the root directory is above itself. -/
def enter (here : Location) (part : Text) : Location :=
  if part != Text.ofString ".." then here ++ [part]
  else match here.getLast? with
    | none => [part]
    | some last =>
      if last = ".." then here ++ [part] else if last = "/" then here else here.dropLast

def isGiven (here : Location) : Bool :=
  here == [Text.ofString "/"] || here.all (· == Text.ofString "..")

end Location

/-- What can be done with an entry: go through a directory, read a file, and
write a file or make entries in a directory. -/
inductive FileRight
  | search
  | read
  | write
deriving DecidableEq, Repr

/-- The entries of a file system, each at its location, and the rights that
are denied there. -/
structure FileTree where
  entries : List (Location × FileEntry) := []
  denied : List (Location × FileRight) := []
deriving Repr, Inhabited

namespace FileTree

def entry? (t : FileTree) (place : Location) : Option FileEntry :=
  if place.isGiven then some .directory else t.entries.lookup place

def replaceEntry (place : Location) (e : FileEntry) :
    List (Location × FileEntry) → List (Location × FileEntry)
  | [] => [(place, e)]
  | (p, old) :: rest =>
    if p == place then (p, e) :: rest else (p, old) :: replaceEntry place e rest

def put (t : FileTree) (place : Location) (e : FileEntry) : FileTree :=
  { t with entries := replaceEntry place e t.entries }

def denies (t : FileTree) (place : Location) (right : FileRight) : Bool :=
  t.denied.contains (place, right)

/-- The location that the parts lead to from a directory; the last one need not exist. -/
def walk (t : FileTree) : Location → List Text → Except FileReason Location
  | here, [] => .ok here
  | here, part :: rest =>
    let next := here.enter part
    if t.denies here .search then .error .permission
    else if part != ".." && FilePath.isLongName part then .error .nameTooLong
    else if rest.isEmpty then .ok next
    else match t.entry? next with
      | none => .error .missing
      | some (.file _) => .error .notDirectory
      | some .directory => walk t next rest

def locate (t : FileTree) (p : FilePath) : Except FileReason Location :=
  match p.unfit? with
  | some why => .error why
  | none => if p.isLong then .error .nameTooLong else t.walk (.start p) p.parts

def look (t : FileTree) (p : FilePath) : Except FileReason FileEntry := do
  match t.entry? (← t.locate p) with
  | some e => return e
  | none => .error .missing

/-- Whether something is at a path; only a path that is too long, or that goes
through a directory where this is denied, is an error. -/
def isThere (t : FileTree) (p : FilePath) : Except FileError Bool :=
  match t.look p with
  | .ok _ => .ok true
  | .error .nameTooLong => .error ⟨.nameTooLong, p⟩
  | .error .permission => .error ⟨.permission, p⟩
  | .error _ => .ok false

def bars (t : FileTree) (p : FilePath) (right : FileRight) : Bool :=
  match t.locate p with
  | .ok place => t.denies place right
  | .error _ => false

def read (t : FileTree) (p : FilePath) : Except FileError Bytes :=
  match t.look p with
  | .error why => .error ⟨why, p⟩
  | .ok e =>
    if t.bars p .read then .error ⟨.permission, p⟩
    else match e with
      | .file content => .ok content
      | .directory => .error ⟨.isDirectory, p⟩

def add (t : FileTree) (place : Location) (e : FileEntry) : FileTree :=
  { t.put place e with denied := t.denied.filter fun d => d.1 != place }

def create (t : FileTree) (p : FilePath) (place : Location) (e : FileEntry) :
    Except FileError FileTree :=
  if t.denies place.dropLast .write then .error ⟨.permission, p⟩ else .ok (t.add place e)

def write (t : FileTree) (p : FilePath) (content : Bytes) : Except FileError FileTree :=
  match t.locate p with
  | .error why => .error ⟨why, p⟩
  | .ok place => match t.entry? place with
    | none => t.create p place (.file content)
    | some .directory => .error ⟨.isDirectory, p⟩
    | some (.file _) =>
      if t.denies place .write then .error ⟨.permission, p⟩
      else .ok (t.put place (.file content))

def makeDirectory (t : FileTree) (p : FilePath) : Except FileError FileTree :=
  match t.locate p with
  | .error why => .error ⟨why, p⟩
  | .ok place => match t.entry? place with
    | some _ => .error ⟨.exists, p⟩
    | none => t.create p place .directory

def isDirectory (t : FileTree) (p : FilePath) : Bool :=
  match t.look p with
  | .ok .directory => true
  | _ => false

/-- Makes a directory, which may be there already; a missing parent is not made. -/
def makeOne (t : FileTree) (p : FilePath) : Except FileError FileTree :=
  match t.makeDirectory p with
  | .ok t => .ok t
  | .error ⟨.missing, q⟩ => .error ⟨.missing, q⟩
  | .error e => if t.isDirectory p then .ok t else .error e

def makeUp : Nat → FileTree → FilePath → Except FileError Unit × FileTree
  | 0, t, p => (.error ⟨.missing, p⟩, t)
  | fuel + 1, t, p =>
    match t.makeOne p with
    | .ok t => (.ok (), t)
    | .error ⟨.missing, q⟩ =>
      if p.parent = p then (.error ⟨.missing, q⟩, t)
      else match makeUp fuel t p.parent with
        | (.error e, t) => (.error e, t)
        | (.ok (), t) => match t.makeOne p with
          | .ok t => (.ok (), t)
          | .error e => (.error e, t)
    | .error e => (.error e, t)

def makeDirectories (t : FileTree) (p : FilePath) : Except FileError Unit × FileTree :=
  makeUp (p.parts.length + 1) t p

def remove (t : FileTree) (p : FilePath) : Except FileError FileTree :=
  match t.locate p with
  | .error why => .error ⟨why, p⟩
  | .ok place => match t.entry? place with
    | none => .error ⟨.missing, p⟩
    | some .directory => .error ⟨.isDirectory, p⟩
    | some (.file _) =>
      if t.denies place.dropLast .write then .error ⟨.permission, p⟩
      else .ok { t with entries := t.entries.filter fun e => e.1 != place }

end FileTree

end SecretStore
