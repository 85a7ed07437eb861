import SecretStore.Crypto.Token
import SecretStore.Keyring.Script
import SecretStore.Store.Document
import SecretStore.Store.World

/-!
A store in one sealed file. Every call reads the file anew, and every change
writes it whole: the table as a document, sealed under a key. A missing file is
an empty table. A file that cannot be read, opened or understood, and one that
cannot be written, are failures of the store. Some things are not, and break off
whatever was going on: a path that cannot be looked at or passed on, a document
that nests deeper than the stack has room for, a record whose service or account
is a list or an object, and an integer that is too long to be written.
-/

namespace SecretStore

/-- A way to seal bytes: dated with a second, and beginning with a start block. -/
structure Cipher where
  encrypt : (second : Nat) → (start message : Bytes) → Bytes
  decrypt? : Bytes → Option Bytes

def Token.cipher (key : Token.Key) : Cipher :=
  ⟨Token.encrypt key, Token.decrypt? key⟩

inductive Crash
  | file (why : FileError)
  | tooDeep (within : Json.Container)
  /-- A list or an object names no record. -/
  | notKey (given : Json)
  | tooManyDigits

def Crash.kind : Crash → String
  | .file why => why.reason.kind
  | .tooDeep _ => "RecursionError"
  | .notKey _ => "TypeError"
  | .tooManyDigits => "ValueError"

def Crash.message : Crash → String
  | .file why => why.message
  | .tooDeep within => within.tooDeep
  | .notKey given => "unhashable type: " ++ Text.quoted given.kind
  | .tooManyDigits =>
    "Exceeds the limit (4300 digits) for integer string conversion; " ++
      "use sys.set_int_max_str_digits() to increase the limit"

inductive StoreFault
  | reported (e : NativeError)
  | crashed (c : Crash)

structure SealedFile where
  path : FilePath
  cipher : Cipher
  levels : Levels := .standard

namespace SealedFile

def written (s : SealedFile) (t : Table) : LogEntry :=
  ⟨.debug, "sealed_keyring.stores.encrypted_file", "Wrote " ++
    String.ofList (Text.decimal t.length) ++ " records to " ++ s.path.text⟩

def failed (s : SealedFile) (front back : String) : NativeError :=
  ⟨.other, front ++ " " ++ s.path.text ++ ": " ++ back⟩

def firstBadKey : List Record → Option Json
  | [] => none
  | r :: rest =>
    if !r.service.isKey then some r.service
    else if !r.account.isKey then some r.account
    else firstBadKey rest

def load (s : SealedFile) (files : FileTree) : Except StoreFault Table :=
  match files.isThere s.path with
  | .error why => .error (.crashed (.file why))
  | .ok false => .ok []
  | .ok true => match files.read s.path with
    | .error why => .error (.reported (s.failed "cannot read" why.message))
    | .ok token => match s.cipher.decrypt? token with
      | none =>
        .error (.reported (s.failed "cannot decrypt" "wrong passphrase or corrupted file"))
      | some plain => match Document.decode s.levels.count plain with
        | .error (.inr within) => .error (.crashed (.tooDeep within))
        | .error (.inl why) => .error (.reported (s.failed "malformed records in" why.literal))
        | .ok records => match firstBadKey records with
          | some given => .error (.crashed (.notKey given))
          | none => .ok (Table.ofRecords records)

def unwritten (s : SealedFile) (why : FileError) : StoreFault :=
  if why.reason.isUnfit then .crashed (.file why)
  else .reported (s.failed "cannot write" why.message)

def place (s : SealedFile) (files : FileTree) (token : Bytes) :
    Except StoreFault Unit × FileTree :=
  match files.makeDirectories s.path.parent with
  | (.error why, files) => (.error (s.unwritten why), files)
  | (.ok (), files) => match files.write s.path token with
    | .error why => (.error (s.unwritten why), files)
    | .ok files => (.ok (), files)

def commit (s : SealedFile) (w : World) (t : Table) : Except StoreFault Unit × World :=
  if (Document.toJson t).isWritable then
    let token := s.cipher.encrypt w.second w.nextStart (Document.encode t)
    let (result, files) := s.place w.files token
    (result, { w.countSeal with files })
  else (.error (.crashed .tooManyDigits), w)

def query (s : SealedFile) (files : FileTree) (q : Query) : Except StoreFault (List Record) :=
  match s.load files with
  | .error why => .error why
  | .ok t => match t.query q with
    | .error e => .error (.reported e)
    | .ok records => .ok records

def write (s : SealedFile) (w : World) (c : Write) :
    Except StoreFault Unit × List LogEntry × World :=
  match s.load w.files with
  | .error why => (.error why, [], w)
  | .ok t => match t.write w.now c with
    | .error e => (.error (.reported e), [], w)
    | .ok t => match s.commit (if c.isStamped then w.tick else w) t with
      | (.error why, w) => (.error why, [], w)
      | (.ok (), w) => (.ok (), [s.written t], w)

end SealedFile

/-- A change of a table that nothing else keeps: it cannot crash. -/
def Table.writeIn (w : World) (t : Table) (c : Write) : Except NativeError Table × World :=
  match t.write w.now c with
  | .error e => (.error e, w)
  | .ok t => (.ok t, if c.isStamped then w.tick else w)

end SecretStore
