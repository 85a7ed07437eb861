import SecretStore.Json.Encoding
import SecretStore.Json.Writer
import SecretStore.Record.Codec
import SecretStore.Table

/-!
A table of records as the text of a document: an object with the version of
the format and the list of the records, its fields in the order of their
names. Reading takes the records of any object, and refuses what is no JSON,
no object, or a record that cannot be read.
-/

namespace SecretStore.Document

inductive Fault
  | unreadable (why : Json.Unreadable)
  | notObject (given : Json)
  | recordsNotList (given : Json)
  | record (why : Record.Fault)

def Fault.literal : Fault → String
  | .unreadable why => why.literal
  | .notObject given =>
    "AttributeError(" ++ Text.quoted (Text.quoted given.kind ++ " object has no attribute 'get'") ++
      ")"
  | .recordsNotList given =>
    "TypeError(" ++ Text.quoted (Text.quoted given.kind ++ " object is not iterable") ++ ")"
  | .record why => why.literal

def formatVersion : Int := 1

def toJson (t : Table) : Json :=
  .obj [("version", .int formatVersion), ("records", .arr (t.map Record.toJson))]

def encode (t : Table) : Bytes :=
  Text.Utf8.encodeChars (Json.render (toJson t).sorted)

def members : Json → Except Fault (List Json)
  | .arr items => .ok items
  | .obj fields => .ok (fields.map fun f => .str f.1)
  | .str s => .ok (s.points.map fun p => .str ⟨[p]⟩)
  | given => .error (.recordsNotList given)

def readRecords : List Json → Except Fault (List Record)
  | [] => .ok []
  | j :: rest =>
    match Record.ofJson j with
    | .error why => .error (.record why)
    | .ok r => match readRecords rest with
      | .error why => .error why
      | .ok rs => .ok (r :: rs)

def ofJson : Json → Except Fault (List Record)
  | .obj fields =>
    match members ((Json.lookup "records" fields).getD (.arr [])) with
    | .error why => .error why
    | .ok items => readRecords items
  | given => .error (.notObject given)

def decode (levels : Nat) (bs : Bytes) : Except (Fault ⊕ Json.Container) (List Record) :=
  match Json.ofBytes levels bs with
  | .error (.inl why) => .error (.inl (.unreadable why))
  | .error (.inr within) => .error (.inr within)
  | .ok j => (ofJson j).mapError .inl

end SecretStore.Document
