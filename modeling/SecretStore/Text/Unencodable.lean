import SecretStore.Text.Digit
import SecretStore.Text.Quoted
import SecretStore.Text.Utf8

/-!
Texts that have no bytes. UTF-8 refuses every surrogate; in the name of a file
the surrogates from U+DC80 to U+DCFF stand for the bytes from 0x80 on. What is
refused is named from the first such surrogate up to the end of the run of
surrogates it stands in.
-/

namespace SecretStore.Text

structure Unencodable where
  text : Text
  first : Nat
  past : Nat
deriving DecidableEq, Repr

def Unencodable.message (u : Unencodable) : String :=
  let number (n : Nat) : String := String.ofList (decimal n)
  let place :=
    if u.past == u.first + 1 then
      let n := ((u.text.points.drop u.first).headD default).toNat
      "character '\\u" ++ String.ofList (hexDigits 4 n) ++ "' in position " ++ number u.first
    else "characters in position " ++ number u.first ++ "-" ++ number (u.past - 1)
  "'utf-8' codec can't encode " ++ place ++ ": surrogates not allowed"

/-- The bytes of a text, each code point by itself; one without any is refused. -/
def encodeBy (bytes? : CodePoint → Option Bytes) (t : Text) : Except Unencodable Bytes :=
  match t.points.mapM bytes? with
  | some each => .ok each.flatten
  | none =>
    let first := (t.points.takeWhile fun p => (bytes? p).isSome).length
    let run := (t.points.drop first).takeWhile fun p => p.char?.isNone
    .error ⟨t, first, first + run.length⟩

def pointBytes? : CodePoint → Option Bytes
  | .char c => some (Utf8.encodeChar c)
  | .surrogate _ => none

def namePointBytes? : CodePoint → Option Bytes
  | .char c => some (Utf8.encodeChar c)
  | .surrogate n => if 0x480 ≤ n.val && n.val < 0x500 then some [UInt8.ofNat (n - 0x400)] else none

def encode : Text → Except Unencodable Bytes :=
  encodeBy pointBytes?

def encodeName : Text → Except Unencodable Bytes :=
  encodeBy namePointBytes?

end SecretStore.Text
