import SecretStore.Text.Digit
import SecretStore.Text.Utf8
import SecretStore.Yaml.Cursor
import SecretStore.Yaml.Fault

/-!
Tags: what kind of value a node says it holds. A tag is written as a handle
and the rest of the name behind it, or as a whole name in angle brackets. A
handle stands for the start of a name; one exclamation mark and two have their
meanings from the beginning, and a document may give more.
-/

namespace SecretStore.Yaml

def isNameChar (c : Char) : Bool :=
  c.isAlphanum || c == '-' || c == '_'

private def isTagChar (c : Char) : Bool :=
  c.isAlphanum || "-;/?:@&=+$,_.!~*'()[]%".toList.contains c

structure WrittenTag where
  handle : Option String
  rest : String
deriving DecidableEq, Repr

inductive Tag
  | null
  | bool
  | int
  | float
  | binary
  | timestamp
  | omap
  | pairs
  | set
  | str
  | seq
  | map
  | merge
  | value
  | unknown
deriving DecidableEq, Repr, Inhabited

namespace Tag

def commonStart : String := "tag:yaml.org,2002:"

def ofWord : String → Tag
  | "null" => .null
  | "bool" => .bool
  | "int" => .int
  | "float" => .float
  | "binary" => .binary
  | "timestamp" => .timestamp
  | "omap" => .omap
  | "pairs" => .pairs
  | "set" => .set
  | "str" => .str
  | "seq" => .seq
  | "map" => .map
  | "merge" => .merge
  | "value" => .value
  | _ => .unknown

def ofName (name : String) : Tag :=
  let start := commonStart.toList
  if start.isPrefixOf name.toList then ofWord (String.ofList (name.toList.drop start.length))
  else .unknown

end Tag

abbrev Handles := List (String × String)

def Handles.standard : Handles :=
  [("!", "!"), ("!!", Tag.commonStart)]

def WrittenTag.name (handles : Handles) (t : WrittenTag) : Except Fault String :=
  match t.handle with
  | none => .ok t.rest
  | some handle => match handles.lookup handle with
    | some start => .ok (start ++ t.rest)
    | none => .error .malformed

private def unescapeTag : List Char → Option Bytes
  | [] => some []
  | '%' :: high :: low :: rest => do
    let b := 16 * (← Text.hexValue? high) + (← Text.hexValue? low)
    return UInt8.ofNat b :: (← unescapeTag rest)
  | c :: rest => if c == '%' then none else (unescapeTag rest).map (UInt8.ofNat c.toNat :: ·)

/-- The part of a name behind a handle, with its escaped bytes; it is not empty. -/
def readTagName (c : Cursor) : Except Fault (String × Cursor) :=
  let (run, behind) := c.span isTagChar
  match unescapeTag run with
  | none | some [] => .error .malformed
  | some bs => match Text.Utf8.decode bs with
    | .ok cs => .ok (String.ofList cs, behind)
    | .error _ => .error .malformed

/-- A handle: an exclamation mark, or a name between two. -/
def readHandle (c : Cursor) : Except Fault (String × Cursor) :=
  if c.peek != some '!' then .error .malformed
  else if c.peekAt 1 == some ' ' then .ok ("!", c.next)
  else
    let (name, behind) := c.next.span isNameChar
    if behind.peek == some '!' then .ok (String.ofList ('!' :: name ++ ['!']), behind.next)
    else .error .malformed

/-- A tag, at its exclamation mark; a space or the end must follow. -/
def readTag (c : Cursor) : Except Fault (WrittenTag × Cursor) := do
  let (tag, c) ←
    if c.peekAt 1 == some '<' then do
      let (name, c) ← readTagName (c.skip 2)
      if c.peek == some '>' then .ok (⟨none, name⟩, c.next) else .error .malformed
    else if isGap (c.peekAt 1) then .ok (⟨none, "!"⟩, c.next)
    else do
      let word := (c.rest.drop 1).takeWhile fun ch => !isSpaceOrEnd (some ch)
      let (handle, c) ← if word.contains '!' then readHandle c else .ok ("!", c.next)
      let (name, c) ← readTagName c
      .ok (⟨some handle, name⟩, c)
  if isSpaceOrEnd c.peek then .ok (tag, c) else .error .malformed

end SecretStore.Yaml
