/-!
A place in a text: what is left of it, how many characters stand before it,
its line and its column. Four characters end a line; a byte order mark takes
no column.
-/

namespace SecretStore.Yaml

def isBreak (c : Char) : Bool :=
  c == '\n' || c == '\x85' || c == '\u2028' || c == '\u2029'

structure Cursor where
  rest : List Char
  index : Nat
  line : Nat
  column : Nat
deriving Repr

namespace Cursor

def start (text : List Char) : Cursor :=
  ⟨text, 0, 0, 0⟩

def peek (c : Cursor) : Option Char :=
  c.rest.head?

def peekAt (c : Cursor) (n : Nat) : Option Char :=
  c.rest[n]?

def next (c : Cursor) : Cursor :=
  match c.rest with
  | [] => c
  | ch :: rest =>
    if isBreak ch then ⟨rest, c.index + 1, c.line + 1, 0⟩
    else ⟨rest, c.index + 1, c.line, if ch == '\ufeff' then c.column else c.column + 1⟩

def skip : Nat → Cursor → Cursor
  | 0, c => c
  | n + 1, c => skip n c.next

def span (p : Char → Bool) (c : Cursor) : List Char × Cursor :=
  let run := c.rest.takeWhile p
  (run, c.skip run.length)

def pass (p : Char → Bool) (c : Cursor) : Cursor :=
  (c.span p).2

def passSpaces (c : Cursor) : Cursor :=
  c.pass (· == ' ')

/-- A line end, as it is kept in a text, and the place behind it. -/
def lineBreak? (c : Cursor) : Option (Char × Cursor) :=
  match c.peek with
  | some ch =>
    if ch == '\n' || ch == '\x85' then some ('\n', c.next)
    else if isBreak ch then some (ch, c.next)
    else none
  | none => none

end Cursor

def isSpaceOrEnd : Option Char → Bool
  | none => true
  | some c => c == ' ' || isBreak c

def isGap : Option Char → Bool
  | none => true
  | some c => c == ' ' || c == '\t' || isBreak c

def Cursor.atDocumentMark (c : Cursor) : Bool :=
  (c.rest.take 3 == ['-', '-', '-'] || c.rest.take 3 == ['.', '.', '.']) && isGap (c.peekAt 3)

/-- Passes spaces and a comment up to the end of the line; nothing else may stand there. -/
def Cursor.endLine? (c : Cursor) : Option Cursor :=
  let c := c.passSpaces
  let c := if c.peek == some '#' then c.pass (!isBreak ·) else c
  match c.lineBreak? with
  | some (_, c) => some c
  | none => if c.peek.isNone then some c else none

end SecretStore.Yaml
