import SecretStore.Text.Digit
import SecretStore.Yaml.Cursor
import SecretStore.Yaml.Fault

/-!
Block scalars: indented lines behind a bar or a greater-than sign. Behind a bar
the lines are kept as they are; behind a greater-than sign lines that start
with text are joined by spaces. The header may say how far the lines are
indented, and what becomes of the line ends behind the last one.
-/

namespace SecretStore.Yaml.Block

/-- What becomes of the line ends at the end: one is left, none, or all. -/
inductive Chomping
  | clip
  | strip
  | keep
deriving DecidableEq, Repr

structure Header where
  chomping : Chomping
  increment : Option Nat
deriving Repr

private def chomping? : Option Char → Option Chomping
  | some '+' => some .keep
  | some '-' => some .strip
  | _ => none

def readHeader (c : Cursor) : Except Fault (Header × Cursor) :=
  let digit? (c : Cursor) : Option Nat := c.peek.bind Text.asciiDigit?
  let (chomping, c) := match chomping? c.peek with
    | some chomping => (some chomping, c.next)
    | none => (none, c)
  let (increment, c) := match digit? c with
    | some n => (some n, c.next)
    | none => (none, c)
  let (chomping, c) := match chomping, increment, chomping? c.peek with
    | none, some _, some chomping => (some chomping, c.next)
    | chomping, _, _ => (chomping, c)
  if increment == some 0 || !isSpaceOrEnd c.peek then .error .malformed
  else .ok (⟨chomping.getD .clip, increment⟩, c)

/-- The line ends in front of the first line of text, and the furthest column
that spaces reach there. -/
def leadingLines : Nat → Cursor → List Char × Nat × Cursor
  | 0, c => ([], 0, c)
  | fuel + 1, c =>
    let c := c.passSpaces
    let reached := c.column
    match c.lineBreak? with
    | none => ([], reached, c)
    | some (ch, c) =>
      let (more, further, c) := leadingLines fuel c
      (ch :: more, max reached further, c)

def passIndent (indent : Nat) (c : Cursor) : Cursor :=
  c.skip ((c.rest.take (indent - c.column)).takeWhile (· == ' ')).length

def emptyLines (indent : Nat) : Nat → Cursor → List Char × Cursor
  | 0, c => ([], c)
  | fuel + 1, c =>
    let c := passIndent indent c
    match c.lineBreak? with
    | none => ([], c)
    | some (ch, c) =>
      let (more, c) := emptyLines indent fuel c
      (ch :: more, c)

private def startsWithText (c : Cursor) : Bool :=
  c.peek != some ' ' && c.peek != some '\t'

private def atLine (indent : Nat) (c : Cursor) : Bool :=
  c.column == indent && c.peek.isSome

private def ending : Chomping → List Char → List Char → List Char
  | .strip, _, _ => []
  | .clip, last, _ => last
  | .keep, last, empty => last ++ empty

def lines (folds : Bool) (chomping : Chomping) (indent : Nat) : Nat → Cursor → List Char × Cursor
  | 0, c => ([], c)
  | fuel + 1, c =>
    let leading := startsWithText c
    let (line, c) := c.span (!isBreak ·)
    let (last, c) := match c.lineBreak? with
      | some (ch, c) => ([ch], c)
      | none => ([], c)
    let (empty, c) := emptyLines indent fuel c
    if atLine indent c then
      let joint :=
        if folds && last == ['\n'] && leading && startsWithText c then
          (if empty.isEmpty then [' '] else [])
        else last
      let (more, c) := lines folds chomping indent fuel c
      (line ++ joint ++ empty ++ more, c)
    else (line ++ ending chomping last empty, c)

/-- A block scalar, at its sign; `least` is the least column of its lines. -/
def read (folds : Bool) (least : Nat) (c : Cursor) : Except Fault (String × Cursor) := do
  let fuel := c.rest.length + 1
  let (header, c) ← readHeader c.next
  match c.endLine? with
  | none => .error .malformed
  | some c =>
    let (empty, indent, c) := match header.increment with
      | some n =>
        let indent := least + n - 1
        let (empty, c) := emptyLines indent fuel c
        (empty, indent, c)
      | none =>
        let (empty, reached, c) := leadingLines fuel c
        (empty, max least reached, c)
    let (text, c) :=
      if atLine indent c then
        let (text, c) := lines folds header.chomping indent fuel c
        (empty ++ text, c)
      else (ending header.chomping [] empty, c)
    return (String.ofList text, c)

end SecretStore.Yaml.Block
