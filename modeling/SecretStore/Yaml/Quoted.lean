import SecretStore.Text.Digit
import SecretStore.Yaml.Cursor
import SecretStore.Yaml.Fault

/-!
Scalars between quotes. A line end in one is a space, several are one less,
and blanks around them count for nothing. Between single quotes a quote is
written twice; between double quotes a backslash starts an escape, and two
escapes that are a pair of surrogates stay two.
-/

namespace SecretStore.Yaml.Quoted

private def isBlank (c : Char) : Bool :=
  c == ' ' || c == '\t'

def emptyLines : Nat → Cursor → Except Fault (List Char × Cursor)
  | 0, _ => .error .malformed
  | fuel + 1, c =>
    if c.atDocumentMark then .error .malformed
    else
      let c := c.pass isBlank
      match c.lineBreak? with
      | none => .ok ([], c)
      | some (ch, c) => do
        let (more, c) ← emptyLines fuel c
        return (ch :: more, c)

def folded (lineEnd : Char) (empty : List Char) : List Char :=
  if lineEnd != '\n' then lineEnd :: empty else if empty.isEmpty then [' '] else empty

def simpleEscape? (c : Char) : Option Char :=
  [('0', '\x00'), ('a', '\x07'), ('b', '\x08'), ('t', '\t'), ('\t', '\t'), ('n', '\n'),
    ('v', '\x0b'), ('f', '\x0c'), ('r', '\r'), ('e', '\x1b'), (' ', ' '), ('"', '"'),
    ('\\', '\\'), ('/', '/'), ('N', '\x85'), ('_', '\xa0'), ('L', '\u2028'),
    ('P', '\u2029')].lookup c

def escapeWidth? (c : Char) : Option Nat :=
  [('x', 2), ('u', 4), ('U', 8)].lookup c

private def hexNumber : Nat → List Char → Option Nat
  | n, [] => some n
  | n, c :: rest => do hexNumber (16 * n + (← Text.hexValue? c)) rest

def codePoint (width : Nat) (c : Cursor) : Except Fault CodePoint :=
  let digits := c.rest.take width
  match hexNumber 0 digits with
  | none => .error .malformed
  | some n =>
    if digits.length < width then .error .malformed
    else if 0x80000000 ≤ n then .error .noInteger32
    else if 0x110000 ≤ n then .error .noCodePoint
    else .ok (.ofNat n)

def escape (fuel : Nat) (c : Cursor) : Except Fault (List CodePoint × Cursor) :=
  match c.peek with
  | none => .error .malformed
  | some ch => match simpleEscape? ch, escapeWidth? ch, c.lineBreak? with
    | some plain, _, _ => .ok ([.char plain], c.next)
    | _, some width, _ => do
      let point ← codePoint width c.next
      return ([point], c.next.skip width)
    | _, _, some (_, behind) => do
      let (empty, c) ← emptyLines fuel behind
      return (empty.map .char, c)
    | _, _, _ => .error .malformed

def readBody (quote : Char) : Nat → Cursor → Except Fault (List CodePoint × Cursor)
  | 0, _ => .error .malformed
  | fuel + 1, c =>
    match c.peek with
    | none => .error .malformed
    | some ch =>
      if ch == quote then
        if quote == '\'' && c.peekAt 1 == some quote then do
          let (more, c) ← readBody quote fuel (c.skip 2)
          return (.char quote :: more, c)
        else .ok ([], c.next)
      else if ch == '\\' && quote == '"' then do
        let (text, c) ← escape fuel c.next
        let (more, c) ← readBody quote fuel c
        return (text ++ more, c)
      else if isBlank ch || isBreak ch then
        let (blanks, c) := c.span isBlank
        match c.lineBreak? with
        | some (lineEnd, c) => do
          let (empty, c) ← emptyLines fuel c
          let (more, c) ← readBody quote fuel c
          return ((folded lineEnd empty).map .char ++ more, c)
        | none => do
          let (more, c) ← readBody quote fuel c
          return (blanks.map .char ++ more, c)
      else do
        let (more, c) ← readBody quote fuel c.next
        return (.char ch :: more, c)

def read (quote : Char) (c : Cursor) : Except Fault (Text × Cursor) := do
  let (text, c) ← readBody quote (c.rest.length + 1) c.next
  return (⟨text⟩, c)

end SecretStore.Yaml.Quoted
