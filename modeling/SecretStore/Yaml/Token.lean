import SecretStore.Yaml.Block
import SecretStore.Yaml.Plain
import SecretStore.Yaml.Quoted
import SecretStore.Yaml.Tag

/-!
The tokens of a YAML text. What indentation says is made explicit: a block
starts and ends with a token, and every key of a mapping has one in front of
it. A key shows itself only by the colon behind it, so the place of each thing
that may turn out to be a key is kept until it is settled, and its tokens are
put in there. A text that goes wrong ends in a token that says how.
-/

namespace SecretStore.Yaml

inductive Directive
  | version (major : Nat)
  | handle (handle start : String)
  | other
deriving DecidableEq, Repr

inductive Token
  | directive (d : Directive)
  | documentStart
  | documentEnd
  | blockSequence
  | blockMapping
  | blockEnd
  | listOpen
  | listClose
  | mapOpen
  | mapClose
  | comma
  | entry
  | key
  | value
  | alias (name : String)
  | anchor (name : String)
  | tag (t : WrittenTag)
  | scalar (plain : Bool) (text : Text)
  | broken (why : Fault)
deriving DecidableEq, Repr

structure PossibleKey where
  number : Nat
  /-- Whether nothing but a key can stand there. -/
  required : Bool
  place : Cursor

structure Layout where
  here : Cursor
  /-- The tokens so far, the newest first. -/
  tokens : List Token := []
  count : Nat := 0
  /-- Columns of the open blocks, the innermost first. -/
  indents : List Nat := []
  keyAllowed : Bool := true
  outerKey : Option PossibleKey := none
  innerKeys : List (Option PossibleKey) := []

namespace Layout

def inBrackets (s : Layout) : Bool :=
  !s.innerKeys.isEmpty

/-- The least column of a line inside the innermost block. -/
def inside (s : Layout) : Nat :=
  match s.indents with
  | [] => 0
  | column :: _ => column + 1

def push (t : Token) (s : Layout) : Layout :=
  { s with tokens := t :: s.tokens, count := s.count + 1 }

def insert (t : Token) (number : Nat) (s : Layout) : Layout :=
  let newer := s.count - number
  { s with tokens := s.tokens.take newer ++ t :: s.tokens.drop newer, count := s.count + 1 }

private def isStale (here : Cursor) (k : PossibleKey) : Bool :=
  k.place.line != here.line || 1024 < here.index - k.place.index

private def dropStaleKey (here : Cursor) : Option PossibleKey → Except Fault (Option PossibleKey)
  | none => .ok none
  | some k =>
    if isStale here k then (if k.required then .error .malformed else .ok none) else .ok (some k)

/-- Gives up keys that did not end on their line or within 1024 characters. -/
def dropStale (s : Layout) : Except Fault Layout := do
  let outerKey ← dropStaleKey s.here s.outerKey
  let innerKeys ← s.innerKeys.mapM (dropStaleKey s.here)
  return { s with outerKey, innerKeys }

def possibleKey (s : Layout) : Option PossibleKey :=
  match s.innerKeys with
  | [] => s.outerKey
  | k :: _ => k

def setKey (k : Option PossibleKey) (s : Layout) : Layout :=
  match s.innerKeys with
  | [] => { s with outerKey := k }
  | _ :: rest => { s with innerKeys := k :: rest }

def dropKey (s : Layout) : Except Fault Layout :=
  if s.possibleKey.any (·.required) then .error .malformed else .ok (s.setKey none)

def markKey (s : Layout) : Except Fault Layout :=
  if s.keyAllowed then do
    let required := !s.inBrackets && s.indents.head? == some s.here.column
    let s ← s.dropKey
    return s.setKey (some ⟨s.count, required, s.here⟩)
  else .ok s

def closeBlocks (column : Nat) (s : Layout) : Layout :=
  let closed := s.indents.takeWhile (column < ·)
  closed.foldl (fun s _ => s.push .blockEnd) { s with indents := s.indents.drop closed.length }

def closeAllBlocks (s : Layout) : Layout :=
  s.indents.foldl (fun s _ => s.push .blockEnd) { s with indents := [] }

def opensBlock (column : Nat) (s : Layout) : Bool :=
  s.inside ≤ column

def openBlock (t : Token) (s : Layout) : Layout :=
  if s.opensBlock s.here.column then
    { s with indents := s.here.column :: s.indents }.push t
  else s

private def passComments : Nat → Layout → Layout
  | 0, s => s
  | fuel + 1, s =>
    let c := s.here.passSpaces
    let c := if c.peek == some '#' then c.pass (!isBreak ·) else c
    match c.lineBreak? with
    | none => { s with here := c }
    | some (_, c) =>
      passComments fuel { s with here := c, keyAllowed := s.keyAllowed || !s.inBrackets }

def toNextToken (s : Layout) : Layout :=
  let c := s.here
  let c := if c.index == 0 && c.peek == some '\ufeff' then c.next else c
  passComments (c.rest.length + 1) { s with here := c }

private def take (width : Nat) (t : Token) (s : Layout) : Layout :=
  { s with here := s.here.skip width }.push t

private def number (c : Cursor) : Except Fault (Nat × Cursor) :=
  let (digits, c) := c.span Text.isAsciiDigit
  if digits.isEmpty then .error .malformed
  else if 4300 < digits.length then .error (.tooManyDigits digits.length)
  else .ok (Text.digitsValue digits, c)

private def directiveValue (name : List Char) (c : Cursor) : Except Fault (Directive × Cursor) := do
  if name == "YAML".toList then
    let (major, c) ← number c.passSpaces
    if c.peek != some '.' then throw .malformed
    let (_, c) ← number c.next
    if isSpaceOrEnd c.peek then return (.version major, c) else throw .malformed
  else if name == "TAG".toList then
    let (handle, c) ← readHandle c.passSpaces
    if c.peek != some ' ' then throw .malformed
    let (start, c) ← readTagName c.passSpaces
    if isSpaceOrEnd c.peek then return (.handle handle start, c) else throw .malformed
  else return (.other, c.pass (!isBreak ·))

private def directive (s : Layout) : Except Fault Layout := do
  let s ← s.closeAllBlocks.dropKey
  let (name, c) := s.here.next.span isNameChar
  if name.isEmpty || !isSpaceOrEnd c.peek then throw .malformed
  let (d, c) ← directiveValue name c
  match c.endLine? with
  | some c => return { s with here := c, keyAllowed := false }.push (.directive d)
  | none => throw .malformed

private def documentMark (t : Token) (s : Layout) : Except Fault Layout := do
  let s ← s.closeAllBlocks.dropKey
  return { s with keyAllowed := false }.take 3 t

private def openBracket (t : Token) (s : Layout) : Except Fault Layout := do
  let s ← s.markKey
  return { s with innerKeys := none :: s.innerKeys, keyAllowed := true }.take 1 t

private def closeBracket (t : Token) (s : Layout) : Except Fault Layout := do
  let s ← s.dropKey
  if s.inBrackets then
    return { s with innerKeys := s.innerKeys.drop 1, keyAllowed := false }.take 1 t
  else throw .malformed

private def comma (s : Layout) : Except Fault Layout := do
  let s ← s.dropKey
  return { s with keyAllowed := true }.take 1 .comma

private def entry (s : Layout) : Except Fault Layout := do
  if !s.inBrackets && !s.keyAllowed then throw .malformed
  let s := if s.inBrackets then s else s.openBlock .blockSequence
  let s ← s.dropKey
  return { s with keyAllowed := true }.take 1 .entry

private def key (s : Layout) : Except Fault Layout := do
  if !s.inBrackets && !s.keyAllowed then throw .malformed
  let s := if s.inBrackets then s else s.openBlock .blockMapping
  let s ← s.dropKey
  return { s with keyAllowed := !s.inBrackets }.take 1 .key

/-- A colon: what stands before it was a key, or the key is empty. -/
private def value (s : Layout) : Except Fault Layout := do
  match s.possibleKey with
  | some k =>
    let s := (s.setKey none).insert .key k.number
    let column := k.place.column
    let s :=
      if !s.inBrackets && s.opensBlock column then
        { s with indents := column :: s.indents }.insert .blockMapping k.number
      else s
    return { s with keyAllowed := false }.take 1 .value
  | none =>
    if !s.inBrackets && !s.keyAllowed then throw .malformed
    let s := if s.inBrackets then s else s.openBlock .blockMapping
    return { s with keyAllowed := !s.inBrackets }.take 1 .value

private def name (make : String → Token) (s : Layout) : Except Fault Layout := do
  let s ← s.markKey
  let (run, c) := s.here.next.span isNameChar
  if !run.isEmpty && (isGap c.peek || c.peek.any "?:,]\x7d%@`".toList.contains) then
    return { s with here := c, keyAllowed := false }.push (make (String.ofList run))
  else throw .malformed

private def tag (s : Layout) : Except Fault Layout := do
  let s ← s.markKey
  let (t, c) ← readTag s.here
  return { s with here := c, keyAllowed := false }.push (.tag t)

private def blockScalar (folds : Bool) (s : Layout) : Except Fault Layout := do
  let s ← s.dropKey
  let (text, c) ← Block.read folds (max 1 s.inside) s.here
  return { s with here := c, keyAllowed := true }.push (.scalar false text)

private def quotedScalar (quote : Char) (s : Layout) : Except Fault Layout := do
  let s ← s.markKey
  let (text, c) ← Quoted.read quote s.here
  return { s with here := c, keyAllowed := false }.push (.scalar false text)

private def plainScalar (s : Layout) : Except Fault Layout := do
  let s ← s.markKey
  let (text, ended, c) := Plain.read s.inBrackets s.inside s.here
  return { s with here := c, keyAllowed := ended }.push (.scalar true text)

private def takeToken (ch : Char) (s : Layout) : Except Fault Layout :=
  let c := s.here
  let alone := isGap (c.peekAt 1)
  let atMark := c.column == 0 && c.atDocumentMark
  if ch == '%' && c.column == 0 then s.directive
  else if ch == '-' && atMark then s.documentMark .documentStart
  else if ch == '.' && atMark then s.documentMark .documentEnd
  else if ch == '[' then s.openBracket .listOpen
  else if ch == '\x7b' then s.openBracket .mapOpen
  else if ch == ']' then s.closeBracket .listClose
  else if ch == '\x7d' then s.closeBracket .mapClose
  else if ch == ',' then s.comma
  else if ch == '-' && alone then s.entry
  else if ch == '?' && (s.inBrackets || alone) then s.key
  else if ch == ':' && (s.inBrackets || alone) then s.value
  else if ch == '*' then s.name .alias
  else if ch == '&' then s.name .anchor
  else if ch == '!' then s.tag
  else if ch == '|' && !s.inBrackets then s.blockScalar false
  else if ch == '>' && !s.inBrackets then s.blockScalar true
  else if ch == '\'' || ch == '"' then s.quotedScalar ch
  else if Plain.starts s.inBrackets c then s.plainScalar
  else .error .malformed

/-- Goes on by one token; nothing is left behind the last one. -/
def step (s : Layout) : Except Fault (Layout × Bool) := do
  let s ← s.toNextToken.dropStale
  let s := if s.inBrackets then s else s.closeBlocks s.here.column
  match s.here.peek with
  | none =>
    let s ← (if s.inBrackets then s else s.closeAllBlocks).dropKey
    return (s, false)
  | some ch => return (← s.takeToken ch, true)

def run : Nat → Layout → List Token
  | 0, s => (s.push (.broken .malformed)).tokens.reverse
  | fuel + 1, s => match s.step with
    | .error why => (s.push (.broken why)).tokens.reverse
    | .ok (s, true) => run fuel s
    | .ok (s, false) => s.tokens.reverse

end Layout

/-- Characters that may stand in a text: printable ones, line ends and tabs. -/
def isAllowed (c : Char) : Bool :=
  let n := c.toNat
  n == 0x9 || n == 0xa || n == 0xd || (0x20 ≤ n && n ≤ 0x7e) || n == 0x85 ||
    (0xa0 ≤ n && n ≤ 0xfffd) || 0x10000 ≤ n

def Token.ofText (text : List Char) : List Token :=
  if text.all isAllowed then Layout.run (text.length + 2) { here := .start text }
  else [.broken .malformed]

end SecretStore.Yaml
