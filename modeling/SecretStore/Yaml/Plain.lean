import SecretStore.Yaml.Cursor

/-!
Plain scalars, without quotes. One ends at a colon with a blank behind it, at
a comment, at a line that is not indented enough, and between brackets also at
a bracket, a comma or a question mark. It may go over several lines.
-/

namespace SecretStore.Yaml.Plain

def isBracketMark (c : Char) : Bool :=
  c == ',' || c == '[' || c == ']' || c == '\x7b' || c == '\x7d'

def endsKey (inBrackets : Bool) (following : Option Char) : Bool :=
  isGap following || (inBrackets && following.any isBracketMark)

def word (inBrackets : Bool) : List Char → List Char
  | [] => []
  | c :: rest =>
    if isGap (some c) || (c == ':' && endsKey inBrackets rest.head?) ||
        (inBrackets && (isBracketMark c || c == '?')) then []
    else c :: word inBrackets rest

def emptyLines : Nat → Cursor → List Char × Bool × Cursor
  | 0, c => ([], true, c)
  | fuel + 1, c =>
    let c := c.passSpaces
    match c.lineBreak? with
    | none => ([], false, c)
    | some (ch, c) =>
      if c.atDocumentMark then ([ch], true, c)
      else
        let (more, marked, c) := emptyLines fuel c
        (ch :: more, marked, c)

/-- What stands between two words, whether a line ends there, and the place
behind it. Nothing stands in front of a document mark. -/
def gap (fuel : Nat) (c : Cursor) : List Char × Bool × Cursor :=
  let (spaces, c) := c.span (· == ' ')
  match c.lineBreak? with
  | none => (spaces, false, c)
  | some (lineEnd, c) =>
    if c.atDocumentMark then ([], true, c)
    else
      let (empty, marked, c) := emptyLines fuel c
      let text :=
        if marked then []
        else if lineEnd != '\n' then lineEnd :: empty
        else if empty.isEmpty then [' '] else empty
      (text, true, c)

/-- Words and what stands between them. The flag says whether a line ended
behind the last word; the column of a further line is at least `indent`. -/
def words (inBrackets : Bool) (indent : Nat) : Nat → List Char → Bool → Cursor →
    List Char × Bool × Cursor
  | 0, _, ended, c => ([], ended, c)
  | fuel + 1, before, ended, c =>
    let run := word inBrackets c.rest
    if run.isEmpty then ([], ended, c)
    else
      let (between, ended, c) := gap fuel (c.skip run.length)
      if between.isEmpty || c.peek == some '#' || (!inBrackets && c.column < indent) then
        (before ++ run, ended, c)
      else
        let (more, ended, c) := words inBrackets indent fuel between ended c
        (before ++ run ++ more, ended, c)

def read (inBrackets : Bool) (indent : Nat) (c : Cursor) : String × Bool × Cursor :=
  let (text, ended, c) := words inBrackets indent (c.rest.length + 1) [] false c
  (String.ofList text, ended, c)

def starts (inBrackets : Bool) (c : Cursor) : Bool :=
  match c.peek with
  | none => false
  | some ch =>
    let marks := "-?:,[]\x7b\x7d#&*!|>'\"%@`".toList
    !(isGap (some ch) || marks.contains ch) ||
      (!isGap (c.peekAt 1) && (ch == '-' || (!inBrackets && (ch == '?' || ch == ':'))))

end SecretStore.Yaml.Plain
