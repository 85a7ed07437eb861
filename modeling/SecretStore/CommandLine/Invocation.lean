import SecretStore.CommandLine.Form
import SecretStore.Text.Blank
import SecretStore.Text.Digit
import SecretStore.Text.Quoted

/-!
Reading a command line. A word that starts with a hyphen is an option, unless
it is a negative number or holds a space; long names may be cut short as long
as only one fits, and options of one letter may be written together. Behind two
hyphens alone every word is an operand. Options and operands may be mixed, and
words that fit nothing are collected and refused in the end.
-/

namespace SecretStore.CommandLine

/-- Text that is given for an option or an operand. Two hyphens in the place
of a text give none. -/
abbrev Operand := Option Text

structure Occurrence where
  written : Text
  means : Option (Text × Switch)
  text : Option Text
deriving Repr

inductive Piece
  | hyphens
  | word (s : Text)
  | switch (o : Occurrence)
deriving Repr

def Piece.written : Piece → Text
  | .hyphens => "--"
  | .word s => s
  | .switch o => o.written

def Piece.isSwitch : Piece → Bool
  | .switch _ => true
  | _ => false

inductive Fault
  | ambiguous (written : Text) (names : List Text)
  | textMissing (s : Switch)
  | textUnwanted (s : Switch) (text : Text)
  | unknownAction (name : Text)
  | missing (operands : List String)
  | unrecognized (words : List Text)
deriving DecidableEq, Repr

private def optionWords (s : Switch) : String :=
  "argument " ++ "/".intercalate s.names

def Fault.message : Fault → Text
  | .ambiguous written names =>
    "ambiguous option: " ++ written ++ " could match " ++ Text.intercalate ", " names
  | .textMissing s => optionWords s ++ ": expected one argument"
  | .textUnwanted s text => optionWords s ++ ": ignored explicit argument " ++ Text.quoted text
  | .unknownAction name =>
    "argument command: invalid choice: " ++ Text.quoted name ++ " (choose from " ++
      ", ".intercalate (Action.all.map fun a => Text.quoted a.name) ++ ")"
  | .missing operands =>
    "the following arguments are required: " ++ ", ".intercalate operands
  | .unrecognized words => "unrecognized arguments: " ++ Text.intercalate " " words

inductive Stop
  | help
  | fault (why : Fault)
deriving DecidableEq, Repr

def startsWith (s start : Text) : Bool :=
  start.points.isPrefixOf s.points

def splitEquals (s : Text) : Text × Option Text :=
  match s.points.span (· != .char '=') with
  | (front, .char '=' :: back) => (⟨front⟩, some ⟨back⟩)
  | _ => (s, none)

private def isDigit (p : CodePoint) : Bool :=
  (p.char?.bind Text.digitValue?).isSome

private def isUnsignedNumber (cs : List CodePoint) : Bool :=
  (!cs.isEmpty && cs.all isDigit) ||
    (match cs.dropWhile isDigit with
      | .char '.' :: rest => !rest.isEmpty && rest.all isDigit
      | _ => false)

/-- A negative number; a line end behind it does no harm. -/
def isNegativeNumber (s : Text) : Bool :=
  match s.points with
  | .char '-' :: rest =>
    isUnsignedNumber (if rest.getLast? == some (.char '\n') then rest.dropLast else rest)
  | _ => false

def candidates (f : Form) (s : Text) : List (Text × Switch × Option Text) :=
  if startsWith s "--" then
    let (front, text) := splitEquals s
    (f.names.filter fun n => startsWith n.1 front).map fun n => (n.1, n.2, text)
  else
    let short : Text := ⟨s.points.take 2⟩
    f.names.filterMap fun n =>
      if n.1 == short then some (n.1, n.2, some ⟨s.points.drop 2⟩)
      else if startsWith n.1 s then some (n.1, n.2, none)
      else none

def classify (f : Form) (s : Text) : Except Fault Piece :=
  let (front, back) := splitEquals s
  if !startsWith s "-" then .ok (.word s)
  else match f.find? s, back.isSome, f.find? front with
    | some switch, _, _ => .ok (.switch ⟨s, some (s, switch), none⟩)
    | none, true, some switch => .ok (.switch ⟨s, some (front, switch), back⟩)
    | _, _, _ =>
      if s = "-" then .ok (.word s)
      else match candidates f s with
        | [(name, switch, text)] => .ok (.switch ⟨s, some (name, switch), text⟩)
        | [] =>
          if isNegativeNumber s || s.points.contains (.char ' ') then .ok (.word s)
          else .ok (.switch ⟨s, none, none⟩)
        | several => .error (.ambiguous s (several.map (·.1)))

/-- What the words are; behind two hyphens all are operands. -/
def classifyAll (f : Form) : List Text → Except Fault (List Piece)
  | [] => .ok []
  | s :: rest =>
    if s = "--" then .ok (.hyphens :: rest.map .word)
    else do
      let piece ← classify f s
      return piece :: (← classifyAll f rest)

structure Given where
  switch : Switch
  text : Operand
deriving Repr

def operandOf (s : Text) : Operand :=
  if s = "--" then none else some s

/-- An option with no text in its own word; it may take the next one. -/
def takeAlone (s : Switch) (rest : List Piece) : Except Fault (List Given × List Piece) :=
  if s.takesText then
    match rest with
    | .word text :: rest => .ok ([⟨s, operandOf text⟩], rest)
    | _ => .error (.textMissing s)
  else .ok ([⟨s, none⟩], rest)

private def takeLetters (f : Form) (rest : List Piece) :
    Switch → List CodePoint → Except Fault (List Given × List Piece)
  | s, [] => takeAlone s rest
  | s, c :: more =>
    if s.takesText then .ok ([⟨s, operandOf ⟨c :: more⟩⟩], rest)
    else match f.find? ⟨[.char '-', c]⟩ with
      | none => .error (.textUnwanted s ⟨c :: more⟩)
      | some next => do
        let (others, rest) ← takeLetters f rest next more
        return (⟨s, none⟩ :: others, rest)

def takeSwitch (f : Form) (name : Text) (s : Switch) (text : Option Text)
    (rest : List Piece) : Except Fault (List Given × List Piece) :=
  match text with
  | none => takeAlone s rest
  | some text =>
    if s.takesText then .ok ([⟨s, operandOf text⟩], rest)
    else if text = "" || startsWith name "--" then .error (.textUnwanted s text)
    else takeLetters f rest s text.points

/-- The next operand; two hyphens on either side of it are passed. -/
def takeOperand : List Piece → Option (Operand × List Piece)
  | .hyphens :: .word s :: rest => some (some s, rest)
  | .word s :: .hyphens :: rest => some (some s, rest)
  | .word s :: rest => some (operandOf s, rest)
  | _ => none

def takeOperands : Nat → List Piece → List Operand × List Piece
  | 0, pieces => ([], pieces)
  | n + 1, pieces =>
    match takeOperand pieces with
    | none => ([], pieces)
    | some (operand, rest) =>
      let (operands, rest) := takeOperands n rest
      (operand :: operands, rest)

structure Reading where
  given : List Given := []
  operands : List Operand := []
  command : List Text := []
  extras : List Text := []

def startsWithOperand : List Piece → Bool
  | .hyphens :: .word _ :: _ | .word _ :: _ => true
  | _ => false

def readOperands (f : Form) (pieces : List Piece) (r : Reading) : Reading × List Piece :=
  if f.takesCommand then
    if r.command.isEmpty && startsWithOperand pieces then
      ({ r with command := pieces.map Piece.written }, [])
    else (r, pieces)
  else
    let (operands, rest) := takeOperands (f.operands.length - r.operands.length) pieces
    ({ r with operands := r.operands ++ operands }, rest)

def readPieces (f : Form) : Nat → List Piece → Reading → Except Stop Reading
  | 0, _, r => .ok r
  | fuel + 1, pieces, r =>
    if !pieces.any Piece.isSwitch then
      let (r, rest) := readOperands f pieces r
      .ok { r with extras := r.extras ++ rest.map Piece.written }
    else match pieces with
      | .switch o :: rest => match o.means with
        | none => readPieces f fuel rest { r with extras := r.extras ++ [o.written] }
        | some (name, s) => match takeSwitch f name s o.text rest with
          | .error why => .error (.fault why)
          | .ok (given, rest) =>
            if given.any fun g => g.switch == .help then .error .help
            else readPieces f fuel rest { r with given := r.given ++ given }
      | _ =>
        let (r, rest) := readOperands f pieces r
        if rest.length < pieces.length then readPieces f fuel rest r
        else
          let extras := (rest.takeWhile (!·.isSwitch)).map Piece.written
          readPieces f fuel (rest.dropWhile (!·.isSwitch)) { r with extras := r.extras ++ extras }

def Form.read (f : Form) (words : List Text) : Except Stop Reading := do
  let pieces ← (classifyAll f words).mapError .fault
  let r ← readPieces f (pieces.length + 1) pieces {}
  let count := if f.takesCommand then min r.command.length 1 else r.operands.length
  if count < f.operands.length then throw (.fault (.missing (f.operands.drop count)))
  return r

def Reading.text? (r : Reading) (s : Switch) : Option Operand :=
  (r.given.reverse.find? fun g => g.switch == s).map (·.text)

def Reading.has (r : Reading) (s : Switch) : Bool :=
  r.given.any fun g => g.switch == s

inductive Command
  | get (key : Text)
  | metadata (key : Text)
  | set (key : Text) (value label description : Operand) (noSync : Bool)
  | remove (key : Text)
  | list
deriving DecidableEq, Repr

def Command.action : Command → Action
  | .get _ => .get
  | .metadata _ => .metadata
  | .set _ _ _ _ _ => .set
  | .remove _ => .remove
  | .list => .list

structure Invocation where
  config : Option Operand
  verbose : Bool
  command : Command
deriving DecidableEq, Repr

structure Refusal where
  form : Form
  stop : Stop
deriving Repr

def commandOf (a : Action) (r : Reading) : Command :=
  let operand (n : Nat) : Operand := r.operands[n]?.getD none
  let key := (operand 0).getD ("" : String)
  match a with
  | .get => .get key
  | .metadata => .metadata key
  | .remove => .remove key
  | .list => .list
  | .set => .set key (operand 1) ((r.text? .label).getD (some ("" : String)))
      ((r.text? .description).getD (some ("" : String))) (r.has .noSync)

def Invocation.read (words : List Text) : Except Refusal Invocation := do
  let whole := Form.whole
  let outer ← (whole.read words).mapError (Refusal.mk whole)
  let name := outer.command.headD ("" : String)
  match Action.ofName? name with
  | none => throw ⟨whole, .fault (.unknownAction name)⟩
  | some a =>
    let inner ← (a.form.read (outer.command.drop 1)).mapError (Refusal.mk a.form)
    let extras := outer.extras ++ inner.extras
    if !extras.isEmpty then throw ⟨whole, .fault (.unrecognized extras)⟩
    return ⟨outer.text? .config, outer.has .verbose, commandOf a inner⟩

namespace Refusal

def code (r : Refusal) : Nat :=
  match r.stop with
  | .help => 0
  | .fault _ => 2

def output (r : Refusal) : String :=
  match r.stop with
  | .help => r.form.usage ++ "\n" ++ r.form.explanation
  | .fault _ => ""

def errorOutput (r : Refusal) : Text :=
  match r.stop with
  | .help => ""
  | .fault why => r.form.usage ++ r.form.program ++ ": error: " ++ why.message ++ "\n"

end Refusal

end SecretStore.CommandLine
