import SecretStore.Yaml.Scalar
import SecretStore.Yaml.Token

/-!
The node that a document holds: scalars, lists and mappings with their tags.
An alias stands for the node that bears its name, so the node is put in its
place. A node that holds itself is unrolled twice, and is empty further in.
-/

namespace SecretStore.Yaml

inductive Node
  | scalar (tag : Tag) (text : Text)
  | list (tag : Tag) (items : List Node)
  | map (tag : Tag) (entries : List (Node × Node))
  | loop (name : String)
deriving Inhabited

namespace Node

mutual

def fill (name : String) (inner : Node) : Node → Node
  | .scalar tag text => .scalar tag text
  | .list tag items => .list tag (fillItems name inner items)
  | .map tag entries => .map tag (fillEntries name inner entries)
  | .loop other => if other == name then inner else .loop other

def fillItems (name : String) (inner : Node) : List Node → List Node
  | [] => []
  | item :: rest => fill name inner item :: fillItems name inner rest

def fillEntries (name : String) (inner : Node) : List (Node × Node) → List (Node × Node)
  | [] => []
  | (key, value) :: rest =>
    (fill name inner key, fill name inner value) :: fillEntries name inner rest

end

def emptied : Node → Node
  | .list tag _ => .list tag []
  | .map tag _ => .map tag []
  | n => n

def unroll (name : String) (n : Node) : Node :=
  fill name (fill name n.emptied n) n

/-- What is left to read, and the names of nodes; a node that is not finished
has a name already. -/
structure Rest where
  tokens : List Token
  names : List (String × Option Node) := []

abbrev Reading := StateT Rest (Except Fault)

def look : Reading (Option Token) := do
  return (← get).tokens.head?

def advance : Reading Unit :=
  modify fun r => { r with tokens := r.tokens.drop 1 }

def refuse {α : Type} : Reading α := do
  match ← look with
  | some (.broken why) => throw why
  | _ => throw .malformed

def expect (t : Token) : Reading Unit := do
  if (← look) == some t then advance else refuse

def nothing : Node :=
  .scalar (.ofForm ("" : String)) ("" : String)

private def writtenTag (handles : Handles) : Reading (Option String) := do
  match ← look with
  | some (.tag t) =>
    advance
    match t.name handles with
    | .ok name => return some name
    | .error why => throw why
  | _ => return none

private def anchorName : Reading (Option String) := do
  match ← look with
  | some (.anchor name) =>
    advance
    return some name
  | _ => return none

def properties (handles : Handles) : Reading (Option String × Option String) := do
  match ← anchorName with
  | some name => return (some name, ← writtenTag handles)
  | none => match ← writtenTag handles with
    | some tag => return (← anchorName, some tag)
    | none => return (none, none)

/-- The tag of a scalar; only a plain one without a tag and one with a mere
exclamation mark go by their form. -/
def scalarTag (written : Option String) (plain : Bool) (text : Text) : Tag :=
  match written with
  | none => if plain then .ofForm text else .str
  | some name => if name == "!" then .ofForm text else .ofName name

def collectionTag (written : Option String) (standard : Tag) : Tag :=
  match written with
  | none => standard
  | some name => if name == "!" then standard else .ofName name

def openName : Option String → Reading Unit
  | none => pure ()
  | some name => do
    if ((← get).names.lookup name).isSome then throw .malformed
    modify fun r => { r with names := (name, none) :: r.names }

def closeName (name : Option String) (n : Node) : Reading Node :=
  match name with
  | none => return n
  | some name => do
    let n := n.unroll name
    modify fun r => { r with names := (name, some n) :: r.names }
    return n

def named (name : String) : Reading Node := do
  match (← get).names.lookup name with
  | none => throw .malformed
  | some none => return .loop name
  | some (some n) => return n

def emptyNode (isNamed : Bool) (tag : Option String) : Reading Node := do
  if isNamed || tag.isSome then
    return .scalar (scalarTag tag true ("" : String)) ("" : String)
  else refuse

private def isOneOf (ts : List Token) : Option Token → Bool
  | none => false
  | some t => ts.contains t

mutual

/-- A node. Blocks are read only where they may stand, and entries without a
block of their own only as the value of a mapping. -/
def node (handles : Handles) (blocks entries : Bool) : Nat → Reading Node
  | 0 => throw .malformed
  | fuel + 1 => do
    if let some (.alias name) ← look then
      advance
      named name
    else
      let (name, tag) ← properties handles
      openName name
      let n ← content handles blocks entries name.isSome tag fuel
      closeName name n

def content (handles : Handles) (blocks entries isNamed : Bool) (tag : Option String) :
    Nat → Reading Node
  | 0 => throw .malformed
  | fuel + 1 => do
    let listOf (items : List Node) : Node := .list (collectionTag tag .seq) items
    let mapOf (entries : List (Node × Node)) : Node := .map (collectionTag tag .map) entries
    match ← look with
    | some (.scalar plain text) =>
      advance
      return .scalar (scalarTag tag plain text) text
    | some .listOpen =>
      advance
      return listOf (← listItems handles true fuel)
    | some .mapOpen =>
      advance
      return mapOf (← mapEntries handles true fuel)
    | some .entry =>
      if entries then return listOf (← looseEntries handles fuel) else emptyNode isNamed tag
    | some .blockSequence =>
      if blocks then
        advance
        return listOf (← blockEntries handles fuel)
      else emptyNode isNamed tag
    | some .blockMapping =>
      if blocks then
        advance
        return mapOf (← blockPairs handles fuel)
      else emptyNode isNamed tag
    | some (.broken why) => throw why
    | _ => emptyNode isNamed tag

def nodeUnless (handles : Handles) (blocks entries : Bool) (ends : List Token) :
    Nat → Reading Node
  | 0 => throw .malformed
  | fuel + 1 => do
    if isOneOf ends (← look) then return nothing else node handles blocks entries fuel

def blockEntries (handles : Handles) : Nat → Reading (List Node)
  | 0 => throw .malformed
  | fuel + 1 => do
    if (← look) == some .entry then
      advance
      let item ← nodeUnless handles true false [.entry, .blockEnd] fuel
      return item :: (← blockEntries handles fuel)
    else
      expect .blockEnd
      return []

/-- Entries in the place of a value that are indented no further than its key. -/
def looseEntries (handles : Handles) : Nat → Reading (List Node)
  | 0 => throw .malformed
  | fuel + 1 => do
    if (← look) == some .entry then
      advance
      let item ← nodeUnless handles true false [.entry, .key, .value, .blockEnd] fuel
      return item :: (← looseEntries handles fuel)
    else return []

def blockPairs (handles : Handles) : Nat → Reading (List (Node × Node))
  | 0 => throw .malformed
  | fuel + 1 => do
    if (← look) == some .key then
      advance
      let key ← nodeUnless handles true true [.key, .value, .blockEnd] fuel
      let value ← pairValue handles true [.key, .value, .blockEnd] fuel
      return (key, value) :: (← blockPairs handles fuel)
    else
      expect .blockEnd
      return []

/-- A value behind its colon; without a colon there is none. -/
def pairValue (handles : Handles) (blocks : Bool) (ends : List Token) : Nat → Reading Node
  | 0 => throw .malformed
  | fuel + 1 => do
    if (← look) == some .value then
      advance
      nodeUnless handles blocks blocks ends fuel
    else return nothing

/-- The items of a list in brackets, up to its end. A key makes an item a
mapping of one entry. -/
def listItems (handles : Handles) (isFirst : Bool) : Nat → Reading (List Node)
  | 0 => throw .malformed
  | fuel + 1 => do
    if (← look) == some .listClose then
      advance
      return []
    else
      if !isFirst then expect .comma
      match ← look with
      | some .key =>
        advance
        let key ← nodeUnless handles false false [.value, .comma, .listClose] fuel
        let value ← pairValue handles false [.comma, .listClose] fuel
        return .map .map [(key, value)] :: (← listItems handles false fuel)
      | some .listClose =>
        advance
        return []
      | _ =>
        let item ← node handles false false fuel
        return item :: (← listItems handles false fuel)

def mapEntries (handles : Handles) (isFirst : Bool) : Nat → Reading (List (Node × Node))
  | 0 => throw .malformed
  | fuel + 1 => do
    if (← look) == some .mapClose then
      advance
      return []
    else
      if !isFirst then expect .comma
      match ← look with
      | some .key =>
        advance
        let key ← nodeUnless handles false false [.value, .comma, .mapClose] fuel
        let value ← pairValue handles false [.comma, .mapClose] fuel
        return (key, value) :: (← mapEntries handles false fuel)
      | some .mapClose =>
        advance
        return []
      | _ =>
        let key ← node handles false false fuel
        return (key, nothing) :: (← mapEntries handles false fuel)

end

/-- What the directives of a document say of handles. A version is given once
and is 1 or one of its revisions, and a handle is given once. -/
def directives : Nat → Bool → Handles → Reading Handles
  | 0, _, _ => throw .malformed
  | fuel + 1, versioned, handles => do
    match ← look with
    | some (.directive d) =>
      advance
      match d with
      | .version major =>
        if versioned || major != 1 then throw .malformed else directives fuel true handles
      | .handle handle start =>
        if (handles.lookup handle).isSome then throw .malformed
        else directives fuel versioned ((handle, start) :: handles)
      | .other => directives fuel versioned handles
    | _ => return handles

/-- The node of the only document; an empty text has none. -/
def document : Reading (Option Node) := do
  let size := (← get).tokens.length
  let root ← match ← look with
    | none => return none
    | some (.directive _) | some .documentStart => do
      let handles ← directives (size + 1) false []
      expect .documentStart
      let handles := handles ++ Handles.standard
      match ← look with
      | none | some (.directive _) | some .documentStart | some .documentEnd => pure nothing
      | _ => node handles true false (8 * size + 8)
    | _ => node Handles.standard true false (8 * size + 8)
  modify fun r => { r with tokens := r.tokens.dropWhile (· == .documentEnd) }
  if (← look).isNone then return some root else refuse

def ofText (text : List Char) : Except Fault (Option Node) := do
  let (n, _) ← document.run { tokens := Token.ofText text }
  return n

end Node

end SecretStore.Yaml
