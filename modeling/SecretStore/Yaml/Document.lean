import SecretStore.Yaml.Node

/-!
The value that a YAML text holds. A key that is two less-than signs brings in
the entries of other mappings, in front of those written beside it. What
cannot be a value is found level by level: first all that stands in the
outermost node, then what stands in the nodes within it, and so on.
-/

namespace SecretStore.Yaml

namespace Node

def tag? : Node → Option Tag
  | .scalar tag _ | .list tag _ | .map tag _ => some tag
  | .loop _ => none

private def isMergeKey (n : Node) : Bool :=
  n.tag? == some .merge

/-- The entries that the value of a merge key brings in; nothing if it is
neither a mapping nor a list of mappings. Of two mappings in a list the later
one comes first. -/
private def broughtIn : Node → Option (List (Node × Node))
  | .map _ entries => some entries
  | .list _ items => do
    let each ← items.mapM fun
      | .map _ entries => some entries
      | _ => none
    return each.reverse.flatten
  | _ => none

private def asTextKey : Node → Node
  | .scalar .value text => .scalar .str text
  | n => n

/-- Entries with what their merge keys bring in. A merge key that brings in
nothing is left alone with its value. -/
def mergeEntries (entries : List (Node × Node)) : List (Node × Node) :=
  let (merges, own) := entries.partition fun e => e.1.isMergeKey
  match merges.find? fun e => e.2.broughtIn.isNone with
  | some e => [e]
  | none =>
    (merges.flatMap (fun e => e.2.broughtIn.getD []) ++ own).map fun e => (e.1.asTextKey, e.2)

mutual

def merged : Node → Node
  | .scalar tag text => .scalar tag text
  | .list tag items =>
    .list tag (if tag == .omap || tag == .pairs then mergedPairs items else mergedItems items)
  | .map tag entries =>
    .map tag (if tag == .map || tag == .set then mergeEntries (mergedEntries entries)
      else mergedEntries entries)
  | .loop name => .loop name

def mergedItems : List Node → List Node
  | [] => []
  | item :: rest => merged item :: mergedItems rest

/-- Of an item that is a mapping only the entries within are followed. -/
def mergedPairs : List Node → List Node
  | [] => []
  | .map tag entries :: rest => .map tag (mergedEntries entries) :: mergedPairs rest
  | item :: rest => merged item :: mergedPairs rest

def mergedEntries : List (Node × Node) → List (Node × Node)
  | [] => []
  | (key, value) :: rest => (merged key, merged value) :: mergedEntries rest

end

mutual

/-- The text that a scalar is made of; that of a mapping stands under an equals sign. -/
def scalarText? : Node → Option Text
  | .scalar _ text => some text
  | .map _ entries => entryText? entries
  | _ => none

def entryText? : List (Node × Node) → Option Text
  | [] => none
  | (key, value) :: rest => if key.tag? == some .value then scalarText? value else entryText? rest

end

private def mappedScalar (tag : Tag) (text : Option Text) : Except Fault Value :=
  match text with
  | none => .error .malformed
  | some text => if tag == .timestamp then .error .timestampOfMapping else Scalar.value tag text

abbrev Levels := List (List Fault)

def beside : Levels → Levels → Levels
  | [], b => b
  | a, [] => a
  | x :: a, y :: b => (x ++ y) :: beside a b

private def isCollectionTag : Tag → Bool
  | .omap | .pairs | .set | .seq | .map => true
  | _ => false

private def levelsOf : Except Fault Value → Levels
  | .ok _ => []
  | .error why => [[why]]

private def isCollection : Node → Bool
  | .scalar _ _ => false
  | .list _ _ | .loop _ => true
  | .map tag _ => tag == .map || tag == .set

mutual

def faults : Node → Levels
  | .scalar tag text =>
    if isCollectionTag tag then [[], [.malformed]] else levelsOf (Scalar.value tag text)
  | .list tag items =>
    if tag == .seq then [] :: faultsOfItems items
    else if tag == .omap || tag == .pairs then [] :: faultsOfPairs items
    else if isCollectionTag tag then [[], [.malformed]]
    else [[.malformed]]
  | .map tag entries =>
    if tag == .map || tag == .set then [] :: faultsOfEntries entries
    else if isCollectionTag tag then [[], [.malformed]]
    else levelsOf (mappedScalar tag (entryText? entries))
  | .loop _ => []

def faultsOfItems : List Node → Levels
  | [] => []
  | item :: rest => beside (faults item) (faultsOfItems rest)

def faultsOfPairs : List Node → Levels
  | [] => []
  | .map _ [(key, value)] :: rest =>
    beside (beside (faults key) (faults value)) (faultsOfPairs rest)
  | _ :: _ => [[.malformed]]

def faultsOfEntries : List (Node × Node) → Levels
  | [] => []
  | (key, value) :: rest =>
    let unfit := if key.isCollection then [[Fault.malformed]] else []
    beside (beside (faults key) unfit) (beside (faults value) (faultsOfEntries rest))

end

private def orNull : Except Fault Value → Value
  | .ok v => v
  | .error _ => .null

mutual

def value : Node → Value
  | .scalar tag text => orNull (Scalar.value tag text)
  | .list tag items => .list (if tag == .seq then values items else pairValues items)
  | .map tag entries =>
    if tag == .map then .mapping (entryValues [] entries)
    else if tag == .set then .set ((entryValues [] entries).map Prod.fst)
    else orNull (mappedScalar tag (entryText? entries))
  | .loop _ => .null

def values : List Node → List Value
  | [] => []
  | item :: rest => value item :: values rest

def pairValues : List Node → List Value
  | .map _ [(key, v)] :: rest => .tuple [value key, value v] :: pairValues rest
  | _ => []

/-- Entries on top of those before them; a later one takes the place of an earlier. -/
def entryValues (before : List (Value × Value)) : List (Node × Node) → List (Value × Value)
  | [] => before
  | (key, v) :: rest => entryValues (Value.insert (value key) (value v) before) rest

end

end Node

/-- The value of a text; that of an empty one is null. -/
def read (text : List Char) : Except Fault Value := do
  match ← Node.ofText text with
  | none => return .null
  | some root =>
    let root := root.merged
    match root.faults.flatten with
    | why :: _ => throw why
    | [] => return root.value

/-- The most collections that are open at once among the tokens, `opened` being open already. -/
private def depthFrom : Nat → List Token → Nat
  | opened, [] => opened
  | opened, t :: rest =>
    match t with
    | .listOpen | .mapOpen | .blockSequence | .blockMapping => depthFrom (opened + 1) rest
    | .listClose | .mapClose | .blockEnd => max opened (depthFrom (opened - 1) rest)
    | _ => depthFrom opened rest

def depth (text : List Char) : Nat :=
  depthFrom 0 (Token.ofText text)

end SecretStore.Yaml
