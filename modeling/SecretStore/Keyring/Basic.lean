import SecretStore.Item
import SecretStore.Keyring.Script
import SecretStore.Validation.Fields

/-!
A keyring: the items of one service under one access policy. Opening one
settles the policy and the reuse window, and asks nothing of a store. The
operations ask a store for one record or for all of the service. A store cannot
replace a record, so setting an item adds it first; when there is one already,
the record is looked up and its secret replaced, and nothing else of it. If
the record is gone by then, the update is lost.
-/

namespace SecretStore

structure Keyring where
  service : Text
  policy : AccessPolicy
  reuse : Span
  synchronizable : Bool
deriving DecidableEq, Repr, Inhabited

namespace Keyring

def open? (config : KeyringConfig) (strategy : Option Strategy := none) :
    Except Misconfiguration Keyring := do
  let strategy ← match strategy with
    | some s => .ok s
    | none => Strategy.ofName config.policy
  let reuse ← checkReuse config.reuse
  let policy ← strategy.resolve config
  return ⟨config.serviceName, policy, reuse, config.synchronizable⟩

def logger : String := "sealed_keyring.backend"

def debug {α : Type} (message : Text) (next : Script α) : Script α :=
  .log ⟨.debug, logger, message⟩ next

def target (k : Keyring) (key : Text) : String :=
  "service=" ++ Text.quoted k.service ++ ", account=" ++ Text.quoted key

def itemQuery (k : Keyring) (key : Text) (data reference : Bool) : Query :=
  { service := k.service, account := some key, limit := .one, attributes := true
    data, reference, reuse := some k.reuse }

def serviceQuery (k : Keyring) : Query :=
  { service := k.service, limit := .all, attributes := true, reuse := some k.reuse }

def queryOne {α : Type} (k : Keyring) (operation : String) (key : Text) (q : Query)
    (next : Record → Except KeyringError α) : Script α :=
  .query q fun
    | .ok (record :: _) => .done (next record)
    | .ok [] | .error ⟨.notFound, _⟩ =>
      debug ("No results for " ++ k.target key) (.done (.error (.keyNotFound k.service key)))
    | .error e =>
      debug (operation ++ " failed for " ++ k.target key ++ ": " ++ e.message)
        (.done (.error (.store ⟨operation, k.service, some key, e.message⟩ e.kind)))

def checked {α : Type} (r : Except Rejection α) : Except KeyringError α :=
  match r with
  | .ok a => .ok a
  | .error why => .error (.invalid why)

def itemOf (key : Text) (r : Record) : Except KeyringError Item :=
  checked (Item.ofEntries [(.text "key", .text key), (.text "data", .bytes r.data),
    (.text "label", .ofJson r.label), (.text "description", .ofJson r.description)])

def metadataOf (key : Text) (r : Record) : Except KeyringError Metadata :=
  (checked (Item.ofEntries [(.text "key", .text key), (.text "label", .ofJson r.label),
    (.text "description", .ofJson r.description)])).map fun item => ⟨item, r.modified⟩

theorem itemOf_text (key : Text) {r : Record} {label description : Text}
    (hl : r.label = .str label) (hd : r.description = .str description) :
    itemOf key r = .ok ⟨key, r.data, label, description, true⟩ := by
  rw [itemOf, hl, hd]
  rfl

theorem metadataOf_text (key : Text) {r : Record} {label description : Text}
    (hl : r.label = .str label) (hd : r.description = .str description) :
    metadataOf key r = .ok ⟨⟨key, [], label, description, true⟩, r.modified⟩ := by
  rw [metadataOf, hl, hd]
  rfl

def get (k : Keyring) (key : Text) : Script Item :=
  debug ("Querying item for " ++ k.target key)
    (k.queryOne "get" key (k.itemQuery key true false) (itemOf key))

def getMetadata (k : Keyring) (key : Text) : Script Metadata :=
  debug ("Querying metadata for " ++ k.target key)
    (k.queryOne "get_metadata" key (k.itemQuery key false true) (metadataOf key))

def recordOf (k : Keyring) (item : Item) : Record :=
  { service := .str k.service, account := .str item.key, label := .str item.label
    description := .str item.description, data := item.data, policy := some k.policy
    synchronizable := .bool (k.synchronizable && item.allowSync) }

def setFailure (k : Keyring) (key detail : Text) : StoreFailure :=
  ⟨"set", k.service, some key, detail⟩

def lostUpdate (k : Keyring) (key : Text) : Script Unit :=
  .log ⟨.warning, logger, "Item " ++ k.target key ++ " vanished between add and update"⟩
    (.done (.error (.lostUpdate
      (k.setFailure key "item was removed before it could be updated"))))

def overwrite (k : Keyring) (key : Text) (data : Bytes) : Script Unit :=
  .write (.update (k.itemQuery key false false) { data := some data }) fun
    | .ok () => .done (.ok ())
    | .error ⟨.notFound, _⟩ => k.lostUpdate key
    | .error e =>
      .done (.error (.store (k.setFailure key ("failed to update item: " ++ e.message)) e.kind))

/-- Goes on from the refusal of an item that is there already: looks it up, and
replaces its secret. -/
def replaceData (k : Keyring) (item : Item) : Script Unit :=
  debug ("Item already exists, updating " ++ k.target item.key)
    (.query (k.itemQuery item.key false false) fun
      | .ok [] | .error ⟨.notFound, _⟩ => k.lostUpdate item.key
      | .error e =>
        .done (.error (.store
          (k.setFailure item.key ("failed to query existing item: " ++ e.message)) e.kind))
      | .ok (_ :: _) => k.overwrite item.key item.data)

def set (k : Keyring) (item : Item) : Script Unit :=
  debug ("Adding service=" ++ Text.quoted k.service ++ ", label=" ++ Text.quoted item.label ++
      ", account=" ++ Text.quoted item.key)
    (.write (.add (k.recordOf item)) fun
      | .ok () => .done (.ok ())
      | .error ⟨.duplicate, _⟩ => k.replaceData item
      | .error e => .done (.error (.store (k.setFailure item.key e.message) e.kind)))

def remove (k : Keyring) (key : Text) : Script Unit :=
  debug ("Removing item " ++ k.target key)
    (.write (.delete { service := k.service, account := some key }) fun
      | .ok () => .done (.ok ())
      | .error ⟨.notFound, _⟩ => .done (.error (.keyNotFound k.service key))
      | .error e =>
        .done (.error (.store ⟨"remove", k.service, some key, e.message⟩ e.kind)))

def keys (k : Keyring) : Script (List Json) :=
  let listed (records : List Record) : Script (List Json) :=
    debug ("Found " ++ String.ofList (Text.decimal records.length) ++ " results")
      (.done (.ok (records.map (·.account))))
  debug ("Querying keys for service=" ++ Text.quoted k.service)
    (.query k.serviceQuery fun
      | .ok records => listed records
      | .error ⟨.notFound, _⟩ => listed []
      | .error e => .done (.error (.store ⟨"keys", k.service, none, e.message⟩ e.kind)))

end Keyring

end SecretStore
