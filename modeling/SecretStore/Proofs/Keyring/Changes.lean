import SecretStore.Proofs.Keyring.Operation
import SecretStore.Proofs.Keyring.Script

/-!
What requests ask for. They seek records of the keyring's service, and there are
three kinds of changes, each of one record of it. A request goes on only from a
change that found nothing to change, or a record in its way. So whatever a request
finds while it runs is as it was when the request began. And a request that made a
change does not fail.
-/

namespace SecretStore

namespace Script

variable {α β : Type}

def Settled : Except NativeError Unit → Prop
  | .ok () => True
  | .error e => e.kind = .other

theorem forall_settled {p : Except NativeError Unit → Prop} (made : p (.ok ()))
    (failed : ∀ message, p (.error ⟨.other, message⟩)) (answer : Except NativeError Unit)
    (settled : Settled answer) : p answer := by
  obtain ⟨kind, message⟩ | _ := answer
  · cases settled
    exact failed message
  · exact made

/-- Every change that is asked for is of a kind, and when it is settled the script ends. -/
def ChangesOnce (kind : Write → Prop) : Script α → Prop
  | .done _ => True
  | .log _ next => next.ChangesOnce kind
  | .query _ next => ∀ answer, (next answer).ChangesOnce kind
  | .write c next => kind c ∧
      (∀ answer, Settled answer → ∃ result, (next answer).ending? = some result) ∧
      ∀ e, (next (.error e)).ChangesOnce kind

theorem ChangesOnce.mono {kind kind' : Write → Prop} {script : Script α}
    (h : script.ChangesOnce kind) (implies : ∀ c, kind c → kind' c) :
    script.ChangesOnce kind' := by
  induction script with
  | done result => trivial
  | log entry next ih => exact ih h
  | query q next ih => exact fun answer => ih answer (h answer)
  | write c next ih => exact ⟨implies c h.1, h.2.1, fun e => ih (.error e) (h.2.2 e)⟩

theorem ChangesOnce.mapResult {kind : Write → Prop} {script : Script α}
    (h : script.ChangesOnce kind) (f : Except KeyringError α → Except KeyringError β) :
    (script.mapResult f).ChangesOnce kind := by
  induction script with
  | done result => trivial
  | log entry next ih => exact ih h
  | query q next ih => exact fun answer => ih answer (h answer)
  | write c next ih =>
    refine ⟨h.1, fun answer settled => ?_, fun e => ih (.error e) (h.2.2 e)⟩
    obtain ⟨result, ends⟩ := h.2.1 answer settled
    exact ⟨f result, by rw [ending_mapResult, ends]; rfl⟩

/-- Once a change is made the script ends, and not with an error. -/
def Rewards : Script α → Prop
  | .done _ => True
  | .log _ next => next.Rewards
  | .query _ next => ∀ answer, (next answer).Rewards
  | .write _ next => (∃ a, (next (.ok ())).ending? = some (.ok a)) ∧
      ∀ e, (next (.error e)).Rewards

theorem Rewards.mapResult {script : Script α} (h : script.Rewards) (f : α → β) :
    (script.mapResult fun result => result.map f).Rewards := by
  induction script with
  | done result => trivial
  | log entry next ih => exact ih h
  | query q next ih => exact fun answer => ih answer (h answer)
  | write c next ih =>
    obtain ⟨⟨a, ends⟩, others⟩ := h
    exact ⟨⟨f a, by rw [ending_mapResult, ends]; rfl⟩, fun e => ih (.error e) (others e)⟩

theorem rewards_of_changeless {script : Script α} (h : script.ChangesOnce fun _ => False) :
    script.Rewards := by
  induction script with
  | done result => trivial
  | log entry next ih => exact ih h
  | query q next ih => exact fun answer => ih answer (h answer)
  | write c next ih => exact h.1.elim

def Seeks (kind : Query → Prop) : Script α → Prop
  | .done _ => True
  | .log _ next => next.Seeks kind
  | .query q next => kind q ∧ ∀ answer, (next answer).Seeks kind
  | .write _ next => ∀ answer, (next answer).Seeks kind

theorem Seeks.mono {kind kind' : Query → Prop} {script : Script α} (h : script.Seeks kind)
    (implies : ∀ q, kind q → kind' q) : script.Seeks kind' := by
  induction script with
  | done result => trivial
  | log entry next ih => exact ih h
  | query q next ih => exact ⟨implies q h.1, fun answer => ih answer (h.2 answer)⟩
  | write c next ih => exact fun answer => ih answer (h answer)

theorem Seeks.mapResult {kind : Query → Prop} {script : Script α} (h : script.Seeks kind)
    (f : Except KeyringError α → Except KeyringError β) : (script.mapResult f).Seeks kind := by
  induction script with
  | done result => trivial
  | log entry next ih => exact ih h
  | query q next ih => exact ⟨h.1, fun answer => ih answer (h.2 answer)⟩
  | write c next ih => exact fun answer => ih answer (h answer)

end Script

/-- The changes that a request may ask for. -/
inductive Request.Asks : Request → Write → Prop
  | add (k : Keyring) (item : Item) : Asks ⟨k, .set item⟩ (.add (k.recordOf item))
  | update (k : Keyring) (item : Item) :
      Asks ⟨k, .set item⟩ (.update (k.itemQuery item.key false false) { data := some item.data })
  | delete (k : Keyring) (key : Text) :
      Asks ⟨k, .remove key⟩ (.delete { service := k.service, account := some key })

namespace Keyring

theorem changesOnce_queryOne {α : Type} (k : Keyring) (operation : String) (key : Text) (q : Query)
    (next : Record → Except KeyringError α) (kind : Write → Prop) :
    (k.queryOne operation key q next).ChangesOnce kind := by
  intro answer
  dsimp only
  split <;> trivial

theorem changesOnce_get (k : Keyring) (key : Text) (kind : Write → Prop) :
    (k.get key).ChangesOnce kind :=
  k.changesOnce_queryOne "get" key (k.itemQuery key true false) (itemOf key) kind

theorem changesOnce_getMetadata (k : Keyring) (key : Text) (kind : Write → Prop) :
    (k.getMetadata key).ChangesOnce kind :=
  k.changesOnce_queryOne "get_metadata" key (k.itemQuery key false true) (metadataOf key) kind

theorem changesOnce_overwrite (k : Keyring) (item : Item) :
    (k.overwrite item.key item.data).ChangesOnce (Request.Asks ⟨k, .set item⟩) := by
  refine ⟨.update k item, Script.forall_settled ⟨_, rfl⟩ fun _ => ⟨_, rfl⟩, fun e => ?_⟩
  dsimp only
  split <;> trivial

theorem changesOnce_replaceData (k : Keyring) (item : Item) :
    (k.replaceData item).ChangesOnce (Request.Asks ⟨k, .set item⟩) := by
  intro answer
  dsimp only
  split
  · trivial
  · trivial
  · trivial
  · exact k.changesOnce_overwrite item

theorem changesOnce_set (k : Keyring) (item : Item) :
    (k.set item).ChangesOnce (Request.Asks ⟨k, .set item⟩) := by
  refine ⟨.add k item, Script.forall_settled ⟨_, rfl⟩ fun _ => ⟨_, rfl⟩, fun e => ?_⟩
  dsimp only
  split
  · trivial
  · exact k.changesOnce_replaceData item
  · trivial

theorem changesOnce_remove (k : Keyring) (key : Text) :
    (k.remove key).ChangesOnce (Request.Asks ⟨k, .remove key⟩) := by
  refine ⟨.delete k key, Script.forall_settled ⟨_, rfl⟩ fun _ => ⟨_, rfl⟩, fun e => ?_⟩
  dsimp only
  split <;> trivial

theorem changesOnce_keys (k : Keyring) (kind : Write → Prop) : k.keys.ChangesOnce kind := by
  intro answer
  dsimp only
  split <;> trivial

end Keyring

theorem Request.changesOnce (r : Request) : r.script.ChangesOnce r.Asks := by
  obtain ⟨k, operation⟩ := r
  cases operation with
  | get key => exact (k.changesOnce_get key _).mapResult _
  | metadata key => exact (k.changesOnce_getMetadata key _).mapResult _
  | set item => exact (k.changesOnce_set item).mapResult _
  | remove key => exact (k.changesOnce_remove key).mapResult _
  | keys => exact (k.changesOnce_keys _).mapResult _

namespace Keyring

theorem rewards_overwrite (k : Keyring) (key : Text) (data : Bytes) :
    (k.overwrite key data).Rewards := by
  refine ⟨⟨_, rfl⟩, fun e => ?_⟩
  dsimp only
  split <;> trivial

theorem rewards_replaceData (k : Keyring) (item : Item) : (k.replaceData item).Rewards := by
  intro answer
  dsimp only
  split
  · trivial
  · trivial
  · trivial
  · exact k.rewards_overwrite item.key item.data

theorem rewards_set (k : Keyring) (item : Item) : (k.set item).Rewards := by
  refine ⟨⟨_, rfl⟩, fun e => ?_⟩
  dsimp only
  split
  · trivial
  · exact k.rewards_replaceData item
  · trivial

theorem rewards_remove (k : Keyring) (key : Text) : (k.remove key).Rewards := by
  refine ⟨⟨_, rfl⟩, fun e => ?_⟩
  dsimp only
  split <;> trivial

end Keyring

def Operation.Looks : Operation → Prop
  | .get _ | .metadata _ | .keys => True
  | .set _ | .remove _ => False

namespace Request

theorem changeless {r : Request} (looks : r.operation.Looks) :
    r.script.ChangesOnce fun _ => False := by
  obtain ⟨k, operation⟩ := r
  cases operation with
  | get key => exact (k.changesOnce_get key _).mapResult _
  | metadata key => exact (k.changesOnce_getMetadata key _).mapResult _
  | keys => exact (k.changesOnce_keys _).mapResult _
  | set item => exact looks.elim
  | remove key => exact looks.elim

theorem rewards (r : Request) : r.script.Rewards := by
  obtain ⟨k, operation⟩ := r
  cases operation with
  | set item => exact (k.rewards_set item).mapResult _
  | remove key => exact (k.rewards_remove key).mapResult _
  | get key | metadata key | keys => exact Script.rewards_of_changeless (changeless trivial)

end Request

structure Request.SeeksBy (r : Request) (q : Query) : Prop where
  service : q.service = r.keyring.service
  account : q.account = r.operation.key?
  reuse : q.reuse = some r.keyring.reuse

namespace Keyring

theorem seeks_queryOne {α : Type} (k : Keyring) (operation : String) (key : Text) (q : Query)
    (next : Record → Except KeyringError α) {kind : Query → Prop} (seeks : kind q) :
    (k.queryOne operation key q next).Seeks kind := by
  refine ⟨seeks, fun answer => ?_⟩
  dsimp only
  split <;> trivial

theorem seeks_overwrite (k : Keyring) (key : Text) (data : Bytes) (kind : Query → Prop) :
    (k.overwrite key data).Seeks kind := by
  intro answer
  dsimp only
  split <;> trivial

theorem seeks_replaceData (k : Keyring) (item : Item) :
    (k.replaceData item).Seeks (Request.SeeksBy ⟨k, .set item⟩) := by
  refine ⟨⟨rfl, rfl, rfl⟩, fun answer => ?_⟩
  dsimp only
  split
  · trivial
  · trivial
  · trivial
  · exact k.seeks_overwrite item.key item.data _

theorem seeks_set (k : Keyring) (item : Item) :
    (k.set item).Seeks (Request.SeeksBy ⟨k, .set item⟩) := by
  intro answer
  dsimp only
  split
  · trivial
  · exact k.seeks_replaceData item
  · trivial

theorem seeks_remove (k : Keyring) (key : Text) (kind : Query → Prop) :
    (k.remove key).Seeks kind := by
  intro answer
  dsimp only
  split <;> trivial

theorem seeks_keys (k : Keyring) : k.keys.Seeks (Request.SeeksBy ⟨k, .keys⟩) := by
  refine ⟨⟨rfl, rfl, rfl⟩, fun answer => ?_⟩
  dsimp only
  split <;> trivial

end Keyring

theorem Request.seeks (r : Request) : r.script.Seeks r.SeeksBy := by
  obtain ⟨k, operation⟩ := r
  cases operation with
  | get key => exact (k.seeks_queryOne "get" key _ _ ⟨rfl, rfl, rfl⟩).mapResult _
  | metadata key => exact (k.seeks_queryOne "get_metadata" key _ _ ⟨rfl, rfl, rfl⟩).mapResult _
  | set item => exact (k.seeks_set item).mapResult _
  | remove key => exact (k.seeks_remove key _).mapResult _
  | keys => exact k.seeks_keys.mapResult _

end SecretStore
