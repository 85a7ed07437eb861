import SecretStore.Files.Tree
import SecretStore.Stack
import SecretStore.Time.Moment

/-!
What a store finds around it: the files, a clock that goes on by a step at each
reading, and the number of texts sealed so far, from which the next start block
is made, and the room on the stack.
-/

namespace SecretStore

structure World where
  files : FileTree := {}
  /-- Microseconds since the start of 1970. -/
  clock : Int := 0
  step : Int := 0
  sealed : Nat := 0
  stack : Stack := .standard
deriving Inhabited

namespace World

def now (w : World) : Moment :=
  .ofMicros w.clock

def tick (w : World) : World :=
  { w with clock := w.clock + w.step }

/-- The second that a seal is dated with; the clock is not read on for it. -/
def second (w : World) : Nat :=
  (w.clock.fdiv 1000000).toNat

def nextStart (w : World) : Bytes :=
  Bytes.ofNat128 (w.sealed + 1)

def countSeal (w : World) : World :=
  { w with sealed := w.sealed + 1 }

end World

end SecretStore
