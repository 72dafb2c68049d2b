import StoryEngine.World.Contents
import StoryEngine.World.Id
import StoryEngine.World.Registry

/-!
# States

A state holds the values of the qualities.  Every change of a value raises its revision by one.

* `Store` — the values, the revision, the open batches and the listeners of a state.
* `Store.write?`, `Store.erase?` — the contents after a key is set or deleted, if that changes them.
* `Store.commit` — the state after such a change; inside a batch it is marked as pending.
* `Store.enter`, `Store.close` — a batch opens or closes.
* `Store.due`, `Store.settle` — whether the listeners have to be notified, and that they are being
  notified.
-/

namespace StoryEngine

/-- Who listens to a state: expressions, quality sets and decks that are bound to it, and
subscribed listeners. -/
inductive StateListener where
  | user (l : ListenerId)
  | expr (e : ExprId)
  | set (q : SetId)
  | deck (d : DeckId)
  deriving DecidableEq, Repr

/-- A state.  Its revision and the number of its open batches have no upper bound.  A counter of 64
bits for the one and of 32 bits for the other shows the same as long as there are fewer than
`2 ^ 64` changes, and fewer than `2 ^ 32` batches open at once. -/
structure Store where
  contents : Contents
  revision : Nat
  openBatches : Nat
  pending : Bool
  listeners : Registry StateListener

namespace Store

/-- A state without values. -/
def empty : Store :=
  ⟨[], 0, 0, false, .empty⟩

instance : Inhabited Store := ⟨empty⟩

/-- The value of a key. -/
def get? (st : Store) (key : String) : Option Value :=
  st.contents.lookup key

/-- **The contents after a key is set**, or nothing if the key has that very value already. -/
def write? (st : Store) (key : String) (v : Value) : Option Contents :=
  match st.get? key with
  | some old => if old == v then none else some (st.contents.put key v)
  | none => some (st.contents.put key v)

/-- **The value of a key and the contents after it is deleted**, or nothing if there is no such
key. -/
def erase? (st : Store) (key : String) : Option (Value × Contents) :=
  (st.get? key).map fun old => (old, st.contents.without key)

/-- **The state after its contents changed.**  Inside a batch its listeners have to wait. -/
def commit (st : Store) (contents : Contents) : Store :=
  { st with
    contents
    revision := st.revision + 1
    pending := st.pending || 0 < st.openBatches }

/-- A batch opens.  The outermost one begins with nothing pending. -/
def enter (st : Store) : Store :=
  { st with
    openBatches := st.openBatches + 1
    pending := st.pending && 0 < st.openBatches }

/-- A batch closes, without regard to what is pending. -/
def close (st : Store) : Store :=
  { st with openBatches := st.openBatches - 1 }

/-- Whether the listeners have to be notified: no batch is open and something is pending. -/
def due (st : Store) : Bool :=
  st.openBatches == 0 && st.pending

/-- Nothing is pending any more. -/
def settle (st : Store) : Store :=
  { st with pending := false }

end Store

end StoryEngine
