import StoryEngine.World.Notify

/-!
# Changing a state

* `World.alter`, `World.commit` — the contents of a state change.
* `World.setValue`, `World.deleteValue` — a key is set or deleted.
* `World.enterBatch`, `World.leaveBatch` — a batch opens and closes.
* `World.extend` — several keys set in one batch.

A change that leaves every value as it was is no change.  A change outside any batch notifies the
listeners at once; of the changes inside a batch they are notified when the last open batch closes.
-/

namespace StoryEngine.World

/-- A state has other contents and comes to a new revision. -/
def alter (s : StateId) (contents : Contents) (w : World) : World :=
  let w := w.onStore s (·.commit contents)
  w.record (.changed s (w.store s).revision)

/-- **The contents of a state change**; outside any batch its listeners are notified. -/
def commit (react : Reaction) (s : StateId) (contents : Contents) (w : World) : World :=
  let w := w.alter s contents
  if (w.store s).openBatches = 0 then w.flush react s else w

/-- **A key is set.** -/
def setValue (react : Reaction) (s : StateId) (key : String) (v : Value) (w : World) : World :=
  match (w.store s).write? key v with
  | some contents => w.commit react s contents
  | none => w

/-- **A key is deleted**; its value, if it had one. -/
def deleteValue (react : Reaction) (s : StateId) (key : String) (w : World) :
    World × Option Value :=
  match (w.store s).erase? key with
  | some (old, contents) => (w.commit react s contents, some old)
  | none => (w, none)

/-- **A batch opens.** -/
def enterBatch (s : StateId) (w : World) : World :=
  (w.onStore s (·.enter)).record (.opened s)

/-- A batch is no longer open. -/
def closeBatch (s : StateId) (w : World) : World :=
  (w.onStore s (·.close)).record (.closed s)

/-- Nothing is pending in a state any more. -/
def settle (s : StateId) (w : World) : World :=
  let w := w.onStore s (·.settle)
  w.note (.flushingBatch s (w.store s).revision)

/-- **A batch closes.**  If it was the last one open and something is pending, the listeners are
notified. -/
def leaveBatch (react : Reaction) (s : StateId) (w : World) : World :=
  let w := w.closeBatch s
  if (w.store s).due then (w.settle s).flush react s else w

/-- Several keys are set, one after the other. -/
def setValues (react : Reaction) (s : StateId) : List (String × Value) → World → World
  | [], w => w
  | (key, v) :: rest, w => setValues react s rest (w.setValue react s key v)

/-- **Several keys are set in one batch.** -/
def extend (react : Reaction) (s : StateId) (pairs : List (String × Value)) (w : World) : World :=
  ((w.enterBatch s).setValues react s pairs).leaveBatch react s

end StoryEngine.World
