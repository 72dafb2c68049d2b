import StoryEngine.Script.Lookup

/-!
# Acts on states

Setting, deleting and reading the values of a state, its batches, and pointing at it without holding
on to it.  `World.performState` does one such act.

Data is turned into values before the state is looked up, so data that is no value is the fault
even if there is no such state.
-/

namespace StoryEngine.World

variable (react : Reaction)

/-- Pieces of data as values; the first that is no value is the fault. -/
def valuesOf : List (String × Datum) → Except ValueFault (List (String × Value))
  | [] => .ok []
  | (key, datum) :: rest =>
    match datum.toValue with
    | .error fault => .error fault
    | .ok v =>
      match valuesOf rest with
      | .error fault => .error fault
      | .ok more => .ok ((key, v) :: more)

/-- A new state. -/
def newState (w : World) : World × StateId :=
  ({ w with stores := w.stores.add .empty }, ⟨w.stores.size⟩)

/-- **An act on a state.** -/
def performState : StateAct → Doing
  | .create as => fun w =>
    let (w, s) := w.newState
    w.stored react as (.handle (.state s))
  | .set state key datum => fun w =>
    match datum.toValue with
    | .error fault => (w, .fault (.value fault))
    | .ok v => withState state (fun s w => (w.setValue react s key v, .null)) w
  | .delete state key => withState state fun s w =>
    let (w, old) := w.deleteValue react s key
    (w, .value old)
  | .get state key => withState state fun s w => (w, .value ((w.store s).get? key))
  | .exists state key => withState state fun s w => (w, .flag ((w.store s).get? key).isSome)
  | .keys state => withState state fun s w => (w, .texts (w.store s).contents.keys)
  | .snapshot state => withState state fun s w => (w, .contents (w.store s).contents.sorted)
  | .extend state pairs => fun w =>
    match valuesOf pairs with
    | .error fault => (w, .fault (.value fault))
    | .ok pairs => withState state (fun s w => (w.extend react s pairs, .null)) w
  | .openBatch state as => withState state fun s w =>
    (w.enterBatch s).stored react as (.handle (.batch s))
  | .inBatch state => withState state fun s w => (w, .flag (0 < (w.store s).openBatches))
  | .revision state => withState state fun s w => (w, .count (w.store s).revision)
  | .downgrade state as => withState state fun s w => w.stored react as (.weak (some s))
  | .weakDefault as => fun w => w.stored react as (.weak none)
  | .upgrade weak as => withWeak weak fun pointed w =>
    match pointed with
    | some s =>
      if w.stateAlive s then w.stored react as (.handle (.state s)) else (w, .dead)
    | none => (w, .dead)
  | .weakIs weak state => withWeak weak fun pointed =>
    withState state fun s w => (w, .flag (pointed == some s))

end StoryEngine.World
