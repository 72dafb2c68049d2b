import StoryEngine.World.Bind
import StoryEngine.World.Change

/-!
# Steps on named objects

A step of a script names the objects it works on.  While the step runs, it holds on to every object
it has looked up, so that nothing it sets off can end their life under its hands.

* `Doing` — what a step does to a world, with its answer.
* `World.withHandle` and its like — looks an object up by name and goes on with it; the answer is a
  fault if there is no such object.
* `World.keep` — stores an object under a name, and then gives up what was there before.
* `World.giveUp` — an object is given up: a subscription ends, an open batch closes.
* `World.subscribeTo`, `World.unsubscribeFrom` — a listener subscribes to an emitter, and leaves it.
-/

namespace StoryEngine

/-- What a step does to a world, with its answer. -/
abbrev Doing := World → World × Answer

namespace World

/-! ## Looking up -/

/-- An object is needed and not there. -/
def missing (name : String) : Doing := fun w =>
  (w, .fault (.noObject name))

/-- **Going on with what a name holds on to**, if it is of the needed kind; it is held on to
meanwhile. -/
def withHandle {α : Type} (select : Handle → Option α) (name : String) (k : α → Doing) : Doing :=
  fun w =>
    match w.find? name with
    | some (.handle h) =>
      match select h with
      | some a => w.holdingFor [h] (k a)
      | none => missing name w
    | _ => missing name w

/-- Going on with a named state. -/
def withState (name : String) (k : StateId → Doing) : Doing := withHandle Handle.state? name k

/-- Going on with a named expression. -/
def withExpr (name : String) (k : ExprId → Doing) : Doing := withHandle Handle.expr? name k

/-- Going on with a named quality set. -/
def withSet (name : String) (k : SetId → Doing) : Doing := withHandle Handle.set? name k

/-- Going on with a named card. -/
def withCard (name : String) (k : CardId → Doing) : Doing := withHandle Handle.card? name k

/-- Going on with a named deck. -/
def withDeck (name : String) (k : DeckId → Doing) : Doing := withHandle Handle.deck? name k

/-- Going on with a named board. -/
def withBoard (name : String) (k : BoardId → Doing) : Doing := withHandle Handle.board? name k

/-- Going on with a named node of any kind. -/
def withNode (name : String) (k : NodeId → Doing) : Doing := withHandle Handle.node? name k

/-- Going on with a named node that holds or does not. -/
def withTruth (name : String) (k : TruthId → Doing) : Doing := withHandle Handle.truth? name k

/-- Going on with a named emitter. -/
def withEmitter (name : String) (k : Emitter → Doing) : Doing := withHandle Handle.emitter? name k

/-- Going on with a named state, if a name is given. -/
def withState? (name : Option String) (k : Option StateId → Doing) : Doing :=
  match name with
  | some name => withState name fun s => k (some s)
  | none => k none

/-- Going on with named cards; the first that is missing is the fault. -/
def withCards : List String → (List CardId → Doing) → Doing
  | [], k => k []
  | name :: names, k => withCard name fun c => withCards names fun cs => k (c :: cs)

/-- Going on with the state that a name points at, alive or not. -/
def withWeak (name : String) (k : Option StateId → Doing) : Doing := fun w =>
  match w.find? name with
  | some (.weak s) => k s w
  | _ => missing name w

/-- Going on with a named expression that is no node. -/
def withPlain (name : String) (k : Expression → Doing) : Doing := fun w =>
  match w.find? name with
  | some (.plain e) => k e w
  | _ => missing name w

/-! ## Listeners -/

/-- A listener subscribes to an emitter; its number there. -/
def subscribeTo (emitter : Emitter) (l : ListenerId) (w : World) : World × Nat :=
  match emitter with
  | .state s => w.subscribeState s (.user l)
  | .expr e =>
    (w.onExpr e fun n => { n with listeners := n.listeners.subscribe (.user l) },
      (w.expr e).listeners.next)
  | .set q =>
    (w.onSet q fun n => { n with listeners := n.listeners.subscribe (.user l) },
      (w.set q).listeners.next)
  | .card c =>
    (w.onCard c fun n => { n with listeners := n.listeners.subscribe (.user l) },
      (w.card c).listeners.next)
  | .deck d =>
    (w.onDeck d fun n => { n with listeners := n.listeners.subscribe l },
      (w.deck d).listeners.next)
  | .board b => (w.onBoard b (·.subscribe l), (w.board b).next)

/-- The listener with a number leaves an emitter. -/
def unsubscribeFrom (emitter : Emitter) (number : Nat) (w : World) : World :=
  match emitter with
  | .state s => w.unsubscribeState s number
  | .expr e => w.onExpr e fun n => { n with listeners := n.listeners.remove number }
  | .set q => w.onSet q fun n => { n with listeners := n.listeners.remove number }
  | .card c => w.onCard c fun n => { n with listeners := n.listeners.remove number }
  | .deck d => w.onDeck d fun n => { n with listeners := n.listeners.remove number }
  | .board b => w.onBoard b (·.remove number)

/-- All listeners leave an emitter. -/
def clearListeners (emitter : Emitter) (w : World) : World :=
  match emitter with
  | .state s => w.onStore s fun st => { st with listeners := st.listeners.clear }
  | .expr e => w.onExpr e fun n => { n with listeners := n.listeners.clear }
  | .set q => w.onSet q fun n => { n with listeners := n.listeners.clear }
  | .card c => w.onCard c fun n => { n with listeners := n.listeners.clear }
  | .deck d => w.onDeck d fun n => { n with listeners := n.listeners.clear }
  | .board b => w.onBoard b (·.clear)

/-- **A new listener with a program** subscribes to an emitter. -/
def newListener (emitter : Emitter) (name : String) (program : List Step) (times : Nat)
    (w : World) : World × ListenerId :=
  let l : ListenerId := ⟨w.listeners.size⟩
  let (w, number) := w.subscribeTo emitter l
  ({ w with listeners := w.listeners.add ⟨name, emitter, number, program, times⟩ }, l)

/-! ## Storing and giving up -/

/-- **An object is given up** by the name that it had.  A subscription ends with it, and an open
batch closes; its state stays alive until the batch has closed. -/
def giveUp (react : Reaction) (o : Object) (w : World) : World :=
  match o with
  | .subscription l => w.unsubscribeFrom (w.listener l).emitter (w.listener l).number
  | .handle (.batch s) => w.holding [.state s] (leaveBatch react s)
  | _ => w

/-- **An object is stored under a name**; what was there before is given up after that. -/
def keep (react : Reaction) (name : String) (o : Object) (w : World) : World :=
  let old := w.find? name
  let w := w.put name o
  match old with
  | some o => w.giveUp react o
  | none => w

/-- A name is forgotten and its object given up. -/
def discard (react : Reaction) (name : String) (o : Object) (w : World) : World :=
  (w.erase name).giveUp react o

/-- An object that an operation made is stored. -/
def stored (react : Reaction) (name : String) (o : Object) (w : World) : World × Answer :=
  (w.keep react name o, .stored)

end World

end StoryEngine
