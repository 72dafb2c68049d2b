import StoryEngine.World.Read

/-!
# What can be seen

What can be seen of an object without touching it.  Nothing here changes a world.

* `World.observe` — what can be seen of a named object.
* `World.cardView` — a card as answers show it.
-/

namespace StoryEngine.World

/-- The revision of a state, if there is one. -/
def revisionOf (w : World) : Except NodeFault StateId → Option Nat
  | .ok s => some (w.store s).revision
  | .error _ => none

/-- What can be seen of an expression's cache. -/
def exprStatus (w : World) (e : ExprId) : Cache.Status :=
  (w.expr e).cache.status (w.revisionOf (w.exprState e))

/-- What can be seen of a quality set's cache. -/
def setStatus (w : World) (q : SetId) : Cache.Status :=
  (w.set q).cache.status (w.revisionOf (w.setState q))

/-- What can be seen of a card's cache: that of its quality set, once the card is bound. -/
def cardStatus (w : World) (c : CardId) : Cache.Status :=
  if (w.card c).binding.isNone then .unbound else w.setStatus (w.card c).qualities

/-- Whether a node is bound. -/
def isBound (w : World) : NodeId → Bool
  | .expr e => (w.expr e).binding.isSome
  | .set q => (w.set q).binding.isSome
  | .card c => (w.card c).binding.isSome
  | .deck d => (w.deck d).binding.isSome

/-- Whether a node has been disposed of. -/
def isDisposed (w : World) : NodeId → Bool
  | .expr e => (w.expr e).disposed
  | .set q => (w.set q).disposed
  | .card c => (w.card c).disposed
  | .deck d => (w.deck d).disposed

/-- What can be seen of any node. -/
def nodeView (w : World) (n : NodeId) : NodeView :=
  ⟨w.isBound n, w.isDisposed n, w.listenerCount n.emitter⟩

/-- The conditions of a card. -/
def cardConditions (w : World) (c : CardId) : List String :=
  w.conditions (w.card c).qualities

/-- The contents of a deck's cards. -/
def deckContents (w : World) (d : DeckId) : List String :=
  (w.deck d).cards.map fun c => (w.card c).content

/-- What can be seen of what is held on to. -/
def observeHandle (w : World) : Handle → Observation
  | .state s =>
    let st := w.store s
    .state st.revision st.contents.length (w.listenerCount (.state s)) (0 < st.openBatches)
  | .expr e => .expr (w.nodeView (.expr e)) (w.expr e).expression.source (w.exprStatus e)
  | .set q => .set (w.nodeView (.set q)) (w.conditions q) (w.setStatus q)
  | .card c =>
    .card (w.nodeView (.card c)) (w.card c).content (w.cardConditions c) (w.cardStatus c)
  | .deck d => .deck (w.nodeView (.deck d)) (w.deckContents d)
  | .board b => .board (w.listenerCount (.board b))
  | .batch _ => .batch

/-- Whether a state that is pointed at is alive. -/
def weakAlive (w : World) (s : Option StateId) : Bool :=
  s.any w.stateAlive

/-- What can be seen of an object. -/
def observeObject (w : World) : Object → Observation
  | .handle h => w.observeHandle h
  | .weak s => .weak (w.weakAlive s)
  | .plain e => .plain e.source e.isValid
  | .subscription _ => .subscription

/-- **What can be seen of a named object**, if there is one. -/
def observe (w : World) (name : String) : Option Observation :=
  (w.find? name).map w.observeObject

/-- **A card as answers show it.** -/
def cardView (w : World) (c : CardId) : CardView :=
  ⟨w.firstName? (.card c), (w.card c).content, (w.card c).hash.text⟩

end StoryEngine.World
