import StoryEngine.World.Basic

/-!
# What is alive

An object is alive as long as something holds on to it.  Names do, operations under way do, and
nodes do what they own: decks their cards, cards their quality sets, sets their members.  A state
is held by its names, by its open batches and by operations, but not by the nodes bound to it.

* `World.isRooted` — held by a name or an operation.
* `World.stateAlive`, `World.deckAlive`, `World.cardAlive`, `World.setAlive`, `World.exprAlive`.
* `World.stateEntries` and its like — the listeners of an emitter that can still be called.  A node
  that is no longer alive has given up its subscriptions.
* `World.listenerCount` — how many there are.
-/

namespace StoryEngine.World

/-- Whether a name or an operation under way holds on to a handle. -/
def isRooted (w : World) (h : Handle) : Bool :=
  w.held.contains h || w.names.any fun (_, o) => o.handle? == some h

/-- **Whether a state is alive.** -/
def stateAlive (w : World) (s : StateId) : Bool :=
  w.isRooted (.state s) || w.isRooted (.batch s)

/-- Whether a deck is alive.  Nothing owns decks. -/
def deckAlive (w : World) (d : DeckId) : Bool :=
  w.isRooted (.deck d)

/-- Whether a card is alive: held, or in a deck that is alive. -/
def cardAlive (w : World) (c : CardId) : Bool :=
  w.isRooted (.card c) ||
    w.decks.places.any fun (deck, place) => deck.cards.contains c && w.deckAlive ⟨place⟩

/-- Whether a quality set is alive: held, or that of a card that is alive. -/
def setAlive (w : World) (q : SetId) : Bool :=
  w.isRooted (.set q) ||
    w.cards.places.any fun (card, place) => card.qualities == q && w.cardAlive ⟨place⟩

/-- Whether an expression is alive: held, or a member of a set that is alive. -/
def exprAlive (w : World) (e : ExprId) : Bool :=
  w.isRooted (.expr e) ||
    w.sets.places.any fun (set, place) =>
      set.members.any (fun m => m.expr == e) && w.setAlive ⟨place⟩

/-! ## Who can still be called -/

/-- Whether a state's listener can still be called. -/
def stateListenerAlive (w : World) : StateListener → Bool
  | .user _ => true
  | .expr e => w.exprAlive e
  | .set q => w.setAlive q
  | .deck d => w.deckAlive d

/-- Whether an expression's listener can still be called. -/
def exprListenerAlive (w : World) : ExprListener → Bool
  | .user _ => true
  | .owner q => w.setAlive q

/-- Whether a quality set's listener can still be called. -/
def setListenerAlive (w : World) : SetListener → Bool
  | .user _ => true
  | .owner c => w.cardAlive c

/-- Whether a card's listener can still be called. -/
def cardListenerAlive (w : World) : CardListener → Bool
  | .user _ => true
  | .owner d => w.deckAlive d

/-- The listeners of a state that can still be called, in order, with their numbers. -/
def stateEntries (w : World) (s : StateId) : List (Nat × StateListener) :=
  (w.store s).listeners.entries.filter fun entry => w.stateListenerAlive entry.2

/-- The listeners of an expression that can still be called. -/
def exprEntries (w : World) (e : ExprId) : List (Nat × ExprListener) :=
  (w.expr e).listeners.entries.filter fun entry => w.exprListenerAlive entry.2

/-- The listeners of a quality set that can still be called. -/
def setEntries (w : World) (q : SetId) : List (Nat × SetListener) :=
  (w.set q).listeners.entries.filter fun entry => w.setListenerAlive entry.2

/-- The listeners of a card that can still be called. -/
def cardEntries (w : World) (c : CardId) : List (Nat × CardListener) :=
  (w.card c).listeners.entries.filter fun entry => w.cardListenerAlive entry.2

/-- The listeners of a deck. -/
def deckEntries (w : World) (d : DeckId) : List (Nat × ListenerId) :=
  (w.deck d).listeners.entries

/-- The listeners of a board. -/
def boardEntries (w : World) (b : BoardId) : List (Nat × ListenerId) :=
  (w.board b).entries

/-- **The number of listeners of an emitter.** -/
def listenerCount (w : World) : Emitter → Nat
  | .state s => (w.stateEntries s).length
  | .expr e => (w.exprEntries e).length
  | .set q => (w.setEntries q).length
  | .card c => (w.cardEntries c).length
  | .deck d => (w.deckEntries d).length
  | .board b => (w.boardEntries b).length

end StoryEngine.World
