import StoryEngine.Deck.Config
import StoryEngine.Expression
import StoryEngine.Node.Cache
import StoryEngine.Node.Gate
import StoryEngine.Script.Step
import StoryEngine.World.Event
import StoryEngine.World.Store
import StoryEngine.World.Table

/-!
# Worlds

A world is all that a script works on: states, the nodes that watch them, listeners, names, and the
trace of what happened.

* `ExprNode`, `SetNode`, `CardNode`, `DeckNode` — the nodes.  A deck owns its cards, a card its
  quality set, a set its expressions; each listens to what it owns.
* `Listener` — a subscribed listener, with the program it runs the first times it is called.
* `World` — everything together.
* `World.store`, `World.onStore` and their like — an object by its identity, and a change of it.
* `World.find?`, `World.put`, `World.erase` — the names.
* `World.holding` — an operation during which some objects are held on to.
-/

namespace StoryEngine

/-! ## Nodes -/

/-- Who listens to an expression: the quality set it belongs to, and subscribed listeners. -/
inductive ExprListener where
  | user (l : ListenerId)
  | owner (q : SetId)
  deriving DecidableEq, Repr

/-- Who listens to a quality set: the card it belongs to, and subscribed listeners. -/
inductive SetListener where
  | user (l : ListenerId)
  | owner (c : CardId)
  deriving DecidableEq, Repr

/-- Who listens to a card: the decks it is in, once for each place, and subscribed listeners. -/
inductive CardListener where
  | user (l : ListenerId)
  | owner (d : DeckId)
  deriving DecidableEq, Repr

/-- The state that a node is bound to, and the number of the node's subscription there. -/
structure Binding where
  state : StateId
  number : Nat
  deriving DecidableEq, Repr

/-- An expression that keeps its result. -/
structure ExprNode where
  expression : Expression
  binding : Option Binding
  cache : Cache
  gate : Gate
  listeners : Registry ExprListener
  disposed : Bool

/-- A new expression, not bound. -/
def ExprNode.new (cond : String) : ExprNode :=
  ⟨.new cond, none, .unbound, .fresh, .empty, false⟩

instance : Inhabited ExprNode := ⟨.new ""⟩

/-- A member of a quality set, and the number of the set's subscription there. -/
structure Member where
  expr : ExprId
  number : Nat
  deriving DecidableEq, Repr

/-- A quality set: expressions that all have to hold. -/
structure SetNode where
  members : List Member
  binding : Option Binding
  cache : Cache
  gate : Gate
  listeners : Registry SetListener
  disposed : Bool

/-- A new quality set, empty and not bound. -/
def SetNode.new : SetNode :=
  ⟨[], none, .unbound, .fresh, .empty, false⟩

instance : Inhabited SetNode := ⟨.new⟩

/-- A card: a piece of content, on offer while its qualities hold.  It watches its state through
its quality set, so its binding has no subscription of its own; `number` is the card's subscription
to its quality set. -/
structure CardNode where
  hash : CardHash
  content : String
  qualities : SetId
  number : Nat
  binding : Option StateId
  gate : Gate
  listeners : Registry CardListener
  disposed : Bool
  deriving Inhabited

/-- A place in a deck: a card, and the number of the deck's subscription to it. -/
structure Entry where
  card : CardId
  number : Nat
  deriving DecidableEq, Repr

/-- A deck: cards in order, with a generator to shuffle and draw by. -/
structure DeckNode where
  entries : List Entry
  binding : Option Binding
  generator : Random.Generator
  gate : Gate
  listeners : Registry ListenerId
  disposed : Bool

/-- A new deck without cards, not bound. -/
def DeckNode.new (generator : Random.Generator) : DeckNode :=
  ⟨[], none, generator, .fresh, .empty, false⟩

instance : Inhabited DeckNode := ⟨.new default⟩

/-- The cards of a deck, in order. -/
def DeckNode.cards (d : DeckNode) : List CardId :=
  d.entries.map (·.card)

/-! ## Listeners and names -/

/-- A subscribed listener: its name, what it listens to and under which number, and the steps that
it still runs `remaining` times. -/
structure Listener where
  name : String
  emitter : Emitter
  number : Nat
  program : List Step
  remaining : Nat

instance : Inhabited Listener := ⟨⟨"", .board default, 0, [], 0⟩⟩

/-- What a name can stand for: something that is held on to, a state that is only pointed at, an
expression that is no node, or a subscription. -/
inductive Object where
  | handle (h : Handle)
  | weak (s : Option StateId)
  | plain (e : Expression)
  | subscription (l : ListenerId)

/-- What an object holds on to. -/
def Object.handle? : Object → Option Handle
  | .handle h => some h
  | _ => none

/-! ## Worlds -/

/-- **A world.**  `held` are the objects that operations under way hold on to, and `trace` is what
happened, the latest first. -/
structure World where
  stores : Table Store
  exprs : Table ExprNode
  sets : Table SetNode
  cards : Table CardNode
  decks : Table DeckNode
  boards : Table (Registry ListenerId)
  listeners : Table Listener
  names : List (String × Object)
  held : List Handle
  trace : List Event

namespace World

/-- A world in which there is nothing and nothing has happened. -/
def empty : World :=
  ⟨default, default, default, default, default, default, default, [], [], []⟩

instance : Inhabited World := ⟨empty⟩

/-! ### Objects by their identity -/

/-- A state. -/
def store (w : World) (s : StateId) : Store := w.stores.get s.place

/-- An expression. -/
def expr (w : World) (e : ExprId) : ExprNode := w.exprs.get e.place

/-- A quality set. -/
def set (w : World) (q : SetId) : SetNode := w.sets.get q.place

/-- A card. -/
def card (w : World) (c : CardId) : CardNode := w.cards.get c.place

/-- A deck. -/
def deck (w : World) (d : DeckId) : DeckNode := w.decks.get d.place

/-- A board. -/
def board (w : World) (b : BoardId) : Registry ListenerId := w.boards.get b.place

/-- A subscribed listener. -/
def listener (w : World) (l : ListenerId) : Listener := w.listeners.get l.place

/-- A change of a state. -/
def onStore (s : StateId) (f : Store → Store) (w : World) : World :=
  { w with stores := w.stores.modify s.place f }

/-- A change of an expression. -/
def onExpr (e : ExprId) (f : ExprNode → ExprNode) (w : World) : World :=
  { w with exprs := w.exprs.modify e.place f }

/-- A change of a quality set. -/
def onSet (q : SetId) (f : SetNode → SetNode) (w : World) : World :=
  { w with sets := w.sets.modify q.place f }

/-- A change of a card. -/
def onCard (c : CardId) (f : CardNode → CardNode) (w : World) : World :=
  { w with cards := w.cards.modify c.place f }

/-- A change of a deck. -/
def onDeck (d : DeckId) (f : DeckNode → DeckNode) (w : World) : World :=
  { w with decks := w.decks.modify d.place f }

/-- A change of a board. -/
def onBoard (b : BoardId) (f : Registry ListenerId → Registry ListenerId) (w : World) : World :=
  { w with boards := w.boards.modify b.place f }

/-- A change of a subscribed listener. -/
def onListener (l : ListenerId) (f : Listener → Listener) (w : World) : World :=
  { w with listeners := w.listeners.modify l.place f }

/-! ### Reading after a change

An object is read as changed if it is the one that was changed, and as before otherwise.  Objects
of other kinds are not touched at all.
-/

theorem store_onStore (w : World) (s other : StateId) (f : Store → Store) :
    (w.onStore s f).store other = if s = other then f (w.store other) else w.store other := by
  cases s
  cases other
  simp [store, onStore, Table.get_modify]

theorem expr_onExpr (w : World) (e other : ExprId) (f : ExprNode → ExprNode) :
    (w.onExpr e f).expr other = if e = other then f (w.expr other) else w.expr other := by
  cases e
  cases other
  simp [expr, onExpr, Table.get_modify]

theorem set_onSet (w : World) (q other : SetId) (f : SetNode → SetNode) :
    (w.onSet q f).set other = if q = other then f (w.set other) else w.set other := by
  cases q
  cases other
  simp [set, onSet, Table.get_modify]

theorem card_onCard (w : World) (c other : CardId) (f : CardNode → CardNode) :
    (w.onCard c f).card other = if c = other then f (w.card other) else w.card other := by
  cases c
  cases other
  simp [card, onCard, Table.get_modify]

theorem deck_onDeck (w : World) (d other : DeckId) (f : DeckNode → DeckNode) :
    (w.onDeck d f).deck other = if d = other then f (w.deck other) else w.deck other := by
  cases d
  cases other
  simp [deck, onDeck, Table.get_modify]

theorem board_onBoard (w : World) (b other : BoardId)
    (f : Registry ListenerId → Registry ListenerId) :
    (w.onBoard b f).board other = if b = other then f (w.board other) else w.board other := by
  cases b
  cases other
  simp [board, onBoard, Table.get_modify]

theorem listener_onListener (w : World) (l other : ListenerId) (f : Listener → Listener) :
    (w.onListener l f).listener other =
      if l = other then f (w.listener other) else w.listener other := by
  cases l
  cases other
  simp [listener, onListener, Table.get_modify]

/-! ### The trace -/

/-- Something happens. -/
def record (event : Event) (w : World) : World :=
  { w with trace := event :: w.trace }

/-- The engine makes a remark. -/
def note (n : Note) (w : World) : World :=
  w.record (.note n)

/-! ### Names -/

/-- The object of a name. -/
def find? (w : World) (name : String) : Option Object :=
  w.names.lookup name

/-- A name gets an object, whatever it stood for before. -/
def put (name : String) (o : Object) (w : World) : World :=
  { w with names := (name, o) :: w.names.filter (·.1 != name) }

/-- A name is forgotten. -/
def erase (name : String) (w : World) : World :=
  { w with names := w.names.filter (·.1 != name) }

/-- The first name, in order of characters, of the object with a handle. -/
def firstName? (w : World) (h : Handle) : Option String :=
  (w.names.filterMap fun (name, o) => if o.handle? = some h then some name else none).foldl
    (fun least name =>
      match least with
      | none => some name
      | some best => some (if name < best then name else best))
    none

/-! ### Holding on -/

/-- Some objects are held on to. -/
def hold (handles : List Handle) (w : World) : World :=
  { w with held := handles ++ w.held }

/-- **An operation during which some objects are held on to.**  What was held before is held again
after it. -/
def holding (handles : List Handle) (op : World → World) (w : World) : World :=
  { op (w.hold handles) with held := w.held }

/-- The same for an operation with an outcome. -/
def holdingFor {α : Type} (handles : List Handle) (op : World → World × α) (w : World) :
    World × α :=
  let (after, a) := op (w.hold handles)
  ({ after with held := w.held }, a)

end World

end StoryEngine
