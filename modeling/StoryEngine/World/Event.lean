import StoryEngine.Card.Hash
import StoryEngine.Condition.Error
import StoryEngine.Script.Answer
import StoryEngine.World.Id

/-!
# What happens

Everything that happens in a world is kept in its trace, in order.

* `Payload` — what listeners are called with.
* `Note` — remarks of the engine, each with its `level`, its `message` and its `fields`.
* `Event` — a state changed, a batch opened or closed, a round of notifications, a listener called,
  the answer of a nested step, or a note.
-/

namespace StoryEngine

/-- **What listeners are called with**: by a state its revision, by an expression, a quality set or
a card whether it holds, by a deck its available cards, by a board the message. -/
inductive Payload where
  | revision (n : Nat)
  | truth (b : Bool)
  | cards (cards : List CardId)
  | text (s : String)
  deriving DecidableEq, Repr

/-- How much a note matters. -/
inductive Level where
  | error
  | warn
  | debug
  | trace
  deriving DecidableEq, Repr

/-- The place of a level, the weightiest first. -/
def Level.rank : Level → Nat
  | .error => 0
  | .warn => 1
  | .debug => 2
  | .trace => 3

/-- The name of a level. -/
def Level.name : Level → String
  | .error => "error"
  | .warn => "warn"
  | .debug => "debug"
  | .trace => "trace"

/-- **A remark of the engine.** -/
inductive Note where
  /-- a state notifies its listeners -/
  | stateChanged (s : StateId) (revision listeners : Nat)
  /-- a batch in which a state was changed ends -/
  | flushingBatch (s : StateId) (revision : Nat)
  /-- a text that is no condition was checked -/
  | checkFailed (source : String) (fault : ConditionError)
  /-- a listener broke off -/
  | listenerPanicked (emitter : Emitter) (message : Option String)
  /-- a node had nothing to notify its listeners -/
  | notificationSkipped (kind : NodeKind) (fault : NodeFault)
  | cardBound (hash : CardHash)
  | cardUnbound (hash : CardHash)
  /-- a card stays unbound with its quality set -/
  | setNotBound (hash : CardHash) (fault : NodeFault)
  /-- a deck is bound without one of its cards -/
  | cardSkipped (hash : CardHash) (fault : NodeFault)
  /-- a card that cannot be read is checked instead -/
  | cardChecked (hash : CardHash) (fault : NodeFault)
  | cardsReplaced (cards : Nat)
  | cardAdded (hash : CardHash)
  | cardRemoved (hash : CardHash)
  | cardUpdated (hash : CardHash) (index : Nat)
  | deckBound (cards : Nat)
  | deckUnbound
  | deckDisposed
  deriving DecidableEq, Repr

namespace Note

/-- How much each note matters. -/
def level : Note → Level
  | .stateChanged .. => .trace
  | .flushingBatch .. => .trace
  | .checkFailed .. => .warn
  | .listenerPanicked .. => .error
  | .cardSkipped .. => .warn
  | .cardChecked .. => .warn
  | _ => .debug

/-- What a kind of node is called in the note of a notification that was skipped. -/
def skippedName : NodeKind → String
  | .expression => "expression"
  | .qualitySet => "quality set"
  | .card => "card"
  | .deck => "deck"

/-- The wording of each note. -/
def message : Note → String
  | .stateChanged .. => "state changed"
  | .flushingBatch .. => "flushing batch"
  | .checkFailed _ fault => "expression check failed: " ++ fault.message
  | .listenerPanicked _ message =>
    "listener panicked: " ++ message.getD "non-string panic payload"
  | .notificationSkipped kind fault =>
    "skipping " ++ skippedName kind ++ " notification: " ++ fault.message
  | .cardBound _ => "card bound to state"
  | .cardUnbound _ => "card unbound"
  | .setNotBound _ fault => "quality set not bound: " ++ fault.message
  | .cardSkipped _ fault => "card skipped while binding deck: " ++ fault.message
  | .cardChecked _ fault => "checking unbound card against deck state: " ++ fault.message
  | .cardsReplaced _ => "deck cards replaced"
  | .cardAdded _ => "card added to deck"
  | .cardRemoved _ => "card removed from deck"
  | .cardUpdated .. => "card updated in deck"
  | .deckBound _ => "deck bound to state"
  | .deckUnbound => "deck unbound"
  | .deckDisposed => "deck disposed"

/-- The particulars of each note, as texts. -/
def fields : Note → List (String × String)
  | .stateChanged _ revision listeners =>
    [("revision", toString revision), ("listeners", toString listeners)]
  | .flushingBatch _ revision => [("revision", toString revision)]
  | .checkFailed source _ => [("condition", source)]
  | .listenerPanicked emitter _ => [("emitter", emitter.label)]
  | .notificationSkipped .. => []
  | .cardBound hash => [("hash", hash.text)]
  | .cardUnbound hash => [("hash", hash.text)]
  | .setNotBound hash _ => [("hash", hash.text)]
  | .cardSkipped hash _ => [("hash", hash.text)]
  | .cardChecked hash _ => [("hash", hash.text)]
  | .cardsReplaced cards => [("cards", toString cards)]
  | .cardAdded hash => [("hash", hash.text)]
  | .cardRemoved hash => [("hash", hash.text)]
  | .cardUpdated hash index => [("hash", hash.text), ("index", toString index)]
  | .deckBound cards => [("cards", toString cards)]
  | .deckUnbound => []
  | .deckDisposed => []

end Note

/-- **Something that happens.**  `cause` is the revision of the pulse that set off a round, if it
has one. -/
inductive Event where
  /-- a state comes to a new revision -/
  | changed (s : StateId) (revision : Nat)
  /-- a batch of a state opens -/
  | opened (s : StateId)
  /-- a batch of a state closes -/
  | closed (s : StateId)
  /-- an emitter begins to notify its listeners -/
  | round (emitter : Emitter) (cause : Option Nat) (payload : Payload)
  /-- a listener is called; `contents` are those of the cards in its payload, as they are then -/
  | fired (listener : ListenerId) (payload : Payload) (contents : List String)
  /-- a step inside a listener's program or a batch is done -/
  | nested (runner : String) (answer : Answer)
  /-- the engine makes a remark -/
  | note (n : Note)

end StoryEngine
