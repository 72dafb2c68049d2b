import StoryEngine.World.Edit
import StoryEngine.World.Observe

/-!
# Nodes of any kind

All nodes go through the same stages: they are bound, read, released and in the end disposed of.
Here each stage is one operation on a node of whatever kind.

* `World.bindNode`, `World.unbindNode`, `World.disposeNode` — the stages of a node's life.
* `World.invalidateNode`, `World.pushNode` — a node invalidates its cache; it notifies its
  listeners.
* `World.truthResult`, `World.truthCheck`, `World.truthStatus` — reading a node that holds or does
  not.
-/

namespace StoryEngine.World

/-- **A node is bound to a state.** -/
def bindNode (n : NodeId) (s : StateId) (w : World) : World × Except NodeFault Unit :=
  match n with
  | .expr e => w.bindExpr e s
  | .set q => w.bindSet q s
  | .card c => w.bindCard c s
  | .deck d => w.bindDeck d s

/-- **A node is released.** -/
def unbindNode (n : NodeId) (w : World) : World :=
  match n with
  | .expr e => w.unbindExpr e
  | .set q => w.unbindSet q
  | .card c => w.unbindCard c
  | .deck d => w.unbindDeck d

/-- A deck forgets the results of its cards. -/
def invalidateDeck (d : DeckId) (w : World) : World :=
  (w.deck d).cards.foldl (fun w c => w.invalidateSet (w.card c).qualities) w

/-- A node invalidates its cache. -/
def invalidateNode (n : NodeId) (w : World) : World :=
  match n with
  | .expr e => w.invalidateExpr e
  | .set q => w.invalidateSet q
  | .card c => w.invalidateSet (w.card c).qualities
  | .deck d => w.invalidateDeck d

/-- **A node notifies its listeners.** -/
def pushNode (react : Reaction) (n : NodeId) (cause : Option Nat) (w : World) : World :=
  match n with
  | .expr e => w.pushExpr react e cause
  | .set q => w.pushSet react q cause
  | .card c => w.pushCard react c cause
  | .deck d => w.pushDeck react d cause

/-- **A node is disposed of.** -/
def disposeNode (n : NodeId) (w : World) : World :=
  match n with
  | .expr e => w.disposeExpr e
  | .set q => w.disposeSet q
  | .card c => w.disposeCard c
  | .deck d => w.disposeDeck d

/-- What can be seen of a node's cache. -/
def truthStatus (w : World) : TruthId → Cache.Status
  | .expr e => w.exprStatus e
  | .set q => w.setStatus q
  | .card c => w.cardStatus c

/-- **The result of a node** at its state. -/
def truthResult (n : TruthId) (w : World) : World × Except NodeFault Bool :=
  match n with
  | .expr e => w.exprResult e
  | .set q => w.setResult q
  | .card c => w.cardResult c

/-- **The check of a node** against a given state. -/
def truthCheck (n : TruthId) (s : StateId) (w : World) : World × Bool :=
  match n with
  | .expr e => w.exprCheck e s
  | .set q => w.setCheck q s
  | .card c => w.cardCheck c s

end StoryEngine.World
