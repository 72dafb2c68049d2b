/-!
# Kinds of nodes, and what can be wrong with one

The nodes of a story are expressions, quality sets, cards and decks.  Each can be bound to a state
and can be disposed of, so each can be used too early or too late.

* `NodeKind` — the four kinds.
* `NodeFault` — the node has no state, its state is gone, or it has been disposed of.
-/

namespace StoryEngine

/-- The kinds of nodes. -/
inductive NodeKind where
  | expression
  | qualitySet
  | card
  | deck
  deriving DecidableEq, Repr

/-- The name of a kind. -/
def NodeKind.name : NodeKind → String
  | .expression => "ReactiveExpression"
  | .qualitySet => "ReactiveQualitySet"
  | .card => "ReactiveCard"
  | .deck => "ReactiveDeck"

/-- Why a node cannot do what it is asked to. -/
inductive NodeFault where
  | unbound (kind : NodeKind)
  | stateDropped (kind : NodeKind)
  | disposed (kind : NodeKind)
  deriving DecidableEq, Repr

namespace NodeFault

/-- The kind of node at fault. -/
def kind : NodeFault → NodeKind
  | .unbound kind => kind
  | .stateDropped kind => kind
  | .disposed kind => kind

/-- Whether the fault lies in the binding. -/
def isBinding : NodeFault → Bool
  | .unbound _ => true
  | .stateDropped _ => true
  | .disposed _ => false

/-- The wording of each fault. -/
def message : NodeFault → String
  | .unbound kind => kind.name ++ " must be bound to a state"
  | .stateDropped kind => kind.name ++ " is bound to a state that no longer exists"
  | .disposed kind => kind.name ++ " has been disposed"

/-- The name of each fault. -/
def name : NodeFault → String
  | .unbound _ => "Unbound"
  | .stateDropped _ => "StateDropped"
  | .disposed _ => "Disposed"

end NodeFault

end StoryEngine
