import StoryEngine.Node.Kind

/-!
# Identities of objects

Objects of a world are known by their place in the world's tables, one kind of identity for each
kind of object.

* `Handle` — what can be held on to: by a name, or by an operation that is under way.
* `Emitter` — what can be listened to.
-/

namespace StoryEngine

/-- A state. -/
structure StateId where
  place : Nat
  deriving DecidableEq, Repr, Inhabited

/-- An expression. -/
structure ExprId where
  place : Nat
  deriving DecidableEq, Repr, Inhabited

/-- A quality set. -/
structure SetId where
  place : Nat
  deriving DecidableEq, Repr, Inhabited

/-- A card. -/
structure CardId where
  place : Nat
  deriving DecidableEq, Repr, Inhabited

/-- A deck. -/
structure DeckId where
  place : Nat
  deriving DecidableEq, Repr, Inhabited

/-- A board: an emitter of its own, for messages. -/
structure BoardId where
  place : Nat
  deriving DecidableEq, Repr, Inhabited

/-- A subscribed listener with a program. -/
structure ListenerId where
  place : Nat
  deriving DecidableEq, Repr, Inhabited

/-- What can be held on to.  `batch` is an open batch of a state. -/
inductive Handle where
  | state (s : StateId)
  | expr (e : ExprId)
  | set (q : SetId)
  | card (c : CardId)
  | deck (d : DeckId)
  | board (b : BoardId)
  | batch (s : StateId)
  deriving DecidableEq, Repr

/-- What can be listened to. -/
inductive Emitter where
  | state (s : StateId)
  | expr (e : ExprId)
  | set (q : SetId)
  | card (c : CardId)
  | deck (d : DeckId)
  | board (b : BoardId)
  deriving DecidableEq, Repr

/-- A node of any kind. -/
inductive NodeId where
  | expr (e : ExprId)
  | set (q : SetId)
  | card (c : CardId)
  | deck (d : DeckId)
  deriving DecidableEq, Repr

/-- The kind of a node. -/
def NodeId.kind : NodeId → NodeKind
  | .expr _ => .expression
  | .set _ => .qualitySet
  | .card _ => .card
  | .deck _ => .deck

/-- A node as something to listen to. -/
def NodeId.emitter : NodeId → Emitter
  | .expr e => .expr e
  | .set q => .set q
  | .card c => .card c
  | .deck d => .deck d

/-- A node that holds or does not: any but a deck. -/
inductive TruthId where
  | expr (e : ExprId)
  | set (q : SetId)
  | card (c : CardId)
  deriving DecidableEq, Repr

/-! ## What a handle holds on to -/

namespace Handle

/-- The state, if it is one. -/
def state? : Handle → Option StateId
  | .state s => some s
  | _ => none

/-- The expression, if it is one. -/
def expr? : Handle → Option ExprId
  | .expr e => some e
  | _ => none

/-- The quality set, if it is one. -/
def set? : Handle → Option SetId
  | .set q => some q
  | _ => none

/-- The card, if it is one. -/
def card? : Handle → Option CardId
  | .card c => some c
  | _ => none

/-- The deck, if it is one. -/
def deck? : Handle → Option DeckId
  | .deck d => some d
  | _ => none

/-- The board, if it is one. -/
def board? : Handle → Option BoardId
  | .board b => some b
  | _ => none

/-- The node, if it is one. -/
def node? : Handle → Option NodeId
  | .expr e => some (.expr e)
  | .set q => some (.set q)
  | .card c => some (.card c)
  | .deck d => some (.deck d)
  | _ => none

/-- The node that holds or does not, if it is one. -/
def truth? : Handle → Option TruthId
  | .expr e => some (.expr e)
  | .set q => some (.set q)
  | .card c => some (.card c)
  | _ => none

/-- What can be listened to: anything but an open batch. -/
def emitter? : Handle → Option Emitter
  | .state s => some (.state s)
  | .expr e => some (.expr e)
  | .set q => some (.set q)
  | .card c => some (.card c)
  | .deck d => some (.deck d)
  | .board b => some (.board b)
  | .batch _ => none

/-! ### Which handles these are -/

@[simp] theorem state?_eq_some {h : Handle} {s : StateId} : h.state? = some s ↔ h = .state s := by
  cases h <;> simp [state?]

@[simp] theorem expr?_eq_some {h : Handle} {e : ExprId} : h.expr? = some e ↔ h = .expr e := by
  cases h <;> simp [expr?]

@[simp] theorem set?_eq_some {h : Handle} {q : SetId} : h.set? = some q ↔ h = .set q := by
  cases h <;> simp [set?]

@[simp] theorem card?_eq_some {h : Handle} {c : CardId} : h.card? = some c ↔ h = .card c := by
  cases h <;> simp [card?]

@[simp] theorem deck?_eq_some {h : Handle} {d : DeckId} : h.deck? = some d ↔ h = .deck d := by
  cases h <;> simp [deck?]

@[simp] theorem board?_eq_some {h : Handle} {b : BoardId} : h.board? = some b ↔ h = .board b := by
  cases h <;> simp [board?]

end Handle

/-- The name of an emitter in notes. -/
def Emitter.label : Emitter → String
  | .state _ => "state"
  | .expr _ => NodeKind.expression.name
  | .set _ => NodeKind.qualitySet.name
  | .card _ => NodeKind.card.name
  | .deck _ => NodeKind.deck.name
  | .board _ => "custom"

end StoryEngine
