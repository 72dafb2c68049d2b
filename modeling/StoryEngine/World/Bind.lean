import StoryEngine.World.Notify

/-!
# Binding and disposing of nodes

Binding an aggregate binds what it owns first, and then itself; a node that is bound already is
released first.  Disposing of a node releases it, disposes of what it owns, and drops all its
listeners for good.

* `World.unbindExpr`, `World.attachExpr`, `World.bindExpr`, `World.disposeExpr`, and the same for
  quality sets, cards and decks.  To attach a node does not ask whether it has been disposed of; to
  bind it does.
-/

namespace StoryEngine.World

/-! ## Subscriptions among nodes -/

/-- A listener subscribes to a state; its number there. -/
def subscribeState (s : StateId) (l : StateListener) (w : World) : World × Nat :=
  (w.onStore s fun st => { st with listeners := st.listeners.subscribe l },
    (w.store s).listeners.next)

/-- A subscription to a state ends. -/
def unsubscribeState (s : StateId) (number : Nat) (w : World) : World :=
  w.onStore s fun st => { st with listeners := st.listeners.remove number }

/-- A binding ends, and its subscription with it. -/
def release (binding : Option Binding) (w : World) : World :=
  match binding with
  | some b => w.unsubscribeState b.state b.number
  | none => w

/-! ## Expressions -/

/-- **An expression is released** from its state. -/
def unbindExpr (e : ExprId) (w : World) : World :=
  (w.release (w.expr e).binding).onExpr e fun n => { n with binding := none, cache := .unbound }

/-- An expression is attached to a state. -/
def attachExpr (e : ExprId) (s : StateId) (w : World) : World :=
  let (w, number) := (w.unbindExpr e).subscribeState s (.expr e)
  w.onExpr e fun n => { n with binding := some ⟨s, number⟩, cache := .dirty, gate := .fresh }

/-- **An expression is bound to a state.** -/
def bindExpr (e : ExprId) (s : StateId) (w : World) : World × Except NodeFault Unit :=
  if (w.expr e).disposed then (w, .error (.disposed .expression))
  else (w.attachExpr e s, .ok ())

/-- **An expression is disposed of.** -/
def disposeExpr (e : ExprId) (w : World) : World :=
  (w.unbindExpr e).onExpr e fun n => { n with listeners := n.listeners.clear, disposed := true }

/-! ## Quality sets -/

/-- The set's subscription to a member ends. -/
def forgetMember (m : Member) (w : World) : World :=
  w.onExpr m.expr fun n => { n with listeners := n.listeners.remove m.number }

/-- Every expression of a list is released. -/
def unbindExprs (es : List ExprId) (w : World) : World :=
  es.foldl (fun w e => w.unbindExpr e) w

/-- Every expression of a list is attached to a state. -/
def attachExprs (es : List ExprId) (s : StateId) (w : World) : World :=
  es.foldl (fun w e => w.attachExpr e s) w

/-- **A quality set is released**, and its members with it. -/
def unbindSet (q : SetId) (w : World) : World :=
  let w := (w.release (w.set q).binding).onSet q fun n => { n with binding := none }
  (w.unbindExprs (w.members q)).onSet q fun n => { n with cache := .unbound }

/-- A quality set is attached to a state, after its members. -/
def attachSet (q : SetId) (s : StateId) (w : World) : World :=
  let w := w.unbindSet q
  let (w, number) := (w.attachExprs (w.members q) s).subscribeState s (.set q)
  w.onSet q fun n => { n with binding := some ⟨s, number⟩, cache := .dirty, gate := .fresh }

/-- **A quality set is bound to a state.** -/
def bindSet (q : SetId) (s : StateId) (w : World) : World × Except NodeFault Unit :=
  if (w.set q).disposed then (w, .error (.disposed .qualitySet))
  else (w.attachSet q s, .ok ())

/-- **A quality set is disposed of**, and its members with it; it is empty from then on. -/
def disposeSet (q : SetId) (w : World) : World :=
  let w := w.unbindSet q
  let members := (w.set q).members
  let w := w.onSet q fun n => { n with members := [] }
  let w := members.foldl (fun w m => w.disposeExpr m.expr) w
  let w := members.foldl (fun w m => w.forgetMember m) w
  w.onSet q fun n => { n with listeners := n.listeners.clear, disposed := true }

/-! ## Cards -/

/-- **A card is released**, and its quality set with it. -/
def unbindCard (c : CardId) (w : World) : World :=
  let w :=
    if (w.card c).binding.isSome then
      (w.onCard c fun n => { n with binding := none }).note (.cardUnbound (w.card c).hash)
    else w
  w.unbindSet (w.card c).qualities

/-- A card is attached to a state, after its quality set.  Should the set refuse, because it was
disposed of on its own, the card stays unbound. -/
def attachCard (c : CardId) (s : StateId) (w : World) : World :=
  let w := w.unbindCard c
  let hash := (w.card c).hash
  match w.bindSet (w.card c).qualities s with
  | (w, .error fault) => w.note (.setNotBound hash fault)
  | (w, .ok ()) =>
    (w.onCard c fun n => { n with binding := some s, gate := .fresh }).note (.cardBound hash)

/-- **A card is bound to a state.** -/
def bindCard (c : CardId) (s : StateId) (w : World) : World × Except NodeFault Unit :=
  if (w.card c).disposed then (w, .error (.disposed .card))
  else (w.attachCard c s, .ok ())

/-- **A card is disposed of**, and its quality set with it. -/
def disposeCard (c : CardId) (w : World) : World :=
  let w := w.unbindCard c
  (w.disposeSet (w.card c).qualities).onCard c fun n =>
    { n with listeners := n.listeners.clear, disposed := true }

/-! ## Decks -/

/-- A deck subscribes to a card; the place for it in the deck. -/
def enterCard (d : DeckId) (c : CardId) (w : World) : World × Entry :=
  (w.onCard c fun n => { n with listeners := n.listeners.subscribe (.owner d) },
    ⟨c, (w.card c).listeners.next⟩)

/-- The deck's subscription to a card ends. -/
def forgetEntry (entry : Entry) (w : World) : World :=
  w.onCard entry.card fun n => { n with listeners := n.listeners.remove entry.number }

/-- A deck binds one of its cards; a card that refuses is remarked on and left. -/
def bindOrSkip (s : StateId) (w : World) (c : CardId) : World :=
  match w.bindCard c s with
  | (w, .ok ()) => w
  | (w, .error fault) => w.note (.cardSkipped (w.card c).hash fault)

/-- **A deck is released**, and its cards with it. -/
def unbindDeck (d : DeckId) (w : World) : World :=
  let w :=
    if (w.deck d).binding.isSome then
      ((w.release (w.deck d).binding).onDeck d fun n => { n with binding := none }).note
        .deckUnbound
    else w
  (w.deck d).cards.foldl (fun w c => w.unbindCard c) w

/-- A deck is attached to a state, after its cards. -/
def attachDeck (d : DeckId) (s : StateId) (w : World) : World :=
  let w := w.unbindDeck d
  let cards := (w.deck d).cards
  let (w, number) := (cards.foldl (bindOrSkip s) w).subscribeState s (.deck d)
  (w.onDeck d fun n => { n with binding := some ⟨s, number⟩, gate := .fresh }).note
    (.deckBound cards.length)

/-- **A deck is bound to a state.** -/
def bindDeck (d : DeckId) (s : StateId) (w : World) : World × Except NodeFault Unit :=
  if (w.deck d).disposed then (w, .error (.disposed .deck))
  else (w.attachDeck d s, .ok ())

/-- **A deck is disposed of**, and its cards with it; it is empty from then on. -/
def disposeDeck (d : DeckId) (w : World) : World :=
  let w := w.unbindDeck d
  let entries := (w.deck d).entries
  let w := w.onDeck d fun n => { n with entries := [] }
  let w := entries.foldl (fun w entry => w.disposeCard entry.card) w
  let w := entries.foldl (fun w entry => w.forgetEntry entry) w
  (w.onDeck d fun n => { n with listeners := n.listeners.clear, disposed := true }).note
    .deckDisposed

end StoryEngine.World
