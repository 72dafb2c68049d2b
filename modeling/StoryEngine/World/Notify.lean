import StoryEngine.World.Read

/-!
# Notifying listeners

Changes are pushed upwards: from a state to the nodes bound to it, from an expression to its quality
set, from there to its card, and from there to the decks that hold the card.  Each of these
notifies its subscribed listeners too.

* `Reaction` — what a subscribed listener does to the world when it is called.
* `World.round` — one round over the listeners of an emitter.
* `World.pushDeck`, `World.pushCard`, `World.pushSet`, `World.pushExpr` — a node notifies its
  listeners of its present result, if it is bound and has listeners.
* `World.deckOnChange`, `World.cardOnChange`, `World.setOnChange`, `World.exprOnChange` — a pulse
  reaches a node; its gate decides whether the node pushes.
* `World.flush` — a state notifies its listeners.

What a node passes on to the nodes above it is a pulse.  The `cause` of a pulse is the revision of
the state whose change it is about, or nothing if the change is structural: an edit of some node.

Each emitter only ever calls the nodes above it, so the engine alone always comes to an end.  What
the listeners do is a parameter, so everything said here holds whatever they do.
-/

namespace StoryEngine

/-- **What a subscribed listener does when it is called.**  A listener that breaks off has already
been dealt with in it. -/
abbrev Reaction := ListenerId → Payload → World → World

namespace World

/-! ## Rounds -/

/-- **One round over the listeners of an emitter.**  It goes over those there are at its beginning,
in order, and calls each one that is still there when its turn comes. -/
def round {α : Type} (entries : World → List (Nat × α)) (isActive : World → Nat × α → Bool)
    (call : α → World → World) (w : World) : World :=
  (entries w).foldl (fun w entry => if isActive w entry then call entry.2 w else w) w

/-- A round begins. -/
def announce (emitter : Emitter) (cause : Option Nat) (payload : Payload) (w : World) : World :=
  w.record (.round emitter cause payload)

/-! ## Decks -/

/-- Whether a deck's listener is still there. -/
def deckActive (d : DeckId) (w : World) (entry : Nat × ListenerId) : Bool :=
  (w.deck d).listeners.has entry.1

/-- A deck notifies its listeners of which cards are on offer. -/
def notifyDeck (react : Reaction) (d : DeckId) (cause : Option Nat) (cards : List CardId)
    (w : World) : World :=
  (w.announce (.deck d) cause (.cards cards)).round (·.deckEntries d) (deckActive d) fun l =>
    react l (.cards cards)

/-- **A deck pushes**, if it is bound and has listeners.  The cards on offer are held on to until
all listeners have been called. -/
def pushDeck (react : Reaction) (d : DeckId) (cause : Option Nat) (w : World) : World :=
  if (w.deckEntries d).isEmpty || (w.deck d).binding.isNone then w
  else
    match w.availableCards d with
    | (w, .ok cards) => w.holding (cards.map .card) (notifyDeck react d cause cards)
    | (w, .error fault) => w.note (.notificationSkipped .deck fault)

/-- **A pulse reaches a deck**, from its state or from one of its cards. -/
def deckOnChange (react : Reaction) (d : DeckId) (cause : Option Nat) (w : World) : World :=
  if (w.deck d).gate.admits cause then
    (w.onDeck d fun n => { n with gate := n.gate.after cause }).pushDeck react d cause
  else w

/-! ## Cards -/

/-- A card's listener is called. -/
def callCard (react : Reaction) (value : Bool) (cause : Option Nat) : CardListener → World → World
  | .user l, w => react l (.truth value) w
  | .owner d, w => w.holding [.deck d] (deckOnChange react d cause)

/-- Whether a card's listener is still there. -/
def cardActive (c : CardId) (w : World) (entry : Nat × CardListener) : Bool :=
  (w.card c).listeners.has entry.1 && w.cardListenerAlive entry.2

/-- A card notifies its listeners of whether it is on offer. -/
def notifyCard (react : Reaction) (c : CardId) (cause : Option Nat) (value : Bool) (w : World) :
    World :=
  (w.announce (.card c) cause (.truth value)).round (·.cardEntries c) (cardActive c)
    (callCard react value cause)

/-- **A card pushes**, if it is bound and has listeners. -/
def pushCard (react : Reaction) (c : CardId) (cause : Option Nat) (w : World) : World :=
  if (w.cardEntries c).isEmpty || (w.card c).binding.isNone then w
  else
    match w.cardResult c with
    | (w, .ok value) => w.notifyCard react c cause value
    | (w, .error fault) => w.note (.notificationSkipped .card fault)

/-- **A pulse reaches a card** from its quality set. -/
def cardOnChange (react : Reaction) (c : CardId) (cause : Option Nat) (w : World) : World :=
  if (w.card c).gate.admits cause then
    (w.onCard c fun n => { n with gate := n.gate.after cause }).pushCard react c cause
  else w

/-! ## Quality sets -/

/-- A quality set's listener is called. -/
def callSet (react : Reaction) (value : Bool) (cause : Option Nat) : SetListener → World → World
  | .user l, w => react l (.truth value) w
  | .owner c, w => w.holding [.card c] (cardOnChange react c cause)

/-- Whether a quality set's listener is still there. -/
def setActive (q : SetId) (w : World) (entry : Nat × SetListener) : Bool :=
  (w.set q).listeners.has entry.1 && w.setListenerAlive entry.2

/-- A quality set notifies its listeners of whether it holds. -/
def notifySet (react : Reaction) (q : SetId) (cause : Option Nat) (value : Bool) (w : World) :
    World :=
  (w.announce (.set q) cause (.truth value)).round (·.setEntries q) (setActive q)
    (callSet react value cause)

/-- **A quality set pushes**, if it is bound and has listeners. -/
def pushSet (react : Reaction) (q : SetId) (cause : Option Nat) (w : World) : World :=
  if (w.setEntries q).isEmpty || (w.set q).binding.isNone then w
  else
    match w.setResult q with
    | (w, .ok value) => w.notifySet react q cause value
    | (w, .error fault) => w.note (.notificationSkipped .qualitySet fault)

/-- A quality set invalidates its cache. -/
def invalidateSet (q : SetId) (w : World) : World :=
  w.onSet q fun n => { n with cache := n.cache.invalidate }

/-- **A pulse reaches a quality set**, from its state or from one of its members.  Its cache is
invalidated whether or not its gate admits the pulse. -/
def setOnChange (react : Reaction) (q : SetId) (cause : Option Nat) (w : World) : World :=
  let w := w.invalidateSet q
  if (w.set q).gate.admits cause then
    (w.onSet q fun n => { n with gate := n.gate.after cause }).pushSet react q cause
  else w

/-! ## Expressions -/

/-- An expression's listener is called. -/
def callExpr (react : Reaction) (value : Bool) (cause : Option Nat) : ExprListener → World → World
  | .user l, w => react l (.truth value) w
  | .owner q, w => w.holding [.set q] (setOnChange react q cause)

/-- Whether an expression's listener is still there. -/
def exprActive (e : ExprId) (w : World) (entry : Nat × ExprListener) : Bool :=
  (w.expr e).listeners.has entry.1 && w.exprListenerAlive entry.2

/-- An expression notifies its listeners of whether it holds. -/
def notifyExpr (react : Reaction) (e : ExprId) (cause : Option Nat) (value : Bool) (w : World) :
    World :=
  (w.announce (.expr e) cause (.truth value)).round (·.exprEntries e) (exprActive e)
    (callExpr react value cause)

/-- **An expression pushes**, if it is bound and has listeners. -/
def pushExpr (react : Reaction) (e : ExprId) (cause : Option Nat) (w : World) : World :=
  if (w.exprEntries e).isEmpty || (w.expr e).binding.isNone then w
  else
    match w.exprResult e with
    | (w, .ok value) => w.notifyExpr react e cause value
    | (w, .error fault) => w.note (.notificationSkipped .expression fault)

/-- An expression invalidates its cache. -/
def invalidateExpr (e : ExprId) (w : World) : World :=
  w.onExpr e fun n => { n with cache := n.cache.invalidate }

/-- **A pulse reaches an expression** from its state. -/
def exprOnChange (react : Reaction) (e : ExprId) (cause : Option Nat) (w : World) : World :=
  let w := w.invalidateExpr e
  if (w.expr e).gate.admits cause then
    (w.onExpr e fun n => { n with gate := n.gate.after cause }).pushExpr react e cause
  else w

/-! ## States -/

/-- A state's listener is called.  It gets the revision that the state has by then. -/
def callState (react : Reaction) (s : StateId) : StateListener → World → World
  | .user l, w => react l (.revision (w.store s).revision) w
  | .expr e, w => w.holding [.expr e] (exprOnChange react e (some (w.store s).revision))
  | .set q, w => w.holding [.set q] (setOnChange react q (some (w.store s).revision))
  | .deck d, w => w.holding [.deck d] (deckOnChange react d (some (w.store s).revision))

/-- Whether a state's listener is still there. -/
def stateActive (s : StateId) (w : World) (entry : Nat × StateListener) : Bool :=
  (w.store s).listeners.has entry.1 && w.stateListenerAlive entry.2

/-- **A state notifies its listeners** that it has changed. -/
def flush (react : Reaction) (s : StateId) (w : World) : World :=
  let revision := (w.store s).revision
  let w := w.note (.stateChanged s revision (w.listenerCount (.state s)))
  (w.announce (.state s) (some revision) (.revision revision)).round (·.stateEntries s)
    (stateActive s) (callState react s)

/-! ## Boards -/

/-- Whether a board's listener is still there. -/
def boardActive (b : BoardId) (w : World) (entry : Nat × ListenerId) : Bool :=
  (w.board b).has entry.1

/-- A board passes a message on to its listeners. -/
def emit (react : Reaction) (b : BoardId) (message : String) (w : World) : World :=
  (w.announce (.board b) none (.text message)).round (·.boardEntries b) (boardActive b) fun l =>
    react l (.text message)

end World

end StoryEngine
