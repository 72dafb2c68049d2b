import StoryEngine.World.Life

/-!
# Reading nodes

A node that is bound to a state answers from its cache as long as the state is at the revision of
the cached result, and otherwise computes the result and keeps it.  A node can also be checked once
against any state, which leaves no trace in it.

* `World.boundState` — the state of a binding, or why there is none.
* `World.exprResult`, `World.setResult`, `World.cardResult` — the result at the bound state.
* `World.exprCheck`, `World.setCheck`, `World.cardCheck` — the check against a given state.
* `World.availableCards`, `World.availableIn` — the cards of a deck that are on offer.

Reading computes results and may remark on faulty conditions, so it gives back a world too.
-/

namespace StoryEngine.World

/-- **The state of a binding**, or why there is none: no binding, or a state that is gone. -/
def boundState (w : World) (kind : NodeKind) : Option StateId → Except NodeFault StateId
  | none => .error (.unbound kind)
  | some s => if w.stateAlive s then .ok s else .error (.stateDropped kind)

/-- The state that an expression is bound to. -/
def exprState (w : World) (e : ExprId) : Except NodeFault StateId :=
  w.boundState .expression ((w.expr e).binding.map (·.state))

/-- The state that a quality set is bound to. -/
def setState (w : World) (q : SetId) : Except NodeFault StateId :=
  w.boundState .qualitySet ((w.set q).binding.map (·.state))

/-- The state that a card is bound to. -/
def cardState (w : World) (c : CardId) : Except NodeFault StateId :=
  w.boundState .card (w.card c).binding

/-- The state that a deck is bound to. -/
def deckState (w : World) (d : DeckId) : Except NodeFault StateId :=
  w.boundState .deck ((w.deck d).binding.map (·.state))

/-! ## Expressions -/

/-- **Checking an expression against a state.**  A faulty condition is remarked on and unmet. -/
def checkAgainst (e : Expression) (s : StateId) (w : World) : World × Bool :=
  match e.evaluate (w.store s).get? with
  | .ok b => (w, b)
  | .error fault => (w.note (.checkFailed e.source fault), false)

/-- Checking an expression once. -/
def exprCheck (e : ExprId) (s : StateId) (w : World) : World × Bool :=
  w.checkAgainst (w.expr e).expression s

/-- **The result of an expression** at its state. -/
def exprResult (e : ExprId) (w : World) : World × Except NodeFault Bool :=
  match w.exprState e with
  | .error fault => (w, .error fault)
  | .ok s =>
    let revision := (w.store s).revision
    match (w.expr e).cache.get? revision with
    | some value => (w, .ok value)
    | none =>
      let (w, value) := w.exprCheck e s
      (w.onExpr e fun n => { n with cache := n.cache.store value revision }, .ok value)

/-! ## Quality sets -/

/-- The members of a quality set, in order. -/
def members (w : World) (q : SetId) : List ExprId :=
  (w.set q).members.map (·.expr)

/-- The conditions of a quality set, in order. -/
def conditions (w : World) (q : SetId) : List String :=
  (w.members q).map fun e => (w.expr e).expression.source

/-- Whether all expressions hold at their states; the first that does not, or cannot be read,
settles it. -/
def allResults : List ExprId → World → World × Except NodeFault Bool
  | [], w => (w, .ok true)
  | e :: rest, w =>
    match w.exprResult e with
    | (w, .ok true) => allResults rest w
    | (w, .ok false) => (w, .ok false)
    | (w, .error fault) => (w, .error fault)

/-- **The result of a quality set** at its state: whether all members hold. -/
def setResult (q : SetId) (w : World) : World × Except NodeFault Bool :=
  match w.setState q with
  | .error fault => (w, .error fault)
  | .ok s =>
    let revision := (w.store s).revision
    match (w.set q).cache.get? revision with
    | some value => (w, .ok value)
    | none =>
      match w.allResults (w.members q) with
      | (w, .ok value) =>
        (w.onSet q fun n => { n with cache := n.cache.store value revision }, .ok value)
      | (w, .error fault) => (w, .error fault)

/-- Whether all expressions hold at a given state; the first that does not settles it. -/
def allChecks (s : StateId) : List ExprId → World → World × Bool
  | [], w => (w, true)
  | e :: rest, w =>
    match w.exprCheck e s with
    | (w, true) => allChecks s rest w
    | (w, false) => (w, false)

/-- Checking a quality set once. -/
def setCheck (q : SetId) (s : StateId) (w : World) : World × Bool :=
  w.allChecks s (w.members q)

/-! ## Cards -/

/-- **Whether a card is on offer** at its state. -/
def cardResult (c : CardId) (w : World) : World × Except NodeFault Bool :=
  match w.cardState c with
  | .error fault => (w, .error fault)
  | .ok _ => w.setResult (w.card c).qualities

/-- Whether a card would be on offer in a given state. -/
def cardCheck (c : CardId) (s : StateId) (w : World) : World × Bool :=
  w.setCheck (w.card c).qualities s

/-! ## Decks -/

/-- Whether a deck's card is on offer.  A card that cannot be read, because it is bound elsewhere
or not at all, is remarked on and checked against the deck's state. -/
def isOffered (c : CardId) (s : StateId) (w : World) : World × Bool :=
  match w.cardResult c with
  | (w, .ok value) => (w, value)
  | (w, .error fault) => (w.note (.cardChecked (w.card c).hash fault)).cardCheck c s

/-- The cards on offer among some cards of a deck bound to a state.  Disposed cards are passed
over. -/
def offered (s : StateId) : List CardId → World → World × List CardId
  | [], w => (w, [])
  | c :: rest, w =>
    if (w.card c).disposed then offered s rest w
    else
      let (w, value) := w.isOffered c s
      let (w, more) := offered s rest w
      (w, if value then c :: more else more)

/-- **The cards of a deck that are on offer** at its state, in deck order. -/
def availableCards (d : DeckId) (w : World) : World × Except NodeFault (List CardId) :=
  match w.deckState d with
  | .error fault => (w, .error fault)
  | .ok s =>
    let (w, cards) := w.offered s (w.deck d).cards
    (w, .ok cards)

/-- The cards that would be on offer in a given state. -/
def filterChecked (s : StateId) : List CardId → World → World × List CardId
  | [], w => (w, [])
  | c :: rest, w =>
    let (w, value) := w.cardCheck c s
    let (w, more) := filterChecked s rest w
    (w, if value then c :: more else more)

/-- **The cards of a deck that would be on offer in a given state**, in deck order. -/
def availableIn (d : DeckId) (s : StateId) (w : World) : World × List CardId :=
  w.filterChecked s (w.deck d).cards

end StoryEngine.World
