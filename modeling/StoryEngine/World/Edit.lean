import StoryEngine.Random.Shuffle
import StoryEngine.World.Bind

/-!
# Making and editing nodes

* `World.newExpr`, `World.newSet`, `World.newCard`, `World.newDeck` — new nodes.
* `World.changeExpr` — another condition for an expression.
* `World.addQuality`, `World.removeQuality` — the conditions of a quality set, each at most once.
* `World.setQualities`, `World.addCardQuality`, `World.removeCardQuality` — the conditions of a
  card.
* `World.addCard`, `World.updateCard`, `World.removeCard`, `World.setCards`, `World.shuffle`,
  `World.rebindDeck`, `World.draw`, `World.drawIn` — the cards of a deck.

Every edit that takes effect is passed on to the listeners of the node edited, without a cause: a
gate lets it through whatever the revision.
-/

namespace StoryEngine.World

/-! ## Expressions -/

/-- A new expression, bound to a state if one is given. -/
def newExpr (cond : String) (state : Option StateId) (w : World) : World × ExprId :=
  let e : ExprId := ⟨w.exprs.size⟩
  let w := { w with exprs := w.exprs.add (.new cond) }
  match state with
  | some s => (w.attachExpr e s, e)
  | none => (w, e)

/-- An expression has another condition and invalidates its cache. -/
def rewriteExpr (e : ExprId) (cond : String) (w : World) : World :=
  (w.onExpr e fun n => { n with expression := .new cond }).invalidateExpr e

/-- **An expression gets another condition.** -/
def changeExpr (react : Reaction) (e : ExprId) (cond : String) (w : World) : World :=
  (w.rewriteExpr e cond).pushExpr react e none

/-! ## Quality sets -/

/-- Whether a quality set has a condition. -/
def hasQuality (q : SetId) (cond : String) (w : World) : Bool :=
  (w.conditions q).contains cond

/-- A condition goes to the end of a quality set, unless the set has it; whether it did.  The new
member is bound where the set is. -/
def insertQuality (q : SetId) (cond : String) (w : World) : World × Bool :=
  if w.hasQuality q cond then (w, false)
  else
    let (w, e) := w.newExpr cond (w.setState q).toOption
    let number := (w.expr e).listeners.next
    let w := w.onExpr e fun n => { n with listeners := n.listeners.subscribe (.owner q) }
    (w.onSet q fun n => { n with members := n.members ++ [⟨e, number⟩] }, true)

/-- A new quality set with some conditions, bound to a state if one is given. -/
def newSet (conds : List String) (state : Option StateId) (w : World) : World × SetId :=
  let q : SetId := ⟨w.sets.size⟩
  let w := { w with sets := w.sets.add .new }
  let w := match state with
    | some s => w.attachSet q s
    | none => w
  (conds.foldl (fun w cond => (w.insertQuality q cond).1) w, q)

/-- **A quality set gets another condition**; whether it did not have it. -/
def addQuality (react : Reaction) (q : SetId) (cond : String) (w : World) :
    World × Except NodeFault Bool :=
  if (w.set q).disposed then (w, .error (.disposed .qualitySet))
  else
    match w.insertQuality q cond with
    | (w, true) => ((w.invalidateSet q).pushSet react q none, .ok true)
    | (w, false) => (w, .ok false)

/-- The member of a quality set with a condition. -/
def memberWith? (q : SetId) (cond : String) (w : World) : Option Member :=
  (w.set q).members.find? fun m => (w.expr m.expr).expression.source == cond

/-- A member leaves a quality set and is disposed of; the set invalidates its cache. -/
def dropMember (q : SetId) (m : Member) (w : World) : World :=
  let w := w.onSet q fun n => { n with members := n.members.erase m }
  ((w.disposeExpr m.expr).forgetMember m).invalidateSet q

/-- **A quality set loses a condition**; whether it had it. -/
def removeQuality (react : Reaction) (q : SetId) (cond : String) (w : World) : World × Bool :=
  match w.memberWith? q cond with
  | none => (w, false)
  | some m => ((w.dropMember q m).pushSet react q none, true)

/-! ## Cards -/

/-- A card subscribes to a quality set; its number there. -/
def subscribeSet (q : SetId) (c : CardId) (w : World) : World × Nat :=
  (w.onSet q fun n => { n with listeners := n.listeners.subscribe (.owner c) },
    (w.set q).listeners.next)

/-- A new card, bound to a state if one is given. -/
def newCard (hash : CardHash) (content : String) (conds : List String) (state : Option StateId)
    (w : World) : World × CardId :=
  let (w, q) := w.newSet conds none
  let c : CardId := ⟨w.cards.size⟩
  let (w, number) := w.subscribeSet q c
  let card : CardNode := ⟨hash, content, q, number, none, .fresh, .empty, false⟩
  let w := { w with cards := w.cards.add card }
  match state with
  | some s => (w.attachCard c s, c)
  | none => (w, c)

/-- A quality set is bound where a card is; nothing happens if the card is not bound. -/
def bindSetWhere (c : CardId) (q : SetId) (w : World) : World × Except NodeFault Unit :=
  match w.cardState c with
  | .ok s => w.bindSet q s
  | .error _ => (w, .ok ())

/-- A card turns to another quality set, and the one it had is disposed of. -/
def exchangeSet (c : CardId) (q : SetId) (w : World) : World :=
  let (w, number) := w.subscribeSet q c
  let old := (w.card c).qualities
  let oldNumber := (w.card c).number
  let w := w.onCard c fun n => { n with qualities := q, number }
  (w.disposeSet old).onSet old fun n => { n with listeners := n.listeners.remove oldNumber }

/-- A card has a new quality set in place of the one it had, bound where the card is. -/
def replaceQualities (c : CardId) (conds : List String) (w : World) :
    World × Except NodeFault Unit :=
  let (w, q) := w.newSet conds none
  match w.bindSetWhere c q with
  | (w, .error fault) => (w, .error fault)
  | (w, .ok ()) => (w.exchangeSet c q, .ok ())

/-- **A card gets other conditions.** -/
def setQualities (react : Reaction) (c : CardId) (conds : List String) (w : World) :
    World × Except NodeFault Unit :=
  if (w.card c).disposed then (w, .error (.disposed .card))
  else
    match w.replaceQualities c conds with
    | (w, .error fault) => (w, .error fault)
    | (w, .ok ()) => (w.pushCard react c none, .ok ())

/-- A card gets another condition; whether it did not have it. -/
def addCardQuality (react : Reaction) (c : CardId) (cond : String) (w : World) :
    World × Except NodeFault Bool :=
  if (w.card c).disposed then (w, .error (.disposed .card))
  else
    let q := (w.card c).qualities
    w.holdingFor [.set q] fun w => w.addQuality react q cond

/-- A card loses a condition; whether it had it. -/
def removeCardQuality (react : Reaction) (c : CardId) (cond : String) (w : World) :
    World × Except NodeFault Bool :=
  if (w.card c).disposed then (w, .error (.disposed .card))
  else
    let q := (w.card c).qualities
    w.holdingFor [.set q] fun w =>
      let (w, removed) := w.removeQuality react q cond
      (w, .ok removed)

/-! ## Decks -/

/-- A deck subscribes to cards; the places for them. -/
def enterCards (d : DeckId) : List CardId → World → World × List Entry
  | [], w => (w, [])
  | c :: rest, w =>
    let (w, entry) := w.enterCard d c
    let (w, more) := enterCards d rest w
    (w, entry :: more)

/-- A new deck, bound to a state if one is given. -/
def newDeck (config : DeckConfig) (cards : List CardId) (state : Option StateId) (w : World) :
    World × DeckId :=
  let d : DeckId := ⟨w.decks.size⟩
  let w := { w with decks := w.decks.add (.new config.generator) }
  let (w, entries) := w.enterCards d cards
  let w := w.onDeck d fun n => { n with entries }
  match state with
  | some s => (w.attachDeck d s, d)
  | none => (w, d)

/-- A deck has no cards any more; those it had are released. -/
def clearCards (d : DeckId) (w : World) : World :=
  let old := (w.deck d).entries
  let w := w.onDeck d fun n => { n with entries := [] }
  let w := old.foldl (fun w entry => w.unbindCard entry.card) w
  old.foldl (fun w entry => w.forgetEntry entry) w

/-- Cards are bound where a deck is; nothing happens if the deck is not bound. -/
def bindCardsWhere (d : DeckId) (cards : List CardId) (w : World) : World :=
  match w.deckState d with
  | .ok s => cards.foldl (bindOrSkip s) w
  | .error _ => w

/-- A deck has other cards in place of those it had, bound where the deck is. -/
def replaceCards (d : DeckId) (cards : List CardId) (w : World) : World :=
  let (w, entries) := (w.clearCards d).enterCards d cards
  let w := (w.bindCardsWhere d cards).note (.cardsReplaced entries.length)
  w.onDeck d fun n => { n with entries }

/-- **A deck gets other cards.** -/
def setCards (react : Reaction) (d : DeckId) (cards : List CardId) (w : World) : World :=
  (w.replaceCards d cards).pushDeck react d none

/-- **A deck is bound to another state** and notifies its listeners. -/
def rebindDeck (react : Reaction) (d : DeckId) (s : StateId) (w : World) :
    World × Except NodeFault Unit :=
  match w.bindDeck d s with
  | (w, .error fault) => (w, .error fault)
  | (w, .ok ()) => (w.pushDeck react d none, .ok ())

/-- A card is bound where a deck is; nothing happens if the deck is not bound. -/
def bindWhere (d : DeckId) (c : CardId) (w : World) : World × Except NodeFault Unit :=
  match w.deckState d with
  | .ok s => w.bindCard c s
  | .error _ => (w, .ok ())

/-- A card stands at the end of a deck, bound where the deck is. -/
def insertCard (d : DeckId) (c : CardId) (w : World) : World × Except NodeFault Unit :=
  match w.bindWhere d c with
  | (w, .error fault) => (w, .error fault)
  | (w, .ok ()) =>
    let (w, entry) := (w.note (.cardAdded (w.card c).hash)).enterCard d c
    (w.onDeck d fun n => { n with entries := n.entries ++ [entry] }, .ok ())

/-- **A card goes to the end of a deck.** -/
def addCard (react : Reaction) (d : DeckId) (c : CardId) (w : World) :
    World × Except NodeFault Unit :=
  if (w.deck d).disposed then (w, .error (.disposed .deck))
  else if (w.card c).disposed then (w, .error (.disposed .card))
  else
    match w.insertCard d c with
    | (w, .error fault) => (w, .error fault)
    | (w, .ok ()) => (w.pushDeck react d none, .ok ())

/-- A card is in no place of a deck any more, and is released. -/
def takeCard (d : DeckId) (c : CardId) (gone kept : List Entry) (w : World) : World :=
  let w := (w.onDeck d fun n => { n with entries := kept }).unbindCard c
  let w := gone.foldl (fun w entry => w.forgetEntry entry) w
  w.note (.cardRemoved (w.card c).hash)

/-- **A card leaves a deck**, from all its places; whether it was there. -/
def removeCard (react : Reaction) (d : DeckId) (c : CardId) (w : World) : World × Bool :=
  let (gone, kept) := (w.deck d).entries.partition (·.card == c)
  if gone.isEmpty then (w, false)
  else ((w.takeCard d c gone kept).pushDeck react d none, true)

/-- A card stands in a deck in place of another, which is released, and is bound where the deck
is. -/
def replaceCard (d : DeckId) (c : CardId) (index : Nat) (old : Entry) (w : World) :
    World × Except NodeFault Unit :=
  let (w, entry) := w.enterCard d c
  let w := w.onDeck d fun n => { n with entries := n.entries.set index entry }
  ((w.unbindCard old.card).forgetEntry old).bindWhere d c

/-- The first place of a deck held by a card with a given hash. -/
def placeOf? (d : DeckId) (hash : CardHash) (w : World) : Option (Nat × Entry) :=
  ((w.deck d).entries.findIdx? fun entry => (w.card entry.card).hash == hash).bind fun index =>
    (w.deck d).entries[index]?.map fun entry => (index, entry)

/-- **A card takes the first place held by a card with the same hash**; whether there is one. -/
def updateCard (react : Reaction) (d : DeckId) (c : CardId) (w : World) :
    World × Except NodeFault Bool :=
  if (w.deck d).disposed then (w, .error (.disposed .deck))
  else if (w.card c).disposed then (w, .error (.disposed .card))
  else
    let hash := (w.card c).hash
    match w.placeOf? d hash with
    | none => (w, .ok false)
    | some (index, old) =>
      match w.replaceCard d c index old with
      | (w, .error fault) => (w, .error fault)
      | (w, .ok ()) => ((w.note (.cardUpdated hash index)).pushDeck react d none, .ok true)

/-- The places of a deck are in another order. -/
def reorder (d : DeckId) (w : World) : World :=
  w.onDeck d fun n =>
    let (entries, generator) := Random.shuffle n.entries n.generator
    { n with entries, generator }

/-- **The cards of a deck are shuffled.** -/
def shuffle (react : Reaction) (d : DeckId) (w : World) : World :=
  (w.reorder d).pushDeck react d none

/-- One of some cards at random, by a deck's generator. -/
def pick (d : DeckId) (cards : List CardId) (w : World) : World × Option CardId :=
  let (card, generator) := Random.pick cards (w.deck d).generator
  (w.onDeck d fun n => { n with generator }, card)

/-- **One of a deck's cards on offer at random**, if there is one. -/
def draw (d : DeckId) (w : World) : World × Except NodeFault (Option CardId) :=
  match w.availableCards d with
  | (w, .error fault) => (w, .error fault)
  | (w, .ok cards) =>
    let (w, card) := w.pick d cards
    (w, .ok card)

/-- One at random of the cards that would be on offer in a given state. -/
def drawIn (d : DeckId) (s : StateId) (w : World) : World × Option CardId :=
  let (w, cards) := w.availableIn d s
  w.pick d cards

/-- Whether a card would be on offer at a deck's state. -/
def isCardAvailable (d : DeckId) (c : CardId) (w : World) : World × Except NodeFault Bool :=
  match w.deckState d with
  | .error fault => (w, .error fault)
  | .ok s =>
    let (w, value) := w.cardCheck c s
    (w, .ok value)

end StoryEngine.World
