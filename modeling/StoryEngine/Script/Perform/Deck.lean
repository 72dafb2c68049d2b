import StoryEngine.Script.Lookup
import StoryEngine.World.Lifecycle

/-!
# Acts on decks

Making a deck, changing its cards and their order, and drawing from it.  `World.performDeck` does
one such act.
-/

namespace StoryEngine.World

variable (react : Reaction)

/-- Going on with the configuration of a new deck. -/
def withConfig (source : ConfigSource) (k : DeckConfig → Doing) : Doing :=
  match source with
  | .none => k .unseeded
  | .seed seed => k (.seeded seed)
  | .text text =>
    match DeckConfig.ofText text with
    | .ok config => k config
    | .error _ => fun w => (w, .fault .config)

/-- The answer that shows a card, or that there is none. -/
def cardAnswer (w : World) : Option CardId → Answer
  | some c => .card (w.cardView c)
  | none => .none

/-- The answer that shows cards. -/
def cardsAnswer (w : World) (cs : List CardId) : Answer :=
  .cards (cs.map w.cardView)

/-- A card that is shown, and stored first if a name for it is given. -/
def showStored (as : Option String) (c : CardId) (w : World) : World × Answer :=
  let w := match as with
    | some name => w.keep react name (.handle (.card c))
    | none => w
  (w, w.cardAnswer (some c))

/-- **An act on a deck.** -/
def performDeck : DeckAct → Doing
  | .create as cards state source => withCards cards fun cs => withState? state fun s =>
    withConfig source fun config w =>
      let (w, d) := w.newDeck config cs s
      w.stored react as (.handle (.deck d))
  | .cards name => withDeck name fun d w => (w, w.cardsAnswer (w.deck d).cards)
  | .setCards name cards => withCards cards fun cs => withDeck name fun d w =>
    (w.setCards react d cs, .null)
  | .state name => withDeck name fun d w =>
    (w, .ofExcept (fun s => .name (w.firstName? (.state s))) (w.deckState d))
  | .setState name state => withDeck name fun d => withState state fun s w =>
    (w.rebindDeck react d s).map id (.ofExcept fun _ => .null)
  | .getCard name index as => withDeck name fun d w =>
    match (w.deck d).cards[index]? with
    | some c => w.showStored react as c
    | none => (w, .none)
  | .addCard name card => withDeck name fun d => withCard card fun c w =>
    (w.addCard react d c).map id (.ofExcept fun _ => .null)
  | .updateCard name card => withDeck name fun d => withCard card fun c w =>
    (w.updateCard react d c).map id (.ofExcept .flag)
  | .removeCard name card => withDeck name fun d => withCard card fun c w =>
    (w.removeCard react d c).map id .flag
  | .isCardAvailable name card => withDeck name fun d => withCard card fun c w =>
    (w.isCardAvailable d c).map id (.ofExcept .flag)
  | .shuffle name => withDeck name fun d w => (w.shuffle react d, .null)
  | .available name => withDeck name fun d w =>
    let (w, cards) := w.availableCards d
    (w, .ofExcept w.cardsAnswer cards)
  | .availableIn name state => withDeck name fun d => withState state fun s w =>
    let (w, cards) := w.availableIn d s
    (w, w.cardsAnswer cards)
  | .draw name => withDeck name fun d w =>
    let (w, card) := w.draw d
    (w, .ofExcept w.cardAnswer card)
  | .drawIn name state => withDeck name fun d => withState state fun s w =>
    let (w, card) := w.drawIn d s
    (w, w.cardAnswer card)

end StoryEngine.World
