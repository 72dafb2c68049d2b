import StoryEngine.Script.Lookup
import StoryEngine.World.Lifecycle

/-!
# Acts on cards

Making a card and editing its content and its conditions.  `World.performCard` does one such act.
-/

namespace StoryEngine.World

variable (react : Reaction)

/-- Going on with the hash of a new card. -/
def withHash (source : HashSource) (label : String) (k : CardHash → Doing) : Doing := fun w =>
  match source with
  | .fresh => k (.fresh w.cards.size label) w
  | .spelled text =>
    match Uuid.read? text with
    | some u => k (.given u) w
    | none => (w, .fault .hash)
  | .of card => withCard card (fun c w => k (w.card c).hash w) w

/-- **An act on a card.** -/
def performCard : CardAct → Doing
  | .create as content conds state source => withState? state fun s =>
    withHash source as fun hash w =>
      let (w, c) := w.newCard hash content conds s
      w.stored react as (.handle (.card c))
  | .setContent name content => withCard name fun c w =>
    (w.onCard c fun n => { n with content }, .null)
  | .info name => withCard name fun c w => (w, .card (w.cardView c))
  | .sameHash a b => withCard a fun c => withCard b fun d w =>
    (w, .flag ((w.card c).hash == (w.card d).hash))
  | .qualities name as => withCard name fun c w =>
    w.stored react as (.handle (.set (w.card c).qualities))
  | .setQualities name conds => withCard name fun c w =>
    (w.setQualities react c conds).map id (.ofExcept fun _ => .null)
  | .addQuality name cond => withCard name fun c w =>
    (w.addCardQuality react c cond).map id (.ofExcept .flag)
  | .removeQuality name cond => withCard name fun c w =>
    (w.removeCardQuality react c cond).map id (.ofExcept .flag)

end StoryEngine.World
