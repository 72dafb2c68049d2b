import StoryEngine.Script.Lookup
import StoryEngine.World.Describe

/-!
# Acts on objects of any kind

Naming, dropping, comparing and looking at objects, whatever they are.  `World.performHandle` does
one such act; only the act that is meant to breaks off.
-/

namespace StoryEngine.World

variable (react : Reaction)

/-- Giving up the object of a name if it is a subscription. -/
def endSubscription (name : String) : Doing := fun w =>
  match w.find? name with
  | some (.subscription l) => (w.discard react name (.subscription l), .null)
  | _ => missing name w

/-- Another name for an object.  Subscriptions and open batches have one name only. -/
def cloneObject (source name : String) : Doing := fun w =>
  match w.find? source with
  | some (.handle (.batch _)) => missing source w
  | some (.subscription _) => missing source w
  | some o => w.stored react name o
  | none => missing source w

/-- Whether two names hold on to the same state or node; a fault if they hold on to different
kinds of things. -/
def sameObject (a b : String) : Doing := fun w =>
  match w.find? a, w.find? b with
  | some (.handle (.state s)), some (.handle (.state t)) => (w, .flag (s == t))
  | some (.handle (.expr e)), some (.handle (.expr f)) => (w, .flag (e == f))
  | some (.handle (.set q)), some (.handle (.set r)) => (w, .flag (q == r))
  | some (.handle (.card c)), some (.handle (.card d)) => (w, .flag (c == d))
  | some (.handle (.deck d)), some (.handle (.deck e)) => (w, .flag (d == e))
  | _, _ => missing a w

/-- The number of things in an object, if it is a collection. -/
def sizeOf? (w : World) : Handle → Option Nat
  | .state s => some (w.store s).contents.length
  | .set q => some (w.members q).length
  | .deck d => some (w.deck d).entries.length
  | .board b => some (w.listenerCount (.board b))
  | _ => none

/-- How large a named object is. -/
def sizeNamed (name : String) : Doing := fun w =>
  match w.find? name with
  | some (.handle h) =>
    match w.sizeOf? h with
    | some n => (w, .size n)
    | none => missing name w
  | _ => missing name w

/-- **An act on an object of any kind.** -/
def performHandle : HandleAct → World → World × Except PanicMessage Answer
  | .clone source as, w => (cloneObject react source as w).map id .ok
  | .drop name, w =>
    match w.find? name with
    | some o => (w.discard react name o, .ok .null)
    | none => (missing name w).map id .ok
  | .unsubscribe name, w => (endSubscription react name w).map id .ok
  | .sameObject a b, w => (sameObject a b w).map id .ok
  | .describe name, w =>
    match w.find? name with
    | some o => (w, .ok (.text (w.describe o).render))
    | none => (missing name w).map id .ok
  | .observe name, w => (w, .ok (.observation (w.observe name)))
  | .listenerCount name, w =>
    (withEmitter name (fun emitter w => (w, .count (w.listenerCount emitter))) w).map id .ok
  | .clearListeners name, w =>
    (withEmitter name (fun emitter w => (w.clearListeners emitter, .null)) w).map id .ok
  | .size name, w => (sizeNamed name w).map id .ok
  | .panic message, w => (w, .error message)

end StoryEngine.World
