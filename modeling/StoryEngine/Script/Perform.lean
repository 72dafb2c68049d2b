import StoryEngine.Script.Perform.Card
import StoryEngine.Script.Perform.Deck
import StoryEngine.Script.Perform.Node
import StoryEngine.Script.Perform.Object
import StoryEngine.Script.Perform.State

/-!
# Performing steps

What each step of a script does.  How subscribed listeners react is a parameter throughout; it is
settled last, by letting listeners run their own programs.

* `World.performAct` — one act, with its answer.
* `World.perform`, `World.performAll` — a step and a list of steps.  Each step inside a batch or a
  listener's program is recorded with its answer, and a step that breaks off ends the list.
* `World.reaction` — how listeners react when programs may run inside programs up to some depth.
-/

namespace StoryEngine.World

variable (react : Reaction)

/-! ## Steps -/

/-- **An act.**  Only one that is meant to breaks off. -/
def performAct : Act → World → World × Except PanicMessage Answer
  | .handle act, w => performHandle react act w
  | .state act, w => (performState react act w).map id .ok
  | .board act, w => (performBoard react act w).map id .ok
  | .plain act, w => (performPlain react act w).map id .ok
  | .node act, w => (performNode react act w).map id .ok
  | .expr act, w => (performExpr react act w).map id .ok
  | .set act, w => (performSet react act w).map id .ok
  | .card act, w => (performCard react act w).map id .ok
  | .deck act, w => (performDeck react act w).map id .ok

/-- The state of a name. -/
def stateNamed? (w : World) (name : String) : Option StateId :=
  match w.find? name with
  | some (.handle h) => h.state?
  | _ => none

/-- A batch of some number of steps.  It closes even if a step in it breaks off, and then breaks
off itself. -/
def performBatch (state : String) (count : Nat) (body : World → World × Option PanicMessage)
    (w : World) : World × Except PanicMessage Answer :=
  match w.stateNamed? state with
  | none => (w, .ok (.fault (.noObject state)))
  | some s => w.holdingFor [.state s] fun w =>
    let (w, panic) := (w.enterBatch s).holdingFor [.batch s] body
    let w := w.leaveBatch react s
    match panic with
    | some message => (w, .error message)
    | none => (w, .ok (.count count))

/-- A listener with a program subscribes. -/
def performSubscribe (on as : String) (program : List Step) (times : Nat) (w : World) :
    World × Except PanicMessage Answer :=
  (withEmitter on (fun emitter w =>
    let (w, l) := w.newListener emitter as program times
    w.stored react as (.subscription l)) w).map id .ok

mutual

/-- **A step.** -/
def perform : Step → World → World × Except PanicMessage Answer
  | .act act, w => performAct react act w
  | .batch state steps, w => performBatch react state steps.length (performAll "batch" steps) w
  | .subscribe on as steps times, w => performSubscribe react on as steps times w

/-- **Steps one after the other**, each recorded with its answer under the name of what runs them.
A step that breaks off ends them, and is not recorded. -/
def performAll (runner : String) : List Step → World → World × Option PanicMessage
  | [], w => (w, none)
  | step :: steps, w =>
    match perform step w with
    | (w, .ok answer) => performAll runner steps (w.record (.nested runner answer))
    | (w, .error message) => (w, some message)

end

/-! ## Listeners that run programs -/

/-- The contents of the cards in the payload of a listener. -/
def toldContents (w : World) : Payload → List String
  | .cards cs => cs.map fun c => (w.card c).content
  | _ => []

/-- A listener is called. -/
def fire (l : ListenerId) (payload : Payload) (w : World) : World :=
  w.record (.fired l payload (w.toldContents payload))

/-- A listener has only some runs of its program left. -/
def spend (l : ListenerId) (remaining : Nat) (w : World) : World :=
  w.onListener l fun n => { n with remaining }

/-- **A listener is called and runs its program** in some way, if it still has a run left.  The run
is counted before it begins.  A program that breaks off is remarked on, and nothing more comes of
it. -/
def respond (run : String → List Step → World → World × Option PanicMessage) : Reaction :=
  fun l payload w =>
    let w := w.fire l payload
    let listener := w.listener l
    match listener.remaining with
    | 0 => w
    | remaining + 1 =>
      match run listener.name listener.program (w.spend l remaining) with
      | (w, none) => w
      | (w, some message) => w.note (.listenerPanicked listener.emitter message.text?)

/-- **How listeners react** when programs may run inside programs up to some depth. -/
def reaction : (depth : Nat) → Reaction
  | 0 => fire
  | depth + 1 => respond (performAll (reaction depth))

end StoryEngine.World
