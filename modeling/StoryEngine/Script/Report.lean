import StoryEngine.Script.Perform

/-!
# Reports

A script is run from an empty world, and every step of it is reported on.

* `Shown` — what is shown of an event: a listener called, the answer of a nested step, or a note
  that matters enough.
* `Report` — the outcome of a step, what happened during it, and what can be seen afterwards.
* `Script.run` — the reports of all steps.
-/

namespace StoryEngine

/-- The payload that a listener was called with, as it is shown. -/
inductive Told where
  | revision (n : Nat)
  | truth (b : Bool)
  | contents (cards : List String)
  | text (s : String)
  deriving DecidableEq, Repr

/-- **What is shown of an event.** -/
inductive Shown where
  | fire (name : String) (told : Told)
  | nested (runner : String) (answer : Answer)
  | log (level : Level) (message : String) (fields : List (String × String))

/-- **The report on a step**: its answer, or what it broke off with; the events during it, in
order; and what can be seen of the watched names afterwards. -/
structure Report where
  outcome : Except PanicMessage Answer
  events : List Shown
  watched : Option (List (Option Observation))

/-- A script: its steps, the names watched, if any are, and the least weighty level of notes that
is shown, if any are. -/
structure Script where
  steps : List Step
  watch : Option (List String)
  log : Option Level

namespace World

/-- The payload that a listener was called with, as it is shown. -/
def told (payload : Payload) (contents : List String) : Told :=
  match payload with
  | .revision n => .revision n
  | .truth b => .truth b
  | .cards _ => .contents contents
  | .text s => .text s

/-- What is shown of an event when notes down to some level are. -/
def show? (w : World) (log : Option Level) : Event → Option Shown
  | .changed .. => none
  | .opened _ => none
  | .closed _ => none
  | .round .. => none
  | .fired l payload contents => some (.fire (w.listener l).name (told payload contents))
  | .nested runner answer => some (.nested runner answer)
  | .note n =>
    match log with
    | some level =>
      if n.level.rank ≤ level.rank then some (.log n.level n.message n.fields) else none
    | none => none

/-- What happened since the trace had a given length, in order. -/
def since (w : World) (length : Nat) : List Event :=
  (w.trace.take (w.trace.length - length)).reverse

end World

namespace Script

/-- How listeners react in a script.  Programs can run inside programs no deeper than there are
programs to run at all. -/
def reaction (script : Script) : Reaction :=
  World.reaction (firingsOf script.steps)

/-- A step and the report on it. -/
def report (script : Script) (w : World) (step : Step) : World × Report :=
  let (after, outcome) := w.perform script.reaction step
  (after,
    { outcome
      events := (after.since w.trace.length).filterMap (after.show? script.log)
      watched := script.watch.map (·.map after.observe) })

/-- The reports on some steps from a world on. -/
def runFrom (script : Script) : World → List Step → List Report
  | _, [] => []
  | w, step :: steps =>
    let (w, report) := script.report w step
    report :: script.runFrom w steps

/-- **The reports on all steps of a script.** -/
def run (script : Script) : List Report :=
  script.runFrom .empty script.steps

end Script

end StoryEngine
