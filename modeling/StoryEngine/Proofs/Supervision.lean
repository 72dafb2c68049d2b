import StoryEngine.Script.Report

/-!
# Runs under supervision

Much of what can be said of scripts is said of some runs only, or of the moments inside a run.  Both
are put in terms of a supervisor, who sees every step that is about to be performed, wherever it
stands: at the top of a script, inside a batch, or in the program of a listener.

* `Supervisor` — leaves a step out, or lets it be performed, in this world or in another one.
* `World.runUnder` — what becomes of a world when steps are performed one after the other under a
  supervisor.
* `World.runUnder_free` — without interference these are the worlds of a script's reports.
* `Supervisor.Obeys` — a supervisor who only lets lawful steps pass, and never touches the world.
* `Supervisor.Watches` — a supervisor who never touches the world, whatever passes.
* `World.Meets` — a step is performed in a world in the course of a run.
* `World.Passes` — a run passes through a world: it meets a step there, or ends there.
* `World.meets_last` — the last act of a script is.

A step that is left out leaves no trace, so a run in which only lawful steps are performed is a run
under a supervisor who obeys the law.  Supervisors see the whole world: what a listener does may
depend on everything, not only on its program.
-/

namespace StoryEngine

/-- **A supervisor**: what becomes of the world before a step is performed in it, or nothing if the
step is to be left out. -/
abbrev Supervisor := Step → World → Option World

/-- A law says which steps may be performed in which worlds. -/
abbrev Law := Step → World → Prop

/-- **A supervisor who obeys a law**: only lawful steps pass, in the world as it is. -/
def Supervisor.Obeys (look : Supervisor) (law : Law) : Prop :=
  ∀ step w w', look step w = some w' → w' = w ∧ law step w

/-- **A supervisor who only watches**: any step may pass, in the world as it is. -/
def Supervisor.Watches (look : Supervisor) : Prop :=
  ∀ step w w', look step w = some w' → w' = w

/-- The supervisor who never interferes. -/
def Supervisor.free : Supervisor := fun _ w => some w

theorem Supervisor.free_watches : free.Watches :=
  fun _ _ _ passed => (Option.some.inj passed).symm

namespace World

/-! ## Steps under a supervisor -/

section
variable (look : Supervisor) (react : Reaction)

mutual

/-- A step, with the steps inside it under a supervisor. -/
def performUnder : Step → World → World × Except PanicMessage Answer
  | .act act, w => performAct react act w
  | .batch state steps, w =>
    performBatch react state steps.length (performAllUnder "batch" steps) w
  | .subscribe on as steps times, w => performSubscribe react on as steps times w

/-- Steps one after the other under a supervisor. -/
def performAllUnder (runner : String) : List Step → World → World × Option PanicMessage
  | [], w => (w, none)
  | step :: steps, w =>
    match look step w with
    | none => performAllUnder runner steps w
    | some w =>
      match performUnder step w with
      | (w, .ok answer) => performAllUnder runner steps (w.record (.nested runner answer))
      | (w, .error message) => (w, some message)

end

/-- **What becomes of a world** when the steps of a script are performed in it under a supervisor.
A step that breaks off does not keep the next one from being performed. -/
def runUnder : List Step → World → World
  | [], w => w
  | step :: steps, w =>
    match look step w with
    | none => runUnder steps w
    | some w => runUnder steps (performUnder look react step w).1

end

/-- How listeners react when their programs are supervised. -/
def reactionUnder (look : Supervisor) : (depth : Nat) → Reaction
  | 0 => fire
  | depth + 1 => respond (performAllUnder look (reactionUnder look depth))

/-! ## Without interference -/

mutual

theorem performUnder_free (react : Reaction) : ∀ (step : Step) (w : World),
    performUnder .free react step w = perform react step w
  | .act _, _ => rfl
  | .batch _ steps, _ => by
    rw [performUnder, perform, funext (performAllUnder_free react "batch" steps)]
  | .subscribe .., _ => rfl

theorem performAllUnder_free (react : Reaction) (runner : String) :
    ∀ (steps : List Step) (w : World),
    performAllUnder .free react runner steps w = performAll react runner steps w
  | [], _ => rfl
  | step :: steps, w => by
    show (match performUnder .free react step w with
      | (w, .ok answer) =>
        performAllUnder .free react runner steps (w.record (.nested runner answer))
      | (w, .error message) => (w, some message)) = _
    rw [performAll, performUnder_free react step]
    rcases perform react step w with ⟨w', message | answer⟩
    · rfl
    · exact performAllUnder_free react runner steps _

end

theorem reactionUnder_free (depth : Nat) : reactionUnder .free depth = reaction depth := by
  induction depth with
  | zero => rfl
  | succ depth ih =>
    have same : performAllUnder .free (reaction depth) = performAll (reaction depth) := by
      funext runner steps w
      exact performAllUnder_free _ runner steps w
    rw [reactionUnder, reaction, ih, same]

/-- **A run without interference is a run of the script**: it passes through the worlds that the
reports of the script are about. -/
theorem runUnder_free (script : Script) (steps : List Step) (w : World) :
    runUnder .free (reactionUnder .free (firingsOf script.steps)) steps w =
      steps.foldl (fun w step => (script.report w step).1) w := by
  rw [reactionUnder_free]
  induction steps generalizing w with
  | nil => rfl
  | cons step steps ih =>
    show runUnder .free _ steps (performUnder .free _ step w).1 = _
    rw [performUnder_free]
    exact ih _

/-! ## The worlds of a run -/

/-- **A step is performed in a world in the course of a run.**  What a supervisor does about this
step in this world, and nothing else, makes a difference to what the run comes to.  As the trace of
a world never loses what was recorded in it, a supervisor can always make a difference. -/
def Meets (look : Supervisor) (depth : Nat) (steps : List Step) (step : Step) (w : World) : Prop :=
  ∃ other : Supervisor,
    (∀ step' w', (step', w') ≠ (step, w) → other step' w' = look step' w') ∧
      runUnder other (reactionUnder other depth) steps .empty ≠
        runUnder look (reactionUnder look depth) steps .empty

/-- **A run passes through a world**: a step is performed in it, at the top of the script or
anywhere inside, or the run ends in it. -/
def Passes (look : Supervisor) (depth : Nat) (steps : List Step) (w : World) : Prop :=
  (∃ step, Meets look depth steps step w) ∨
    w = runUnder look (reactionUnder look depth) steps .empty

/-! ## Runs in parts -/

theorem runUnder_append (look : Supervisor) (react : Reaction) (steps more : List Step)
    (w : World) :
    runUnder look react (steps ++ more) w =
      runUnder look react more (runUnder look react steps w) := by
  induction steps generalizing w with
  | nil => rfl
  | cons step steps ih =>
      rw [List.cons_append, runUnder, runUnder]
      rcases look step w with _ | v
      · exact ih w
      · exact ih _

/-- Supervisors who treat some acts alike let them lead to the same world. -/
theorem runUnder_acts {look look' : Supervisor} (react : Reaction) {acts : List Act}
    (same : ∀ act ∈ acts, ∀ w, look' (.act act) w = look (.act act) w) (w : World) :
    runUnder look' react (acts.map .act) w = runUnder look react (acts.map .act) w := by
  induction acts generalizing w with
  | nil => rfl
  | cons act acts ih =>
      have rest := ih fun act mem => same act (List.mem_cons_of_mem _ mem)
      rw [List.map_cons, runUnder, runUnder, same act List.mem_cons_self]
      rcases look (.act act) w with _ | v
      · exact rest w
      · exact rest _

open Classical in
/-- **The last act of a script is met** in the world that the acts before it come to, if it is none
of them and makes a difference. -/
theorem meets_last {look : Supervisor} {acts : List Act} {act : Act} (new : act ∉ acts)
    (differs : runUnder look fire (acts.map .act ++ [.act act]) .empty ≠
      runUnder look fire (acts.map .act) .empty) :
    Meets look 0 (acts.map .act ++ [.act act]) (.act act)
      (runUnder look fire (acts.map .act) .empty) := by
  let without : Supervisor := fun step w =>
    if (step, w) = (.act act, runUnder look fire (acts.map .act) .empty) then none else look step w
  refine ⟨without, fun step w ne => if_neg ne, ?_⟩
  have same : runUnder without fire (acts.map .act) .empty =
      runUnder look fire (acts.map .act) .empty := by
    refine runUnder_acts fire (fun act' mem w => if_neg fun eq => ?_) _
    obtain ⟨eq, -⟩ := Prod.mk.inj eq
    exact new (Step.act.inj eq ▸ mem)
  have skipped : without (.act act) (runUnder look fire (acts.map .act) .empty) = none := if_pos rfl
  show runUnder without fire _ _ ≠ runUnder look fire _ _
  rw [runUnder_append, same, runUnder, skipped]
  exact differs.symm

end World

end StoryEngine
