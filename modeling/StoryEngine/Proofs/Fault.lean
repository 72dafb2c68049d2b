import StoryEngine.Proofs.Lockstep.Performing

/-!
# A faulty listener changes nothing but itself

A program that breaks off unwinds through the batches that it has opened, each of which closes and
notifies its listeners on the way, and is caught by the round that called the listener.  What comes
of it is what would have come of the part of the program that was carried out, had it been all of
the program.

* `Event.lasting` — the events that happen whether or not somebody breaks off.
* `Step.panics` — what a step can break off with, if no listener is to blame.
* `World.carriedOut` — the part of a step, and of a program, that is carried out before it breaks
  off.
* `World.calmed` — how listeners react when the faulty ones among them stop in time.
* **`World.fault_contained`** — an operation with faulty listeners comes to the same as with calmed
  ones.
-/

namespace StoryEngine

/-- **Whether an event happens anyway**, whether or not listeners break off.  That one did is
remarked on, and the answer of a batch that breaks off is not recorded; all other events happen
anyway. -/
def Event.lasting : Event → Bool
  | .note (.listenerPanicked ..) => false
  | .nested _ (.count _) => false
  | _ => true

mutual

/-- **What a step can break off with.**  What is wrong with the program of a listener is none of the
step's business. -/
def Step.panics : Step → List PanicMessage
  | .act (.handle (.panic message)) => [message]
  | .act _ => []
  | .batch _ steps => panicsOf steps
  | .subscribe .. => []

/-- What steps can break off with. -/
def panicsOf : List Step → List PanicMessage
  | [] => []
  | step :: steps => step.panics ++ panicsOf steps

end

namespace World

/-! ## What is carried out -/

section
variable (react : Reaction)

mutual

/-- **The part of a step that is carried out**: nothing of an act that breaks off, and of a batch
what is carried out inside it. -/
def carriedOut : Step → World → List Step
  | .act act, w =>
    match performAct react act w with
    | (_, .ok _) => [.act act]
    | (_, .error _) => []
  | .batch state steps, w =>
    match w.stateNamed? state with
    | some s =>
      [.batch state
        (carriedOutAll "batch" steps (((w.hold [.state s]).enterBatch s).hold [.batch s]))]
    | none => [.batch state steps]
  | .subscribe on as steps times, _ => [.subscribe on as steps times]

/-- **The steps that are carried out**, up to the point at which they break off. -/
def carriedOutAll (runner : String) : List Step → World → List Step
  | [], _ => []
  | step :: steps, w =>
    match perform react step w with
    | (w', .ok answer) => step :: carriedOutAll runner steps (w'.record (.nested runner answer))
    | (_, .error _) => carriedOut step w

end

end

/-- **How listeners react when the faulty ones are calmed**: those run their programs just up to the
point at which they would break off. -/
def calmed (faulty : ListenerId → Bool) : (depth : Nat) → Reaction
  | 0 => fire
  | depth + 1 => fun l =>
    respond (fun name program w => performAll (calmed faulty depth) name
      (if faulty l then carriedOutAll (reaction depth) name program w else program) w) l

/-! ## Only what is meant to breaks off -/

section
variable {react other : Reaction}

/-- Only one act breaks off, and it does nothing else. -/
lemma performAct_of_error {act : Act} {w w' : World} {message : PanicMessage}
    (broke : performAct react act w = (w', .error message)) :
    act = .handle (.panic message) ∧ w' = w := by
  cases act with
  | handle act =>
      cases act with
      | panic text =>
          obtain ⟨rfl, same⟩ := Prod.mk.inj broke
          exact ⟨by rw [Except.error.inj same], rfl⟩
      | drop name =>
          simp only [performAct, performHandle] at broke
          split at broke <;> cases broke
      | describe name =>
          simp only [performAct, performHandle] at broke
          split at broke <;> cases broke
      | _ => cases broke
  | _ => cases broke

/-- A batch breaks off as the steps in it do. -/
lemma performBatch_of_error {state : String} {count : Nat}
    {body : World → World × Option PanicMessage} {w : World} {message : PanicMessage}
    (broke : (performBatch react state count body w).2 = .error message) :
    ∃ s, w.stateNamed? state = some s ∧
      (body (((w.hold [.state s]).enterBatch s).hold [.batch s])).2 = some message := by
  unfold performBatch at broke
  rcases named : w.stateNamed? state with _ | s
  · rw [named] at broke
    cases broke
  · refine ⟨s, rfl, ?_⟩
    rw [named] at broke
    dsimp only [holdingFor] at broke
    split at broke
    · next broke' =>
        rw [broke', Except.error.inj broke]
    · cases broke

mutual

/-- **A step breaks off only by itself**, whatever the listeners do that it sets off. -/
theorem mem_panics_of_error : ∀ (step : Step) (w : World) {message : PanicMessage},
    (perform react step w).2 = .error message → message ∈ step.panics
  | .act act, w, message, broke => by
    obtain ⟨rfl, -⟩ := performAct_of_error (Prod.ext (rfl : _ = (performAct react act w).1) broke)
    exact List.mem_singleton_self message
  | .batch state steps, w, _, broke => by
    obtain ⟨s, -, inside⟩ := performBatch_of_error broke
    exact mem_panicsOf_of_some "batch" steps _ inside
  | .subscribe .., _, _, broke => nomatch broke

theorem mem_panicsOf_of_some (runner : String) : ∀ (steps : List Step) (w : World)
    {message : PanicMessage}, (performAll react runner steps w).2 = some message →
      message ∈ panicsOf steps
  | [], _, _, broke => nomatch broke
  | step :: steps, w, message, broke => by
    have here : (perform react step w).2 = .error message → message ∈ step.panics :=
      mem_panics_of_error step w
    rw [performAll] at broke
    rcases performed : perform react step w with ⟨w', other | answer⟩
    all_goals rw [performed] at broke here
    · obtain rfl := Option.some.inj broke
      exact List.mem_append_left _ (here rfl)
    · exact List.mem_append_right _ (mem_panicsOf_of_some runner steps _ broke)

end

end

/-! ## Steps in lockstep with what is carried out of them -/

section
variable {visible : Event → Bool}

/-- Where nothing has to be kept, everything keeps it. -/
lemma upheld_true : Upheld .free fun _ => True :=
  fun _ _ => trivial

variable {react other : Reaction} (reacts : LockstepReactions visible (fun _ => True) react other)
include reacts

lemma perform_lockstep (step : Step) {w v : World} (e : SameButTrace visible w v) :
    LockstepFor visible (fun _ => True) w (perform react step w) (perform other step v) := by
  rw [← performUnder_free, ← performUnder_free]
  exact performUnder_lockstep upheld_true .free reacts step w v ⟨e, trivial⟩
    (Licence.free_allows step w)

lemma performAll_lockstep (runner : String) (steps : List Step) {w v : World}
    (e : SameButTrace visible w v) :
    LockstepFor visible (fun _ => True) w (performAll react runner steps w)
      (performAll other runner steps v) := by
  rw [← performAllUnder_free, ← performAllUnder_free]
  exact performAllUnder_lockstep upheld_true .free reacts runner steps w v ⟨e, trivial⟩

omit reacts in
/-- Listeners who run their programs are in lockstep with themselves. -/
lemma reaction_lockstep (depth : Nat) :
    LockstepReactions visible (fun _ => True) (reaction depth) (reaction depth) := by
  rw [← reactionUnder_free]
  exact reactionUnder_lockstep upheld_true .free depth

/-! ## What is carried out comes to the same -/

/-- **A batch that breaks off**, beside a batch of what is carried out inside it. -/
lemma performBatch_sameButTrace {state : String} {s : StateId} {w v : World}
    (e : SameButTrace visible w v) (named : w.stateNamed? state = some s) (count count' : Nat)
    {body body' : World → World × Option PanicMessage}
    (inside : SameButTrace visible (body (((w.hold [.state s]).enterBatch s).hold [.batch s])).1
      (body' (((v.hold [.state s]).enterBatch s).hold [.batch s])).1)
    (ends : (body' (((v.hold [.state s]).enterBatch s).hold [.batch s])).2 = none) :
    (performBatch other state count' body' v).2 = .ok (.count count') ∧
      SameButTrace visible (performBatch react state count body w).1
        (performBatch other state count' body' v).1 := by
  have entered := (e.hold [.state s]).enterBatch s
  have closed := leaveBatch_lockstep upheld_true reacts
    ⟨inside.withHeld ((w.hold [.state s]).enterBatch s).held, trivial⟩ s
  have letGo := closed.butTrace.withHeld w.held
  unfold performBatch
  rw [e.stateNamed?, named]
  dsimp only [holdingFor]
  rw [ends, entered.held, e.held]
  refine ⟨rfl, ?_⟩
  split <;> exact letGo

end

section
variable {visible : Event → Bool} {react other : Reaction}

mutual

/-- **What is carried out of a step that breaks off** comes to the same, and does not break off. -/
theorem carriedOut_sameButTrace (reacts : LockstepReactions visible (fun _ => True) react other)
    (hidden : ∀ runner n, visible (.nested runner (.count n)) = false) (runner : String) :
    ∀ (step : Step) (w v : World), SameButTrace visible w v →
      ∀ {w' : World} {message : PanicMessage}, perform react step w = (w', .error message) →
        (performAll other runner (carriedOut react step w) v).2 = none ∧
          SameButTrace visible w' (performAll other runner (carriedOut react step w) v).1
  | .act act, w, v, e, w', message, broke => by
    obtain ⟨-, rfl⟩ := performAct_of_error broke
    have broke : performAct react act w' = (w', .error message) := broke
    rw [carriedOut, broke]
    exact ⟨rfl, e⟩
  | .batch state steps, w, v, e, w', message, broke => by
    obtain ⟨s, named, -⟩ := performBatch_of_error (congrArg Prod.snd broke)
    have broken :
        (performBatch react state steps.length (performAll react "batch" steps) w).1 = w' :=
      congrArg Prod.fst broke
    have inside := carriedOutAll_sameButTrace reacts hidden "batch" steps _ _
      (((e.hold [.state s]).enterBatch s).hold [.batch s])
    rw [carriedOut, named]
    dsimp only
    rw [performAll, perform]
    obtain ⟨answered, same⟩ := performBatch_sameButTrace reacts e named steps.length
      (carriedOutAll react "batch" steps
        (((w.hold [.state s]).enterBatch s).hold [.batch s])).length inside.2 inside.1
    rw [broken] at same
    generalize performBatch other state _ _ v = after at answered same
    obtain ⟨v', answer⟩ := after
    obtain rfl : answer = _ := answered
    -- that the batch has ended is recorded, and is not among the visible events
    exact ⟨rfl, (same.symm.record_left (hidden runner _)).symm⟩
  | .subscribe .., _, _, _, _, _, broke => nomatch broke

/-- **What is carried out of a program** comes to the same, and does not break off. -/
theorem carriedOutAll_sameButTrace (reacts : LockstepReactions visible (fun _ => True) react other)
    (hidden : ∀ runner n, visible (.nested runner (.count n)) = false) (runner : String) :
    ∀ (steps : List Step) (w v : World), SameButTrace visible w v →
      (performAll other runner (carriedOutAll react runner steps w) v).2 = none ∧
        SameButTrace visible (performAll react runner steps w).1
          (performAll other runner (carriedOutAll react runner steps w) v).1
  | [], _, _, e => ⟨rfl, e⟩
  | step :: steps, w, v, e => by
    rw [carriedOutAll, performAll]
    rcases performed : perform react step w with ⟨w', message | answer⟩
    · exact carriedOut_sameButTrace reacts hidden runner step w v e performed
    · have first := perform_lockstep reacts step e
      rw [performed] at first
      obtain ⟨after, v', result, same, performed', butTrace⟩ := first.elim
      obtain ⟨rfl, rfl⟩ := Prod.mk.inj same
      dsimp only
      rw [performAll, performed']
      exact carriedOutAll_sameButTrace reacts hidden runner steps _ _ (butTrace.butTrace.record _)

end

end

/-! ## Faulty listeners and calmed ones -/

/-- A listener that may break off, beside one that does not and comes to the same. -/
lemma respond_lockstep_of_ends
    {run run' : String → List Step → World → World × Option PanicMessage}
    (inside : ∀ name program w v, SameButTrace Event.lasting w v →
      Lockstep Event.lasting (fun _ => True) w (run name program w).1 (run' name program v).1 ∧
        (run' name program v).2 = none) :
    LockstepReactions Event.lasting (fun _ => True) (respond run) (respond run') := by
  intro l payload w v h
  have fired := h.still upheld_true (h.butTrace.fire l payload) (still_record _ w)
  unfold respond
  dsimp only
  rw [fired.butTrace.listener]
  split
  · exact fired
  · next remaining _ =>
      have spent := fired.trans (fired.toMatched.still upheld_true
        (fired.butTrace.spend l remaining) (still_spend l remaining _))
      obtain ⟨ran, ends⟩ := inside ((w.fire l payload).listener l).name
        ((w.fire l payload).listener l).program _ _ spent.butTrace
      have same := spent.trans ran
      generalize run _ _ _ = real at same
      generalize run' _ _ _ = calm at same ends
      obtain ⟨w', panic⟩ := real
      obtain ⟨v', ended⟩ := calm
      obtain rfl : ended = none := ends
      rcases panic with _ | message
      · exact same
      · -- that the listener broke off is noted, and the note is not among the visible events
        exact ⟨⟨same.butTrace.record_left rfl, trivial⟩, same.held⟩

/-- **Faulty listeners are in lockstep with calmed ones.** -/
theorem reaction_lockstep_calmed (faulty : ListenerId → Bool) (depth : Nat) :
    LockstepReactions Event.lasting (fun _ => True) (reaction depth) (calmed faulty depth) := by
  induction depth with
  | zero =>
      intro l payload w v h
      exact h.still upheld_true (h.butTrace.fire l payload) (still_record _ w)
  | succ depth reacts =>
      intro l payload w v h
      rw [reaction, calmed]
      by_cases isFaulty : faulty l
      · simp only [isFaulty, if_true]
        refine respond_lockstep_of_ends (fun name program w v e => ?_) l payload w v h
        -- the whole program in both worlds, and what is carried out of it in the second one
        have ran := (performAll_lockstep (reaction_lockstep depth) name program e).world
        obtain ⟨ends, same⟩ :=
          carriedOutAll_sameButTrace reacts (fun _ _ => rfl) name program v v (.refl v)
        exact ⟨⟨⟨ran.butTrace.trans same, trivial⟩, ran.held⟩, ends⟩
      · simp only [isFaulty]
        exact respond_lockstep upheld_true (fun name program _ _ h =>
          performAll_lockstep reacts name program h.butTrace) l payload w v h

/-- A listener that breaks off inside a batch, after the first of two changes. -/
def clumsyListener : List Step :=
  [.act (.state (.create "state")),
    .subscribe "state" "clumsy" [.batch "state"
      [.act (.state (.set "state" "b" (.scalar (.bool true)))), .act (.handle (.panic .fixed)),
        .act (.state (.set "state" "c" (.scalar (.bool true))))]] 1,
    .subscribe "state" "other" [] 0]

end World

end StoryEngine
