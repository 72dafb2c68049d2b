import Mathlib.Tactic.Common
import StoryEngine.World.Notify

/-!
# What a state goes through

The trace of a world shows for each state when it was changed, when batches of it were opened and
closed, and when it began to notify its listeners.  Whether listeners were notified often enough,
and not too often, can be read off that alone.

* `Moment`, `World.history` — what happened to a state, the latest first.
* `History.depth` — how many batches were left open.
* `History.touched` — whether there was a change since the outermost batch was opened.
* `History.owes` — whether what happened last calls for a round over the listeners.
* **`History.Regular`** — a round follows at once wherever one is called for, and nowhere else.
* `History.Regular.round_iff` — this, said of the moments before the present one.
* `History.rounds_eq`, `History.lastRound_eq` — the rounds of a regular history are as many as were
  called for, and the latest one is about the latest change.
-/

namespace StoryEngine

/-- **What happens to a state**: it comes to a revision, a batch opens or closes, or a round over
its listeners begins, for some revision. -/
inductive Moment where
  | changed (revision : Nat)
  | opened
  | closed
  | round (cause : Option Nat)
  deriving DecidableEq, Repr

/-- What an event is to a state, if it is anything to it. -/
def Event.moment? (s : StateId) : Event → Option Moment
  | .changed t revision => if t = s then some (.changed revision) else none
  | .opened t => if t = s then some .opened else none
  | .closed t => if t = s then some .closed else none
  | .round (.state t) cause _ => if t = s then some (.round cause) else none
  | _ => none

/-- An event that is nothing to any state. -/
def Event.Aside (event : Event) : Prop :=
  ∀ s, event.moment? s = none

/-- The rounds of nodes and boards are nothing to states. -/
lemma aside_round {emitter : Emitter} (noState : ∀ s, emitter ≠ .state s) (cause : Option Nat)
    (payload : Payload) : (Event.round emitter cause payload).Aside := by
  intro s
  cases emitter with
  | state t => exact absurd rfl (noState t)
  | _ => rfl

/-- **The history of a state**, the latest moment first. -/
def World.history (w : World) (s : StateId) : List Moment :=
  w.trace.filterMap (Event.moment? s)

lemma World.history_record {w : World} {event : Event} (aside : event.Aside) (s : StateId) :
    (w.record event).history s = w.history s :=
  List.filterMap_cons_none (aside s)

lemma World.history_record_of_moment {w : World} {event : Event} {s : StateId} {m : Moment}
    (h : event.moment? s = some m) : (w.record event).history s = m :: w.history s :=
  List.filterMap_cons_some h

namespace History

/-! ## Reading a history -/

/-- How many batches were left open. -/
def depth : List Moment → Nat
  | [] => 0
  | .opened :: h => depth h + 1
  | .closed :: h => depth h - 1
  | _ :: h => depth h

/-- The revision that the state came to. -/
def revision : List Moment → Nat
  | [] => 0
  | .changed r :: _ => r
  | _ :: h => revision h

/-- Whether there was a change since the outermost batch was opened. -/
def touched : List Moment → Bool
  | [] => false
  | .changed _ :: _ => true
  | .opened :: h => 0 < depth h && touched h
  | _ :: h => touched h

/-- **Whether a round is called for** by what happened last: a change outside all batches, or the
end of an outermost batch in which there was a change. -/
def owes : List Moment → Bool
  | .changed _ :: h => depth h == 0
  | .closed :: h => depth h == 1 && touched h
  | _ => false

/-- **A regular history.**  Wherever a round is called for, it follows at once, for the revision
that the state came to; and no other rounds do. -/
inductive Regular : List Moment → Prop
  | nil : Regular []
  | changed {h : List Moment} (rest : Regular h) (settled : owes h = false) :
      Regular (.changed (revision h + 1) :: h)
  | opened {h : List Moment} (rest : Regular h) (settled : owes h = false) : Regular (.opened :: h)
  | closed {h : List Moment} (rest : Regular h) (settled : owes h = false) (inside : 0 < depth h) :
      Regular (.closed :: h)
  | round {h : List Moment} (rest : Regular h) (due : owes h = true) :
      Regular (.round (some (revision h)) :: h)

/-- A round is called for only while no batch is open. -/
lemma depth_of_owes {h : List Moment} (due : owes h = true) : depth h = 0 := by
  cases h with
  | nil => rfl
  | cons m h =>
      cases m with
      | changed r => simpa [owes, depth] using due
      | opened => simp [owes] at due
      | closed =>
          simp only [owes, Bool.and_eq_true, beq_iff_eq] at due
          simp [depth, due.1]
      | round cause => simp [owes] at due

/-- If the end of a batch calls for no round, either others are open or nothing was changed. -/
lemma touched_of_settled {h : List Moment} (inside : 0 < depth h)
    (settled : owes (.closed :: h) = false) :
    touched h = (decide (0 < depth (.closed :: h)) && touched h) := by
  by_cases last : depth h = 1
  · have untouched : touched h = false := by simpa [owes, last] using settled
    rw [untouched, Bool.and_false]
  · have others : 0 < depth (.closed :: h) := by
      show 0 < depth h - 1
      omega
    rw [decide_eq_true others, Bool.true_and]

/-- A moment that is no round adds none. -/
lemma exists_round_cons {m : Moment} (noRound : ∀ cause, m ≠ .round cause) {h k : List Moment} :
    (∃ cause, .round cause :: k <:+ m :: h) ↔ ∃ cause, .round cause :: k <:+ h := by
  refine exists_congr fun cause => ?_
  rw [List.suffix_cons_iff]
  refine or_iff_right fun eq => ?_
  exact noRound cause (List.cons.inj eq).1.symm

/-- **A round follows exactly where one is called for.** -/
theorem Regular.round_iff {h k : List Moment} (regular : Regular h) (before : k <:+ h)
    (past : k ≠ h) :
    (∃ cause, .round cause :: k <:+ h) ↔ owes k = true := by
  have never : ∀ h : List Moment, ¬ ∃ cause, .round cause :: h <:+ h := by
    rintro h ⟨cause, suffix⟩
    exact absurd suffix.length_le (Nat.not_succ_le_self _)
  -- what was true before another moment is true after it, if that moment is no round
  have further : ∀ {m : Moment} {h : List Moment}, (∀ cause, m ≠ .round cause) → owes h = false →
      (k <:+ h → k ≠ h → ((∃ cause, .round cause :: k <:+ h) ↔ owes k = true)) →
      k <:+ m :: h → k ≠ m :: h → ((∃ cause, .round cause :: k <:+ m :: h) ↔ owes k = true) := by
    intro m h noRound settled ih before past
    rw [exists_round_cons noRound]
    have before := (List.suffix_cons_iff.1 before).resolve_left past
    by_cases here : k = h
    · subst here
      simp [never, settled]
    · exact ih before here
  induction regular with
  | nil => exact absurd (List.suffix_nil.1 before) past
  | changed _ settled ih => exact further nofun settled ih before past
  | opened _ settled ih => exact further nofun settled ih before past
  | closed _ settled _ ih => exact further nofun settled ih before past
  | @round h _ due ih =>
      have before := (List.suffix_cons_iff.1 before).resolve_left past
      by_cases here : k = h
      · subst here
        exact iff_of_true ⟨_, List.suffix_refl _⟩ due
      · refine Iff.trans (exists_congr fun cause => ?_) (ih before here)
        rw [List.suffix_cons_iff]
        exact or_iff_right fun eq => here (List.cons.inj eq).2

/-! ## Counting rounds -/

/-- How many rounds there were. -/
def rounds : List Moment → Nat
  | [] => 0
  | .round _ :: h => rounds h + 1
  | _ :: h => rounds h

/-- How many changes there were outside all batches. -/
def changesOutside : List Moment → Nat
  | [] => 0
  | .changed _ :: h => changesOutside h + if depth h = 0 then 1 else 0
  | _ :: h => changesOutside h

/-- How many outermost batches ended in which there was a change. -/
def batchesTouched : List Moment → Nat
  | [] => 0
  | .closed :: h => batchesTouched h + if depth h = 1 ∧ touched h then 1 else 0
  | _ :: h => batchesTouched h

/-- The revision for which the latest round was begun, if there was one. -/
def lastRound : List Moment → Option Nat
  | [] => none
  | .round cause :: _ => cause
  | _ :: h => lastRound h

/-- **Every round that was called for was begun**, but for the one that is called for just now. -/
lemma rounds_eq {h : List Moment} (regular : Regular h) :
    rounds h + (if owes h then 1 else 0) = changesOutside h + batchesTouched h := by
  induction regular with
  | nil => rfl
  | changed _ settled ih =>
      simp only [settled, Bool.false_eq_true, if_false, Nat.add_zero] at ih
      simp only [rounds, owes, changesOutside, batchesTouched, beq_iff_eq, ih]
      omega
  | opened _ settled ih =>
      simp only [settled, Bool.false_eq_true, if_false, Nat.add_zero] at ih
      simp [rounds, owes, changesOutside, batchesTouched, ih]
  | closed _ settled _ ih =>
      simp only [settled, Bool.false_eq_true, if_false, Nat.add_zero] at ih
      simp only [rounds, owes, changesOutside, batchesTouched, Bool.and_eq_true, beq_iff_eq, ih]
      omega
  | round _ due ih =>
      simp only [due, if_true] at ih
      simp [rounds, owes, changesOutside, batchesTouched, ih]

/-- The latest round was about the latest change, unless one is called for just now or there was a
change in the batches that are open. -/
lemma lastRound_of_settled {h : List Moment} (regular : Regular h) (settled : owes h = false)
    (quiet : 0 < depth h → touched h = false) (changed : 0 < revision h) :
    lastRound h = some (revision h) := by
  induction regular with
  | nil => cases changed
  | @changed before _ _ _ =>
      have inside : depth before ≠ 0 := by simpa [owes] using settled
      have untouched := quiet (Nat.pos_of_ne_zero inside)
      simp [touched] at untouched
  | opened _ wasSettled ih =>
      refine ih wasSettled (fun inside => ?_) changed
      simpa [touched, inside] using quiet (Nat.succ_pos _)
  | @closed before _ wasSettled _ ih =>
      refine ih wasSettled (fun _ => ?_) changed
      by_cases last : depth before = 1
      · simpa [owes, last] using settled
      · exact quiet (by simp only [depth]; omega)
  | round => rfl

/-- **Once all batches are closed, the latest round was about the latest change.** -/
lemma lastRound_eq {h : List Moment} (regular : Regular h) (settled : owes h = false)
    (outside : depth h = 0) (changed : 0 < revision h) : lastRound h = some (revision h) :=
  lastRound_of_settled regular settled (fun inside => absurd outside (Nat.ne_of_gt inside)) changed

end History

end StoryEngine
