import StoryEngine.Proofs.Numbered
import StoryEngine.Proofs.Performing

/-!
# Worlds that are reached

Some things hold in every run, whatever is done in it.  They hold of the empty world, and whatever
the engine does keeps them.

* `World.Reaches` — engine steps lead from one world to another.
* `World.Reached` — a world that they lead to from the empty one.
* `Preserved.reaches` — all that the engine and the listeners do is made of engine steps.
* `Preserved.of_engineSteps` — what all engine steps under a rule keep is kept.
* **`Invariant`** — a property of the empty world that every move keeps.
* **`Invariant.of_passes`** — it holds in every world that any run passes through.
-/

namespace StoryEngine

/-! ## Engine steps one after the other -/

/-- **Engine steps lead from one world to another.**  That an expression gets another condition is
no engine step, but it counts here too. -/
inductive World.Reaches (w : World) : World → Prop
  | refl : Reaches w w
  | engineStep {v v' : World} (reaches : Reaches w v) (engineStep : EngineStep .free v v') :
      Reaches w v'
  | rewrite {v : World} (reaches : Reaches w v) (e : ExprId) (cond : String) :
      Reaches w (v.rewriteExpr e cond)

/-- **A world that is reached** from the empty one. -/
def World.Reached (w : World) : Prop :=
  World.empty.Reaches w

namespace World

variable {w v u : World}

lemma Reaches.trans (h : w.Reaches v) (h' : v.Reaches u) : w.Reaches u := by
  induction h' with
  | refl => exact h
  | engineStep _ engineStep ih => exact ih.engineStep engineStep
  | rewrite _ e cond ih => exact ih.rewrite e cond

/-- What every move keeps is kept all the way. -/
lemma Reaches.kept {P : World → Prop} (move : ∀ {v v'}, P v → Move v v' → P v') (start : P w)
    (reaches : w.Reaches v) : P v := by
  induction reaches with
  | refl => exact start
  | engineStep _ engineStep ih => exact move ih engineStep.move
  | rewrite _ e cond ih => exact move ih (.onward (onward_rewriteExpr e cond _))

/-- Engine steps lead to later worlds. -/
lemma Reaches.later (reaches : w.Reaches v) : w.Later v :=
  reaches.kept (fun later move => later.trans move.later) (.refl w)

/-- **Cards that can be got hold of exist** in every world that is reached. -/
lemma Reached.exist (reached : w.Reached) : w.CardsExist := by
  induction reached with
  | refl => exact .empty
  | engineStep _ engineStep ih => exact ih.engineStep engineStep
  | rewrite _ e cond ih => exact ih.tighter (tighter_rewriteExpr e cond _) fun _ => False.elim

end World

open World in
/-- The quality set that is the first listener of an expression can be held on to, for it is
alive. -/
lemma World.granted_owner {w : World} {e : ExprId} {k : Nat} {q : SetId}
    {rest : List (Nat × ExprListener)} (entries : w.exprEntries e = (k, .owner q) :: rest) :
    w.Granted [] w.names ([.set q] ++ w.held) := by
  have listens : (k, ExprListener.owner q) ∈ w.exprEntries e := by
    rw [entries]
    exact List.mem_cons_self
  have alive : w.Alive (.set q) := setAlive_iff.1 (List.mem_filter.1 listens).2
  refine granted_held (fun h mem => ?_) (count_hold (by simp))
  rcases List.mem_append.1 mem with mem | mem
  · exact List.mem_singleton.1 mem ▸ alive
  · exact alive_of_held mem

open World in
/-- **Whatever the engine and the listeners do is made of engine steps**, from a world on that is
reached. -/
theorem Preserved.reaches {w : World} (reached : w.Reached) :
    Preserved .free (fun v => w.Reaches v) fun _ v => w.Reaches v where
  engineStep := .engineStep
  bounded reaches mem := Reached.exist (reached.trans reaches) |>.bounded (alive_of_held mem)
  rewrite e cond reaches := reaches.rewrite e cond
  skips reaches _ := reaches
  fault reaches _ := reaches
  read reaches := reaches.engineStep (.readExpr _)
  record aside reaches := reaches.engineStep (.record _ aside)
  user reaches _ := reaches
  owner reaches entries := (reaches.engineStep (.roots _ _ (granted_owner entries))).engineStep
    (.invalidateSet _)

open World in
/-- **What all engine steps under a rule keep** is kept by whatever the engine and the listeners do
under it, as long as another condition of an expression makes no difference to it either. -/
theorem Preserved.of_engineSteps {rule : Rule} {P : World → Prop}
    (engineStep : ∀ {w v : World}, P w → EngineStep rule w v → P v)
    (rewrite : ∀ {w : World} (e : ExprId) (cond : String), P w → P (w.rewriteExpr e cond)) :
    Preserved rule (fun w => w.Reached ∧ P w) fun _ w => w.Reached ∧ P w := by
  have done : ∀ {w v : World}, w.Reached ∧ P w → EngineStep rule w v → v.Reached ∧ P v :=
    fun holds done => ⟨holds.1.engineStep (done.mono (fun _ _ => trivial) (fun _ _ => trivial)
      fun _ _ _ => trivial), engineStep holds.2 done⟩
  exact {
    engineStep := done
    bounded := fun holds mem => (Reached.exist holds.1).bounded (alive_of_held mem)
    rewrite := fun e cond holds => ⟨holds.1.rewrite e cond, rewrite e cond holds.2⟩
    skips := fun holds _ => holds
    fault := fun holds _ => holds
    read := fun holds => done holds (.readExpr _)
    record := fun aside holds => done holds (.record _ aside)
    user := fun holds _ => holds
    owner := fun holds entries =>
      done (done holds (.roots _ _ (granted_owner entries))) (.invalidateSet _) }

/-! ## Runs -/

/-- Nothing is against the law of the rule that forbids nothing. -/
lemma Rule.free_allows (step : Step) (w : World) : Rule.free.allows step w := by
  unfold allows
  split <;> simp [free]

/-- Who only watches obeys the rule that forbids nothing. -/
lemma Supervisor.Watches.obeys {look : Supervisor} (watches : look.Watches) :
    look.Obeys Rule.free.allows :=
  fun step w w' passed => ⟨watches step w w' passed, Rule.free_allows step w⟩

section
variable {look : Supervisor} (watches : look.Watches)
include watches

/-- **Every world that a run passes through is reached.** -/
theorem World.Reached.of_passes {depth : Nat} {steps : List Step} {w : World}
    (passes : World.Passes look depth steps w) : w.Reached := by
  have kept : Preserved .free World.Reached fun _ => World.Reached := .reaches .refl
  exact kept.of_passes .refl watches.obeys passes

end

/-! ## Invariants -/

/-- **An invariant**: it holds of the empty world, and every move keeps it. -/
structure Invariant (P : World → Prop) : Prop where
  start : P .empty
  move : ∀ {w w'}, P w → Move w w' → P w'

namespace Invariant

variable {P : World → Prop} (h : Invariant P)
include h

/-- **An invariant holds of every world that is reached.** -/
theorem of_reached {w : World} (reached : w.Reached) : P w :=
  World.Reaches.kept h.move h.start reached

/-- **An invariant holds in every world that a run passes through**, whatever is done in it. -/
theorem of_passes {look : Supervisor} (watches : look.Watches) {depth : Nat} {steps : List Step}
    {w : World} (passes : World.Passes look depth steps w) : P w :=
  h.of_reached (.of_passes watches passes)

end Invariant

/-- Numbers of subscriptions are in order. -/
theorem World.Numbered.invariant : Invariant World.Numbered :=
  ⟨.empty, .move⟩

end StoryEngine
