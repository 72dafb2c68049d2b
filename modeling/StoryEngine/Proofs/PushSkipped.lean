import StoryEngine.Proofs.Places

/-!
# Whether a quality set is notified of another condition

A quality set keeps its result for as long as its state stays at a revision.  When a member gets
another condition the state stays where it is, so nothing but the push of the member keeps the set
from answering with the result of the old condition.

* `World.PushSkipped` — an expression that does not push: nobody listens to it, or it has no state.
* `World.setResult_changeExpr_pushSkipped` — **if it does not push, a set answers as before**,
  whatever the new condition is.
* `World.setResult_changeExpr_pushed` — **if it pushes, a set answers by the new condition**.
* `World.setResult_changeExpr_of_passes` — which of the two it is, wherever a run passes through
  that clears no emitter.  It does not matter where the set comes among the listeners of its member.
-/

namespace StoryEngine.World

variable {w : World} {react : Reaction} {since : NodeId → Nat}

/-! ## Pushes that are skipped -/

/-- **An expression that does not push.** -/
def PushSkipped (w : World) (e : ExprId) : Prop :=
  w.exprEntries e = [] ∨ ∃ fault, w.exprState e = .error fault

/-- **An expression that gets another condition** is bound where it was, and has the listeners that
it had. -/
lemma rewriteExpr_expr (e other : ExprId) (cond : String) (w : World) :
    ((w.rewriteExpr e cond).expr other).binding = (w.expr other).binding ∧
      ((w.rewriteExpr e cond).expr other).listeners = (w.expr other).listeners := by
  rw [rewriteExpr, invalidateExpr, onExpr_onExpr, expr_onExpr]
  split <;> exact ⟨rfl, rfl⟩

lemma exprState_rewriteExpr (e other : ExprId) (cond : String) (w : World) :
    (w.rewriteExpr e cond).exprState other = w.exprState other := by
  rw [exprState, exprState, (rewriteExpr_expr e other cond w).1]
  rfl

lemma exprEntries_rewriteExpr (e other : ExprId) (cond : String) (w : World) :
    (w.rewriteExpr e cond).exprEntries other = w.exprEntries other := by
  rw [exprEntries, exprEntries, (rewriteExpr_expr e other cond w).2]
  rfl

/-- If the push is skipped no more happens than that the expression has another condition, and
perhaps a remark. -/
lemma changeExpr_of_pushSkipped (react : Reaction) {e : ExprId} (skipped : w.PushSkipped e)
    (cond : String) :
    w.changeExpr react e cond = w.rewriteExpr e cond ∨
      ∃ remark, w.changeExpr react e cond = (w.rewriteExpr e cond).note remark := by
  rw [changeExpr, pushExpr, exprEntries_rewriteExpr]
  split
  · exact .inl rfl
  · next somebody =>
      rcases skipped with nobody | ⟨fault, state⟩
      · rw [nobody] at somebody
        exact absurd rfl somebody
      · rw [exprResult, exprState_rewriteExpr, state]
        exact .inr ⟨_, rfl⟩

/-- **If a member does not push, a quality set answers as before.**  What it kept at the revision of
its state is its result still, whatever the new condition of its member. -/
theorem setResult_changeExpr_pushSkipped {e : ExprId} (skipped : w.PushSkipped e) (cond : String)
    {q : SetId} {s : StateId} (state : w.setState q = .ok s) {value : Bool}
    (kept : (w.set q).cache.get? (w.store s).revision = some value) :
    ((w.changeExpr react e cond).setResult q).2 = .ok value := by
  have answers : ∀ v : World, v.setState q = w.setState q → v.set q = w.set q →
      v.store s = w.store s → (v.setResult q).2 = .ok value := by
    intro v sameState sameSet sameStore
    rw [setResult, sameState, state]
    dsimp only
    rw [sameSet, sameStore, kept]
  rcases changeExpr_of_pushSkipped react skipped cond with same | ⟨remark, same⟩
  · rw [same]
    exact answers _ rfl rfl rfl
  · rw [same]
    exact answers _ rfl rfl rfl

/-! ## Pushes -/

/-- **If a member pushes, a quality set answers by the new condition**: by what its members come to
now, each where it is bound. -/
theorem setResult_changeExpr_pushed (readOnly : ReadOnly react) (fresh : w.Fresh)
    (accounted : w.Accounted since) {q : SetId} (alive : w.Alive (.set q)) {m : Member}
    (mem : m ∈ (w.set q).members) {s : StateId} (state : w.exprState m.expr = .ok s)
    (cond : String) :
    ((w.changeExpr react m.expr cond).setResult q).2 =
      ((w.changeExpr react m.expr cond).setState q).bind fun _ =>
        (w.changeExpr react m.expr cond).allHold ((w.changeExpr react m.expr cond).members q) := by
  have rewritten : (w.rewriteExpr m.expr cond).Fresh := fresh.rewriteExpr m.expr cond
  have account := accounted.still (still_rewriteExpr m.expr cond w)
  have result := rewritten.exprResult_value ((exprState_rewriteExpr _ _ cond w).trans state)
  obtain ⟨before, after, entries⟩ := accounted.exprEntries_eq alive mem
  rw [← exprEntries_rewriteExpr m.expr m.expr cond] at entries
  have onlyCalls := OnlyCalls.pushExpr readOnly rewritten account.subscribersExist
    (set_bound (List.mem_map_of_mem mem)) entries result
  have forgotten : ((w.rewriteExpr m.expr cond).invalidateSet q).Fresh :=
    rewritten.alike (fun _ => rfl) fun _ => rfl
  have empty : ∀ revision,
      (((w.rewriteExpr m.expr cond).invalidateSet q).set q).cache.get? revision = none := by
    intro revision
    rw [invalidateSet, set_onSet, if_pos rfl]
    exact Cache.get?_invalidate _ _
  rw [changeExpr, onlyCalls.results, forgotten.setResult_eq, onlyCalls.only.setState_eq,
    onlyCalls.only.members_eq, onlyCalls.only.allHold_eq]
  simp only [empty]

/-- **What a quality set answers once a member has another condition.**  This is said of every world
that a run passes through in which nodes that have an owner are disposed of through it and no
emitter is cleared, if the listeners do no more than read.  The set answers by what its members come
to now exactly as long as the member is bound to a state that is alive; else it goes on answering
with the result that it kept. -/
theorem setResult_changeExpr_of_passes {look : Supervisor} {depth : Nat} {steps : List Step}
    (keeping : look.Obeys Licence.keeping.allows) (passes : Passes look depth steps w)
    (readOnly : ReadOnly react) {q : SetId} (alive : w.Alive (.set q)) {m : Member}
    (mem : m ∈ (w.set q).members) (cond : String) :
    let v := w.changeExpr react m.expr cond
    (∀ s, w.exprState m.expr = .ok s →
      (v.setResult q).2 = (v.setState q).bind fun _ => v.allHold (v.members q)) ∧
    ∀ fault, w.exprState m.expr = .error fault → ∀ s value, w.setState q = .ok s →
      (w.set q).cache.get? (w.store s).revision = some value → (v.setResult q).2 = .ok value := by
  have watches : look.Watches := fun step w w' passed => (keeping step w w' passed).1
  obtain ⟨since, reachable⟩ := Upheld.of_passes (upheld_reachable _) ⟨_, .empty⟩ keeping passes
  have fresh := Fresh.invariant.of_passes watches passes
  refine ⟨fun s state => ?_, fun fault state s value setState kept => ?_⟩
  · exact setResult_changeExpr_pushed readOnly fresh reachable.transacted.accounted alive mem state
      cond
  · exact setResult_changeExpr_pushSkipped (.inr ⟨fault, state⟩) cond setState kept

/-- A member of a set that has been read is released, gets another condition, and is bound again. -/
def changesUnbound : List Act :=
  [.state (.create "state"), .set (.create "set" ["false"] (some "state")),
    .set (.member "set" 0 "member"), .node (.result "set"), .node (.unbind "member"),
    .expr (.change "member" "true"), .node (.bind "member" "state")]

/-- The member holds, and the set answers that it does not. -/
example :
    let w := runUnder .free fire (changesUnbound.map .act) .empty
    (w.exprResult ⟨0⟩).2 = .ok true ∧ (w.setResult ⟨0⟩).2 = .ok false := by
  decide +kernel

end StoryEngine.World
