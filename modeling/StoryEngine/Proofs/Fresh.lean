import Mathlib.Tactic.Common
import StoryEngine.World.Edit

/-!
# Cached results of expressions

An expression's cached result counts as long as its stamp is the revision of the state that the
expression is bound to.  Nothing else decides whether it is trusted, so as long as it counts it had
better be right, whatever else is going on.

* `World.exprHolds` — what the result of an expression should be.
* **`World.Fresh`** — cached results of expressions are right while they count.
* `ExprNode.Keeps` — a change of an expression that cannot make a result wrong.
* `World.Fresh.onExpr`, `World.Fresh.onStore` — what changes of one object have to respect.
* `World.Fresh.keepResult` — a result that is computed and kept is right.
* `World.Fresh.exprResult_value` — so is one that is read.
-/

namespace StoryEngine

/-- **A change of an expression that makes no result wrong**: the result is gone, or nothing that it
is about has changed. -/
inductive ExprNode.Keeps (n n' : ExprNode) : Prop
  | forgotten (gone : ∀ value stamp, n'.cache ≠ .valid value stamp)
  | same (expression : n'.expression = n.expression) (binding : n'.binding = n.binding)
      (cache : n'.cache = n.cache)

lemma Cache.invalidate_ne (c : Cache) (value : Bool) (stamp : Nat) :
    c.invalidate ≠ .valid value stamp := by
  cases c <;> simp [invalidate]

lemma Cache.store_eq_valid {c : Cache} {value value' : Bool} {stamp stamp' : Nat}
    (h : c.store value stamp = .valid value' stamp') : value = value' ∧ stamp = stamp' := by
  cases c <;> simp_all [store]

namespace World

/-- **Whether an expression holds** in a state. -/
def exprHolds (w : World) (e : ExprId) (s : StateId) : Bool :=
  (w.expr e).expression.check (w.store s).get?

lemma checkAgainst_value (e : Expression) (s : StateId) (w : World) :
    (w.checkAgainst e s).2 = e.check (w.store s).get? := by
  rw [checkAgainst, Expression.check]
  split <;> simp [*]

/-- A binding gives a state exactly if it is there and its state is alive. -/
lemma boundState_ok {w : World} {kind : NodeKind} {o : Option StateId} {s : StateId} :
    w.boundState kind o = .ok s ↔ o = some s ∧ w.stateAlive s := by
  cases o with
  | none => simp [boundState]
  | some s' =>
      rw [boundState]
      split
      · next alive => simp only [Except.ok.injEq, Option.some.injEq]
                      exact ⟨fun eq => ⟨eq, eq ▸ alive⟩, And.left⟩
      · next dead => simp only [reduceCtorEq, Option.some.injEq, false_iff, not_and]
                     exact fun eq alive => dead (eq ▸ alive)

/-- **Cached results of expressions are right while they count**, and none comes from the future. -/
structure Fresh (w : World) : Prop where
  right : ∀ {e b value stamp}, (w.expr e).binding = some b → (w.expr e).cache = .valid value stamp →
    stamp ≤ (w.store b.state).revision ∧
      (stamp = (w.store b.state).revision → value = w.exprHolds e b.state)

theorem Fresh.empty : World.empty.Fresh :=
  ⟨nofun⟩

variable {w : World}

/-! ## Changes of one object -/

/-- Two changes of an expression are one change. -/
lemma onExpr_onExpr (e : ExprId) (f g : ExprNode → ExprNode) (w : World) :
    (w.onExpr e f).onExpr e g = w.onExpr e fun n => g (f n) := by
  simp only [onExpr, Table.modify_modify]

/-- **A change of an expression.** -/
lemma Fresh.onExpr (h : w.Fresh) (e : ExprId) {f : ExprNode → ExprNode}
    (right : ∀ {b value stamp}, (f (w.expr e)).binding = some b →
      (f (w.expr e)).cache = .valid value stamp → stamp ≤ (w.store b.state).revision ∧
        (stamp = (w.store b.state).revision →
          value = (f (w.expr e)).expression.check (w.store b.state).get?)) :
    (w.onExpr e f).Fresh := by
  refine ⟨?_⟩
  intro other b value stamp binding cache
  rw [expr_onExpr] at binding cache
  rw [exprHolds, expr_onExpr]
  split at binding
  · next here =>
      subst here
      rw [if_pos rfl] at cache ⊢
      exact right binding cache
  · next elsewhere =>
      rw [if_neg elsewhere] at cache ⊢
      exact h.right binding cache

lemma Fresh.keepExpr (h : w.Fresh) (e : ExprId) {f : ExprNode → ExprNode}
    (keeps : (w.expr e).Keeps (f (w.expr e))) : (w.onExpr e f).Fresh := by
  refine h.onExpr e ?_
  intro b value stamp binding cache
  cases keeps with
  | forgotten gone => exact absurd cache (gone value stamp)
  | same expression sameBinding sameCache =>
      rw [sameBinding] at binding
      rw [sameCache] at cache
      rw [expression]
      exact h.right binding cache

/-- **A change of a state.**  With other contents the state has to come to a new revision. -/
lemma Fresh.onStore (h : w.Fresh) (s : StateId) {f : Store → Store}
    (revision : (w.store s).revision ≤ (f (w.store s)).revision)
    (contents : (f (w.store s)).revision = (w.store s).revision →
      (f (w.store s)).contents = (w.store s).contents) : (w.onStore s f).Fresh := by
  refine ⟨?_⟩
  intro e b value stamp binding cache
  obtain ⟨le, eq⟩ := h.right binding cache
  rw [exprHolds, store_onStore]
  split
  · next here =>
      subst here
      refine ⟨Nat.le_trans le revision, fun counts => ?_⟩
      have same := Nat.le_antisymm (counts ▸ le) revision
      have look : (f (w.store b.state)).get? = (w.store b.state).get? := by
        funext key
        rw [Store.get?, Store.get?, contents same]
      rw [look]
      exact eq (counts.trans same)
  · exact ⟨le, eq⟩

/-- What expressions and states look like matters, not how they are put down. -/
lemma Fresh.alike {w' : World} (h : w.Fresh) (store : ∀ s, w'.store s = w.store s)
    (expr : ∀ e, w'.expr e = w.expr e) : w'.Fresh := by
  refine ⟨?_⟩
  intro e b value stamp
  rw [exprHolds, expr, store]
  exact h.right

/-- A new expression has no result yet. -/
lemma Fresh.addExpr (h : w.Fresh) (cond : String) :
    ({ w with exprs := w.exprs.add (.new cond) } : World).Fresh := by
  have read : ∀ e : ExprId, ({ w with exprs := w.exprs.add (.new cond) } : World).expr e =
      if e.place = w.exprs.size then .new cond else w.expr e := fun e => Table.get_add _ _ _
  refine ⟨?_⟩
  intro e b value stamp binding cache
  rw [read] at binding cache
  rw [exprHolds, read]
  split at binding
  · cases binding
  · next old =>
      rw [if_neg old] at cache ⊢
      exact h.right binding cache

/-- **An expression gets another condition** and invalidates its cache. -/
lemma Fresh.rewriteExpr (h : w.Fresh) (e : ExprId) (cond : String) :
    (w.rewriteExpr e cond).Fresh := by
  rw [World.rewriteExpr, invalidateExpr, onExpr_onExpr]
  exact h.keepExpr e (.forgotten (Cache.invalidate_ne _))

/-! ## Reading -/

lemma checkAgainst_expr (e : Expression) (s : StateId) (w : World) (other : ExprId) :
    (w.checkAgainst e s).1.expr other = w.expr other := by
  rw [checkAgainst]
  split <;> rfl

lemma checkAgainst_store (e : Expression) (s : StateId) (w : World) (other : StateId) :
    (w.checkAgainst e s).1.store other = w.store other := by
  rw [checkAgainst]
  split <;> rfl

lemma checkAgainst_exprState (e : Expression) (s : StateId) (w : World) (other : ExprId) :
    (w.checkAgainst e s).1.exprState other = w.exprState other := by
  rw [checkAgainst]
  split <;> rfl

/-- **A result that is computed and kept is right.** -/
lemma Fresh.keepResult (h : w.Fresh) {e : ExprId} {s : StateId} (state : w.exprState e = .ok s)
    {value : Bool} (right : value = w.exprHolds e s) :
    (w.onExpr e fun n => { n with cache := n.cache.store value (w.store s).revision }).Fresh := by
  obtain ⟨bound, -⟩ := boundState_ok.1 state
  refine h.onExpr e ?_
  intro b value' stamp binding cache
  obtain ⟨rfl, rfl⟩ := Cache.store_eq_valid cache
  rw [binding] at bound
  obtain rfl := Option.some.inj bound
  exact ⟨Nat.le_refl _, fun _ => right⟩

/-- **A result that counts is what a check against the state comes to.** -/
lemma Fresh.exprResult_value (h : w.Fresh) {e : ExprId} {s : StateId}
    (state : w.exprState e = .ok s) : (w.exprResult e).2 = .ok (w.exprHolds e s) := by
  obtain ⟨bound, -⟩ := boundState_ok.1 state
  obtain ⟨b, binding, rfl⟩ := Option.map_eq_some_iff.1 bound
  rw [World.exprResult, state]
  dsimp only
  split
  · next value cached => rw [(h.right binding (Cache.get?_eq_some.1 cached)).2 rfl]
  · exact congrArg _ (checkAgainst_value _ _ w)

end World

end StoryEngine
