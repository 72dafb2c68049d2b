import StoryEngine.Proofs.AtRest
import StoryEngine.Proofs.Reading

/-!
# Disposal is final, but for members

Once a quality set, a card or a deck has been disposed of, it is released for good, and so is an
expression that no set has as a member.  An expression that was disposed of on its own but is still
a member of a set is not out of reach: it is bound again with its set, and read like any other.

* **`World.AtRest.engineStep`** — every engine step keeps what has been disposed of released, but
  for members.
* `World.Reaches.disposed` — what has been disposed of stays so, and becomes no member.
* `World.reading` — whether a node can be read.
* **`World.disposed_for_good`** — what has been disposed of, and is no member, is neither bound nor
  read ever again.
* **`World.disposed_member`** — a member is bound with its set, whether disposed of or not.
-/

namespace StoryEngine.World

variable {w v : World}

/-! ## Runs -/

/-- **Every engine step keeps what has been disposed of released**, but for members. -/
theorem AtRest.engineStep {rule : Rule} (h : w.AtRest) (engineStep : EngineStep rule w v) :
    v.AtRest := by
  cases engineStep with
  | record event => exact h.record event
  | roots names held => exact h.withRoots names held
  | amend s contents => exact h.amend s contents
  | enter s => exact (h.withRoots _ _).enterBatch s
  | shut s names held => exact (h.withRoots names held).shut s
  | newState => exact h.alike (fun _ => rfl) (fun _ => rfl) (fun _ => rfl) fun _ => rfl
  | newBoard => exact h.alike (fun _ => rfl) (fun _ => rfl) (fun _ => rfl) fun _ => rfl
  | newExpr cond state => exact (h.newExpr cond state).withRoots _ _
  | newSet conds state => exact (h.newSet conds state).withRoots _ _
  | newCard hash content conds state => exact (h.newCard hash content conds state).withRoots _ _
  | newDeck config cards state => exact (h.newDeck config cards state).withRoots _ _
  | newListener emitter name program times =>
      exact (h.subscribeTo emitter ⟨w.listeners.size⟩).alike (fun _ => rfl) (fun _ => rfl)
        (fun _ => rfl) fun _ => rfl
  | spend => exact h.alike (fun _ => rfl) (fun _ => rfl) (fun _ => rfl) fun _ => rfl
  | unsubscribeFrom => exact h.unsubscribeFrom _ _
  | clearListeners emitter => exact h.clearListeners emitter
  | readExpr e => exact h.cachesOnly (cachesOnly_exprResult e w)
  | readSet q => exact h.cachesOnly (cachesOnly_setResult q w)
  | invalidateExpr e => exact h.cachesOnly (cachesOnly_invalidateExpr e w)
  | invalidateSet q => exact h.cachesOnly (cachesOnly_invalidateSet q w)
  | admitExpr => exact h.keepExpr _ (fun _ => rfl) fun _ => rfl
  | admitSet => exact h.keepSet _ (fun _ => rfl) (fun _ => rfl) fun _ => rfl
  | admitCard => exact h.keepCard _ (fun _ => rfl) fun _ => rfl
  | admitDeck => exact h.keepDeck _ (fun _ => rfl) fun _ => rfl
  | bind n s => exact h.bindNode n s
  | unbind n => exact h.unbindNode n
  | dispose n => exact h.disposeNode n
  | addQuality q cond =>
      exact (h.insertQuality q cond).cachesOnly (cachesOnly_invalidateSet q _)
  | dropMember q _ m => exact h.dropMember q m
  | replaceQualities c conds => exact h.replaceQualities c conds
  | setContent c => exact h.keepCard c (fun _ => rfl) fun _ => rfl
  | replaceCards d cards => exact h.replaceCards d cards
  | insertCard d c => exact h.insertCard d c
  | takeCard d c gone kept => exact h.takeCard d c gone kept
  | replaceCard d c index old => exact h.replaceCard d c index old
  | reorder d => exact h.keepDeck d (fun _ => rfl) fun _ => rfl
  | pick d => exact h.keepDeck d (fun _ => rfl) fun _ => rfl

/-- What has been disposed of is not bound, but for members, in every world that is reached. -/
theorem Reached.atRest (reached : w.Reached) : w.AtRest := by
  induction reached with
  | refl => exact .empty
  | engineStep _ engineStep ih => exact ih.engineStep engineStep
  | rewrite _ e cond ih => exact ih.rewriteExpr e cond

/-- What has been disposed of exists. -/
lemma expr_bound_of_disposed {e : ExprId} (disposed : (w.expr e).disposed) :
    e.place < w.exprs.size := by
  by_contra above
  rw [expr, Table.get_of_size_le (Nat.not_lt.1 above)] at disposed
  cases disposed

/-- **What has been disposed of stays so**, and does not become a member. -/
lemma Reaches.disposed (reaches : w.Reaches v) {n : NodeId} (disposed : w.isDisposed n)
    (free : ¬ w.IsMember n) : v.isDisposed n ∧ ¬ v.IsMember n := by
  induction reaches with
  | refl => exact ⟨disposed, free⟩
  | @engineStep v v' reaches engineStep ih =>
      obtain ⟨disposed, free⟩ := ih
      refine ⟨?_, ?_⟩
      · cases n with
        | expr e => exact (engineStep.later.expr e).disposed disposed
        | set q => exact (engineStep.later.set q).disposed disposed
        | card c => exact (engineStep.later.card c).disposed disposed
        | deck d => exact (engineStep.later.deck d).disposed disposed
      · rintro ⟨e, q, rfl, mem⟩
        rcases engineStep.wider.members q e mem with was | new
        · exact free ⟨e, q, rfl, was⟩
        · exact absurd (expr_bound_of_disposed disposed) (Nat.not_lt.2 new)
  | @rewrite v reaches e cond ih =>
      have tight : v.Tighter (fun _ => False) _ := tighter_rewriteExpr e cond v
      obtain ⟨disposed, free⟩ := ih
      refine ⟨?_, ?_⟩
      · cases n with
        | expr other => exact ((onward_rewriteExpr e cond v).toLater.expr other).disposed disposed
        | set q => exact disposed
        | card c => exact disposed
        | deck d => exact disposed
      · rintro ⟨other, q, rfl, mem⟩
        exact free ⟨other, q, rfl, (tight.members q).subset mem⟩

/-! ## Reading what has been disposed of -/

/-- **Whether a node can be read**: an expression, a set or a card for its result, a deck for the
cards on offer. -/
def reading (w : World) : NodeId → Except NodeFault Unit
  | .expr e => (w.exprResult e).2.map fun _ => ()
  | .set q => (w.setResult q).2.map fun _ => ()
  | .card c => (w.cardResult c).2.map fun _ => ()
  | .deck d => (w.availableCards d).2.map fun _ => ()

/-- A node that is not bound cannot be read. -/
lemma reading_of_unbound {n : NodeId} (unbound : w.boundTo n = none) :
    w.reading n = .error (.unbound n.kind) := by
  cases n with
  | expr e =>
      have state : w.exprState e = .error (.unbound .expression) :=
        congrArg (w.boundState _) unbound
      rw [reading, exprResult, state]
      rfl
  | set q =>
      have state : w.setState q = .error (.unbound .qualitySet) := congrArg (w.boundState _) unbound
      rw [reading, setResult, state]
      rfl
  | card c =>
      have state : w.cardState c = .error (.unbound .card) := congrArg (w.boundState _) unbound
      rw [reading, cardResult, state]
      rfl
  | deck d =>
      have state : w.deckState d = .error (.unbound .deck) := congrArg (w.boundState _) unbound
      rw [reading, availableCards, state]
      rfl

/-- **Disposal is final for what no set has as a member**: quality sets, cards, decks, and
expressions that were disposed of with their set or have left it.  Whatever is done from then on,
such a node stays disposed of, is bound to nothing, and cannot be read for want of a binding. -/
theorem disposed_for_good (reached : w.Reached) (reaches : w.Reaches v) {n : NodeId}
    (disposed : w.isDisposed n) (free : ¬ w.IsMember n) :
    v.isDisposed n ∧ v.boundTo n = none ∧ v.reading n = .error (.unbound n.kind) := by
  obtain ⟨still, free⟩ := reaches.disposed disposed free
  have unbound := (Reached.atRest (reached.trans reaches) n still).resolve_right free
  exact ⟨still, unbound, reading_of_unbound unbound⟩

/-- **A member is bound with its set**, whether it has been disposed of or not, and is read at the
state of the set. -/
theorem disposed_member (reached : w.Reached) {q : SetId} {e : ExprId} (mem : e ∈ w.members q)
    (usable : (w.set q).disposed = false) {s : StateId} (alive : w.stateAlive s) :
    let v := (w.bindNode (.set q) s).1
    v.isDisposed (.expr e) = w.isDisposed (.expr e) ∧ v.boundTo (.expr e) = some s ∧
      (v.exprResult e).2 = .ok (w.exprHolds e s) := by
  have attached : (w.bindNode (.set q) s).1 = w.attachSet q s := by
    rw [World.bindNode, World.bindSet, usable]
    rfl
  have fresh := (onward_bindNode (.set q) s w).fresh (Fresh.invariant.of_reached reached)
  have only := bindingsOnly_bindNode (.set q) s w
  have bound := boundTo_member_attachSet mem s
  rw [← attached] at bound
  generalize (w.bindNode (.set q) s).1 = v at fresh only bound ⊢
  have alive : v.stateAlive s := by
    rw [stateAlive, isRooted, isRooted, only.names, only.held]
    exact alive
  have holds : v.exprHolds e s = w.exprHolds e s := by
    rw [exprHolds, exprHolds, only.expr e, only.store s]
    rfl
  refine ⟨by rw [isDisposed, only.expr e]; rfl, bound, ?_⟩
  rw [fresh.exprResult_value (boundState_ok.2 ⟨bound, alive⟩), holds]

/-- A set and its only member; the member is disposed of, and then the set is bound. -/
def bindAfterDisposal : List Act :=
  [.state (.create "state"), .set (.create "set" ["true"] none),
    .set (.member "set" 0 "member"), .node (.dispose "member"), .node (.bind "set" "state")]

/-- The member of the set is bound again after it was disposed of, and holds. -/
example :
    let w := runUnder .free fire (bindAfterDisposal.map .act) .empty
    w.isDisposed (.expr ⟨0⟩) = true ∧ w.boundTo (.expr ⟨0⟩) = some ⟨0⟩ ∧
      (w.exprResult ⟨0⟩).2 = .ok true := by
  decide +kernel

end StoryEngine.World
