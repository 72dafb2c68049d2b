import StoryEngine.Proofs.Reached

/-!
# Reading an expression

An expression is read without any notification of a change having reached it.  All that its cached
result has to go by is the revision of the state.  That is enough, whatever was done before: nodes
bound elsewhere and back, released, disposed of or cleared of listeners, conditions exchanged,
batches left open, listeners that break off in the middle of it all.

* `World.Fresh.move` — every move keeps cached results right while they count.
* `World.exprResult_eq_error` — there is no result exactly if there is no state.
* **`World.exprResult_of_passes`** — what reading an expression comes to, in every run.
-/

namespace StoryEngine.World

variable {w w' : World}

/-! ## Cached results are kept right -/

lemma Fresh.record (h : w.Fresh) (event : Event) : (w.record event).Fresh :=
  h.alike (fun _ => rfl) fun _ => rfl

lemma Fresh.withRoots (h : w.Fresh) (names : List (String × Object)) (held : List Handle) :
    (w.withRoots names held).Fresh :=
  h.alike (fun _ => rfl) fun _ => rfl

lemma Fresh.beginRound (h : w.Fresh) (s : StateId) : (w.beginRound s).Fresh :=
  (h.record _).record _

/-- **A state that has other contents has a new revision**, and results for the old one do not count
any more. -/
lemma Fresh.amend (h : w.Fresh) (s : StateId) (contents : Contents) :
    (w.amend s contents).Fresh := by
  have altered : (w.alter s contents).Fresh := by
    refine (h.onStore s (Nat.le_succ _) fun same => ?_).record _
    exact absurd same (Nat.succ_ne_self _)
  unfold World.amend
  split
  · exact altered.beginRound s
  · exact altered

lemma Fresh.enterBatch (h : w.Fresh) (s : StateId) : (w.enterBatch s).Fresh :=
  (h.onStore s (Nat.le_refl _) fun _ => rfl).record _

lemma Fresh.shut (h : w.Fresh) (s : StateId) : (w.shut s).Fresh := by
  have closed : (w.closeBatch s).Fresh := (h.onStore s (Nat.le_refl _) fun _ => rfl).record _
  unfold World.shut
  split
  · have settled : ((w.closeBatch s).settle s).Fresh :=
      (closed.onStore s (Nat.le_refl _) fun _ => rfl).record _
    exact settled.beginRound s
  · exact closed

/-- **Every move keeps cached results right** while they count. -/
theorem Fresh.move (h : w.Fresh) (move : Move w w') : w'.Fresh := by
  cases move with
  | onward onward => exact onward.fresh h
  | made handle onward _ _ => exact (onward.fresh h).withRoots _ _
  | roots _ => exact h.withRoots _ _
  | amend s contents => exact h.amend s contents
  | enter s => exact (h.withRoots _ _).enterBatch s
  | shut s _ => exact (h.withRoots _ _).shut s
  | newListener emitter name program times =>
      refine ((onward_subscribeTo emitter ⟨w.listeners.size⟩ w).fresh h).alike (fun _ => rfl)
        fun _ => rfl
  | spend l remaining _ => exact h.alike (fun _ => rfl) fun _ => rfl

theorem Fresh.invariant : Invariant Fresh :=
  ⟨.empty, .move⟩

/-! ## Reading -/

/-- **There is no result exactly if there is no state**, and for the same reason. -/
lemma exprResult_eq_error (w : World) (e : ExprId) (fault : NodeFault) :
    (w.exprResult e).2 = .error fault ↔ w.exprState e = .error fault := by
  unfold exprResult
  cases w.exprState e with
  | error other => simp
  | ok s =>
      dsimp only
      split <;> simp

lemma exprState_eq_unbound (w : World) (e : ExprId) :
    w.exprState e = .error (.unbound .expression) ↔ (w.expr e).binding = none := by
  rw [exprState]
  cases (w.expr e).binding with
  | none => simp [boundState]
  | some b =>
      rw [Option.map_some, boundState]
      split <;> simp

lemma exprState_eq_dropped (w : World) (e : ExprId) :
    w.exprState e = .error (.stateDropped .expression) ↔
      ∃ s, w.boundTo (.expr e) = some s ∧ w.stateAlive s = false := by
  rw [exprState, boundTo]
  cases (w.expr e).binding with
  | none => simp [boundState]
  | some b =>
      rw [Option.map_some, boundState]
      split <;> simp [*]

/-- **A cache that is seen to be valid** is that of an expression with a state, and holds a result
for the revision of the state. -/
lemma exprStatus_eq_valid {e : ExprId} (valid : w.exprStatus e = .valid) :
    ∃ s value, w.exprState e = .ok s ∧ (w.expr e).cache = .valid value (w.store s).revision := by
  rw [exprStatus] at valid
  cases state : w.exprState e with
  | error fault =>
      rw [state] at valid
      cases cache : (w.expr e).cache <;> simp [cache, revisionOf, Cache.status] at valid
  | ok s =>
      rw [state] at valid
      obtain ⟨value, cached⟩ := Option.isSome_iff_exists.1 (Cache.status_eq_valid_iff.1 valid)
      exact ⟨s, value, rfl, Cache.get?_eq_some.1 cached⟩

/-- **Reading an expression is never stale.**  Take any run and any world that it passes through.
An expression has no result for want of a binding exactly if it has none, and for want of its state
exactly if it is bound to one that nobody holds on to any more.  Otherwise its result is what a
check of its present condition in the present contents of its state comes to; and so is the result
in its cache, if that is seen to be valid. -/
theorem exprResult_of_passes {look : Supervisor} (watches : look.Watches) {depth : Nat}
    {steps : List Step} {w : World} (passes : Passes look depth steps w) (e : ExprId) :
    ((w.exprResult e).2 = .error (.unbound .expression) ↔ (w.expr e).binding = none) ∧
    ((w.exprResult e).2 = .error (.stateDropped .expression) ↔
      ∃ s, w.boundTo (.expr e) = some s ∧ w.stateAlive s = false) ∧
    (∀ s, w.boundTo (.expr e) = some s → w.stateAlive s →
      (w.exprResult e).2 = .ok (w.exprHolds e s)) ∧
    (w.exprStatus e = .valid → ∃ s, w.boundTo (.expr e) = some s ∧ w.stateAlive s ∧
      (w.expr e).cache = .valid (w.exprHolds e s) (w.store s).revision) := by
  have fresh := Fresh.invariant.of_passes watches passes
  refine ⟨?_, ?_, ?_, ?_⟩
  · rw [exprResult_eq_error, exprState_eq_unbound]
  · rw [exprResult_eq_error, exprState_eq_dropped]
  · intro s bound alive
    exact fresh.exprResult_value (boundState_ok.2 ⟨bound, alive⟩)
  · intro valid
    obtain ⟨s, value, state, cache⟩ := exprStatus_eq_valid valid
    obtain ⟨bound, alive⟩ := boundState_ok.1 state
    obtain ⟨b, binding, rfl⟩ := Option.map_eq_some_iff.1 bound
    obtain rfl := (fresh.right binding cache).2 rfl
    exact ⟨b.state, bound, alive, cache⟩

/-- Two expressions on the same condition, which are read and then bound to another state at the
same revision; the state of one of them is given up. -/
def rebindAtSameRevision : List Act :=
  [.state (.create "old"), .state (.set "old" "open" (.scalar (.bool true))),
    .state (.create "new"), .state (.set "new" "open" (.scalar (.bool false))),
    .expr (.create "first" "$open" (some "old")), .node (.result "first"),
    .expr (.create "second" "$open" (some "old")), .node (.result "second"),
    .expr (.create "third" "$open" none), .node (.bind "first" "new"), .handle (.drop "old")]

/-- The result that was read at one state does not count at another one of the same revision, nor
once the state is gone. -/
theorem exprResult_of_passes_rebound :
    let w := runUnder .free fire (rebindAtSameRevision.map .act) .empty
    (w.exprResult ⟨0⟩).2 = .ok false ∧
      (w.exprResult ⟨1⟩).2 = .error (.stateDropped .expression) ∧
      (w.exprResult ⟨2⟩).2 = .error (.unbound .expression) := by
  intro w
  have passes : Passes .free 0 (rebindAtSameRevision.map .act) w := .inr rfl
  have reads := fun e => exprResult_of_passes Supervisor.free_watches passes e
  have bound : w.boundTo (.expr ⟨0⟩) = some ⟨1⟩ := by decide +kernel
  have alive : w.stateAlive ⟨1⟩ = true := by decide +kernel
  have holds : w.exprHolds ⟨0⟩ ⟨1⟩ = false := by decide +kernel
  have left : w.boundTo (.expr ⟨1⟩) = some ⟨0⟩ := by decide +kernel
  have gone : w.stateAlive ⟨0⟩ = false := by decide +kernel
  have none : (w.expr ⟨2⟩).binding.isNone := by decide +kernel
  refine ⟨?_, (reads ⟨1⟩).2.1.2 ⟨⟨0⟩, left, gone⟩,
    (reads ⟨2⟩).1.2 (Option.isNone_iff_eq_none.1 none)⟩
  rw [(reads ⟨0⟩).2.2.1 ⟨1⟩ bound alive, holds]

end StoryEngine.World
