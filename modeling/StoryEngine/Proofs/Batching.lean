import StoryEngine.Proofs.Reached

/-!
# Batches lose nothing and repeat nothing

A state keeps count of its open batches, and marks whether there was a change since the outermost
one was opened.  Names and operations under way hold on to open batches one by one, and they may let
go of them in any order, also because something broke off.  Still the count is right, and the
listeners are notified exactly when they have to be.

* **`World.Batched`** — what a state keeps count of, compared with who holds on to its batches, and
  with its history.
* `World.Batched.amend`, `World.Batched.enter`, `World.Batched.shut` — a change; a batch opens and
  closes.
* `World.Batched.move` — every move keeps count.
* **`World.batching_of_passes`** — how many rounds there are, and when, in every run.
-/

namespace StoryEngine.World

open History

variable {w w' : World} {s t : StateId}

/-! ## Keeping count -/

/-- **A state keeps count of its batches.**  It knows how many are open and whether there was a
change since the outermost one was opened, and all rounds that were called for have been begun. -/
structure Batched (w : World) (s : StateId) : Prop where
  counted : (w.store s).openBatches = w.openScopes s
  depth : depth (w.history s) = (w.store s).openBatches
  revision : revision (w.history s) = (w.store s).revision
  regular : Regular (w.history s)
  settled : owes (w.history s) = false
  pending : (w.store s).pending = (decide (0 < (w.store s).openBatches) && touched (w.history s))

lemma Batched.empty (s : StateId) : World.empty.Batched s :=
  ⟨rfl, rfl, rfl, .nil, rfl, rfl⟩

/-- Nothing happens to a state but that it may have other listeners. -/
lemma Batched.same (h : w.Batched s)
    (store : w'.store s = { w.store s with listeners := (w'.store s).listeners })
    (history : w'.history s = w.history s) (scopes : w'.openScopes s = w.openScopes s) :
    w'.Batched s := by
  have openBatches : (w'.store s).openBatches = (w.store s).openBatches := by rw [store]
  have revision : (w'.store s).revision = (w.store s).revision := by rw [store]
  have pending : (w'.store s).pending = (w.store s).pending := by rw [store]
  refine ⟨?_, ?_, ?_, ?_, ?_, ?_⟩
  · rw [openBatches, scopes, h.counted]
  · rw [history, openBatches, h.depth]
  · rw [history, revision, h.revision]
  · rw [history]
    exact h.regular
  · rw [history, h.settled]
  · rw [pending, openBatches, history, h.pending]

lemma Steady.openScopes_eq (h : w.Steady w') (s : StateId) : w'.openScopes s = w.openScopes s := by
  rw [openScopes, openScopes, h.names, h.held]

/-! ## What is recorded -/

lemma history_beginRound (s t : StateId) (w : World) :
    (w.beginRound s).history t =
      if s = t then .round (some (w.store s).revision) :: w.history t else w.history t := by
  rw [beginRound, announce]
  split
  · next here => exact history_record_of_moment (if_pos here)
  · next elsewhere => exact List.filterMap_cons_none (if_neg elsewhere)

lemma history_alter (s t : StateId) (contents : Contents) (w : World) :
    (w.alter s contents).history t =
      if s = t then .changed ((w.store s).revision + 1) :: w.history t else w.history t := by
  have revision : ((w.onStore s (·.commit contents)).store s).revision =
      (w.store s).revision + 1 := by
    rw [store_onStore, if_pos rfl]
    rfl
  rw [alter, revision]
  split
  · next here => exact history_record_of_moment (if_pos here)
  · next elsewhere => exact List.filterMap_cons_none (if_neg elsewhere)

lemma history_enterBatch (s t : StateId) (w : World) :
    (w.enterBatch s).history t = if s = t then .opened :: w.history t else w.history t := by
  rw [enterBatch]
  split
  · next here => exact history_record_of_moment (if_pos here)
  · next elsewhere => exact List.filterMap_cons_none (if_neg elsewhere)

lemma history_closeBatch (s t : StateId) (w : World) :
    (w.closeBatch s).history t = if s = t then .closed :: w.history t else w.history t := by
  rw [closeBatch]
  split
  · next here => exact history_record_of_moment (if_pos here)
  · next elsewhere => exact List.filterMap_cons_none (if_neg elsewhere)

/-- A state is changed outside all batches. -/
lemma amend_outside (outside : (w.store s).openBatches = 0) (contents : Contents) :
    (w.amend s contents).store s = (w.store s).commit contents ∧
      (w.amend s contents).history s = .round (some ((w.store s).revision + 1)) ::
        .changed ((w.store s).revision + 1) :: w.history s := by
  have store := (store_alter s s contents w).trans (if_pos rfl)
  have history := (history_alter s s contents w).trans (if_pos rfl)
  rw [amend, if_pos outside, history_beginRound, if_pos rfl, store, history]
  exact ⟨store, rfl⟩

/-- A state is changed inside a batch. -/
lemma amend_inside (inside : (w.store s).openBatches ≠ 0) (contents : Contents) :
    (w.amend s contents).store s = (w.store s).commit contents ∧
      (w.amend s contents).history s = .changed ((w.store s).revision + 1) :: w.history s := by
  rw [amend, if_neg inside]
  exact ⟨(store_alter s s contents w).trans (if_pos rfl),
    (history_alter s s contents w).trans (if_pos rfl)⟩

/-- Nothing is recorded of a state when another one is changed. -/
lemma amend_of_ne (elsewhere : s ≠ t) (contents : Contents) (w : World) :
    (w.amend s contents).store t = w.store t ∧ (w.amend s contents).history t = w.history t := by
  have store := (store_alter s t contents w).trans (if_neg elsewhere)
  have history := (history_alter s t contents w).trans (if_neg elsewhere)
  unfold amend
  split
  · exact ⟨store, ((history_beginRound s t _).trans (if_neg elsewhere)).trans history⟩
  · exact ⟨store, history⟩

/-- A batch closes, and a round is due. -/
lemma shut_of_due (due : (w.store s).close.due = true) :
    (w.shut s).store s = (w.store s).close.settle ∧
      (w.shut s).history s = .round (some (w.store s).revision) :: .closed :: w.history s := by
  have closed := (store_closeBatch s s w).trans (if_pos rfl)
  have settled := (store_settle s s (w.closeBatch s)).trans (if_pos rfl)
  have history := (history_closeBatch s s w).trans (if_pos rfl)
  rw [closed] at settled
  rw [shut, closed, if_pos due, history_beginRound, if_pos rfl, settled]
  exact ⟨settled, congrArg _ history⟩

/-- A batch closes, and no round is due. -/
lemma shut_of_not_due (quiet : ¬ (w.store s).close.due = true) :
    (w.shut s).store s = (w.store s).close ∧ (w.shut s).history s = .closed :: w.history s := by
  have closed := (store_closeBatch s s w).trans (if_pos rfl)
  rw [shut, closed, if_neg quiet]
  exact ⟨closed, (history_closeBatch s s w).trans (if_pos rfl)⟩

/-- Nothing is recorded of a state when a batch of another one closes. -/
lemma shut_of_ne (elsewhere : s ≠ t) (w : World) :
    (w.shut s).store t = w.store t ∧ (w.shut s).history t = w.history t := by
  have store := (store_closeBatch s t w).trans (if_neg elsewhere)
  have history := (history_closeBatch s t w).trans (if_neg elsewhere)
  unfold shut
  split
  · exact ⟨((store_settle s t _).trans (if_neg elsewhere)).trans store,
      ((history_beginRound s t _).trans (if_neg elsewhere)).trans history⟩
  · exact ⟨store, history⟩

/-! ## Changes and batches -/

/-- **A state is changed.**  Outside all batches a round follows at once. -/
lemma Batched.amend (h : w.Batched t) (s : StateId) (contents : Contents) :
    (w.amend s contents).Batched t := by
  have scopes := (steady_amend s contents w).openScopes_eq t
  by_cases here : s = t
  · subst here
    have changed : Regular (.changed ((w.store s).revision + 1) :: w.history s) := by
      rw [← h.revision]
      exact .changed h.regular h.settled
    have due : owes (.changed ((w.store s).revision + 1) :: w.history s) =
        ((w.store s).openBatches == 0) := congrArg (· == 0) h.depth
    by_cases outside : (w.store s).openBatches = 0
    · obtain ⟨store, history⟩ := amend_outside outside contents
      rw [outside] at due
      refine ⟨?_, ?_, ?_, ?_, ?_, ?_⟩
      · rw [scopes, store, ← h.counted]
        rfl
      · rw [history, store]
        exact h.depth
      · rw [history, store]
        rfl
      · rw [history]
        exact .round changed due
      · rw [history]
        rfl
      · rw [store]
        simp [Store.commit, h.pending, outside]
    · obtain ⟨store, history⟩ := amend_inside outside contents
      refine ⟨?_, ?_, ?_, ?_, ?_, ?_⟩
      · rw [scopes, store, ← h.counted]
        rfl
      · rw [history, store]
        exact h.depth
      · rw [history, store]
        rfl
      · rw [history]
        exact changed
      · rw [history, due]
        simpa using outside
      · rw [history, store]
        simp [Store.commit, touched, Nat.pos_of_ne_zero outside]
  · obtain ⟨store, history⟩ := amend_of_ne here contents w
    exact h.same (by rw [store]) history scopes

/-- Other names and holds account for as many open batches. -/
lemma Batched.withRoots (h : w.Batched s) {names : List (String × Object)} {held : List Handle}
    (scopes : scopes names held s = w.openScopes s) : (w.withRoots names held).Batched s :=
  h.same rfl rfl scopes

/-- **A batch opens**, and is held on to. -/
lemma Batched.enter (h : w.Batched t) (s : StateId) :
    ((w.hold [.batch s]).enterBatch s).Batched t := by
  have scopes : ((w.hold [.batch s]).enterBatch s).openScopes t =
      w.openScopes t + if s = t then 1 else 0 := by
    rw [(steady_enterBatch s (w.hold [.batch s])).openScopes_eq t, openScopes, openScopes,
      World.scopes, World.scopes, hold, List.count_append, List.count_singleton]
    simp only [beq_iff_eq, Handle.batch.injEq]
    omega
  have store := store_enterBatch s t (w.hold [.batch s])
  have history := history_enterBatch s t (w.hold [.batch s])
  by_cases here : s = t
  · subst here
    rw [if_pos rfl] at scopes store history
    refine ⟨?_, ?_, ?_, ?_, ?_, ?_⟩
    · rw [scopes, store, ← h.counted]
      rfl
    · rw [history, store]
      exact congrArg (· + 1) h.depth
    · rw [history, store]
      exact h.revision
    · rw [history]
      exact .opened h.regular h.settled
    · rw [history]
      rfl
    · have depth : History.depth (w.history s) = (w.store s).openBatches := h.depth
      rw [history, store]
      show ((w.store s).pending && decide (0 < (w.store s).openBatches)) =
        (decide (0 < (w.store s).openBatches + 1) &&
          (decide (0 < History.depth (w.history s)) && touched (w.history s)))
      rw [h.pending, depth]
      by_cases inside : 0 < (w.store s).openBatches <;> simp [inside]
  · rw [if_neg here] at scopes store history
    exact h.same (by rw [store]; rfl) history scopes

/-- Inside a batch, what is marked is whether there was a change. -/
lemma Batched.marked (h : w.Batched s) (inside : 0 < (w.store s).openBatches) :
    (w.store s).pending = touched (w.history s) := by
  rw [h.pending, decide_eq_true inside, Bool.true_and]

/-- **A round is due at the end of a batch exactly if it is owed.** -/
lemma Batched.due_close (h : w.Batched s) (inside : 0 < (w.store s).openBatches) :
    (w.store s).close.due = owes (.closed :: w.history s) := by
  show ((w.store s).openBatches - 1 == 0 && (w.store s).pending) =
    (History.depth (w.history s) == 1 && touched (w.history s))
  rw [h.marked inside, h.depth, Bool.eq_iff_iff]
  simp only [Bool.and_eq_true, beq_iff_eq]
  exact and_congr_left fun _ => by omega

/-- **A batch closes** that is not held on to any more.  If it was the last one open and there was a
change in it, a round follows at once. -/
lemma Batched.shut (h : w.Batched t) (s : StateId) {names : List (String × Object)}
    {held : List Handle} (balanced : ∀ t, scopes names held t + [s].count t = w.openScopes t) :
    ((w.withRoots names held).shut s).Batched t := by
  have scopes : ((w.withRoots names held).shut s).openScopes t + [s].count t = w.openScopes t := by
    rw [(steady_shut s (w.withRoots names held)).openScopes_eq t]
    exact balanced t
  by_cases here : s = t
  · subst here
    rw [List.count_singleton_self, ← h.counted] at scopes
    have inside : 0 < (w.store s).openBatches := by omega
    have counted : (w.store s).close.openBatches =
        ((w.withRoots names held).shut s).openScopes s := Nat.sub_eq_of_eq_add scopes.symm
    have depth : History.depth (.closed :: w.history s) = (w.store s).close.openBatches :=
      congrArg (· - 1) h.depth
    have regular : Regular (.closed :: w.history s) :=
      .closed h.regular h.settled (h.depth ▸ inside)
    have due := h.due_close inside
    by_cases owed : owes (.closed :: w.history s) = true
    · have outside : (w.store s).close.openBatches = 0 := by
        rw [← depth]
        exact depth_of_owes owed
      obtain ⟨store, history⟩ := shut_of_due (w := w.withRoots names held) (due.trans owed)
      refine ⟨?_, ?_, ?_, ?_, ?_, ?_⟩
      · rw [store]
        exact counted
      · rw [history, store]
        exact depth
      · rw [history, store]
        exact h.revision
      · rw [history]
        exact h.revision ▸ .round regular owed
      · rw [history]
        rfl
      · rw [store]
        show false = (decide (0 < (w.store s).close.openBatches) && _)
        rw [outside]
        rfl
    · obtain ⟨store, history⟩ := shut_of_not_due (w := w.withRoots names held) (due ▸ owed)
      refine ⟨?_, ?_, ?_, ?_, ?_, ?_⟩
      · rw [store]
        exact counted
      · rw [history, store]
        exact depth
      · rw [history, store]
        exact h.revision
      · rw [history]
        exact regular
      · rw [history]
        exact Bool.eq_false_iff.2 owed
      · rw [history, store]
        show (w.store s).pending =
          (decide (0 < (w.store s).close.openBatches) && touched (w.history s))
        rw [h.marked inside, ← depth]
        exact touched_of_settled (h.depth ▸ inside) (Bool.eq_false_iff.2 owed)
  · rw [List.count_singleton, if_neg (by simpa using here), Nat.add_zero] at scopes
    obtain ⟨store, history⟩ := shut_of_ne here (w.withRoots names held)
    exact h.same (by rw [store]; rfl) history scopes

/-- **Every move keeps count**, as long as no name stands for two things. -/
theorem Batched.move (h : w.Batched s) (distinct : Distinct w.names) (move : Move w w') :
    w'.Batched s := by
  cases move with
  | onward onward => exact h.same (onward.states s) (onward.history s) (onward.openScopes_eq s)
  | made new onward noBatch _ =>
      have made := h.same (onward.states s) (onward.history s) (onward.openScopes_eq s)
      refine made.withRoots ?_
      rw [World.openScopes, World.scopes, World.scopes,
        count_hold fun x mem => List.mem_singleton.1 mem ▸ noBatch]
  | roots granted => exact h.withRoots (granted.balanced distinct s)
  | amend t contents => exact h.amend t contents
  | enter t => exact h.enter t
  | shut t granted => exact h.shut t (granted.balanced distinct)
  | newListener emitter name program times =>
      have onward := onward_subscribeTo emitter ⟨w.listeners.size⟩ w
      have listed := h.same (onward.states s) (onward.history s) (onward.openScopes_eq s)
      exact listed.same rfl rfl rfl
  | spend l remaining _ => exact h.same rfl rfl rfl

/-- No name comes to stand for two things. -/
lemma distinct_move (distinct : Distinct w.names) (move : Move w w') : Distinct w'.names := by
  cases move with
  | onward onward => exact onward.names ▸ distinct
  | made new onward _ _ => exact onward.names ▸ distinct
  | roots granted => exact granted.distinct distinct
  | amend s contents => exact (steady_amend s contents w).names ▸ distinct
  | enter s => exact (steady_enterBatch s (w.hold [.batch s])).names ▸ distinct
  | shut s granted =>
      rw [(steady_shut s _).names]
      exact granted.distinct distinct
  | newListener emitter name program times =>
      exact (onward_subscribeTo emitter ⟨w.listeners.size⟩ w).names ▸ distinct
  | spend => exact distinct

/-- **All states keep count of their batches** in any run. -/
theorem Batched.invariant : Invariant fun w => Distinct w.names ∧ ∀ s, w.Batched s where
  start := ⟨List.nodup_nil, .empty⟩
  move h move := ⟨distinct_move h.1 move, fun s => (h.2 s).move h.1 move⟩

/-! ## Every run -/

/-- **Batching loses nothing and repeats nothing.**  Take any run, any world that it passes through
and any state.

* As many batches are open as names and operations under way hold on to, and nothing is pending
  while there are none.
* The same by the history of the state: which revision it came to, and how many batches are open.
* No round began while a batch was open.  One began directly after every change outside all batches,
  and directly after the end of every outermost batch in which there was a change, for the revision
  that the state had by then, and no other round began.
* So there were as many rounds as there were such changes and such batches, and while no batch is
  open the latest one was for the present revision, if there was any change at all.

The count of open batches is exact, so where it is kept in 32 bits this is about runs with fewer
than `2 ^ 32` batches open at once. -/
theorem batching_of_passes {look : Supervisor} (watches : look.Watches) {depth : Nat}
    {steps : List Step} {w : World} (passes : Passes look depth steps w) (s : StateId) :
    (w.store s).openBatches = w.openScopes s ∧
    (w.openScopes s = 0 → (w.store s).pending = false) ∧
    History.depth (w.history s) = w.openScopes s ∧
    History.revision (w.history s) = (w.store s).revision ∧
    Regular (w.history s) ∧
    (∀ h cause, .round cause :: h <:+ w.history s → History.depth h = 0) ∧
    (∀ h, h <:+ w.history s → ((∃ cause, .round cause :: h <:+ w.history s) ↔ owes h = true)) ∧
    rounds (w.history s) = changesOutside (w.history s) + batchesTouched (w.history s) ∧
    (w.openScopes s = 0 → 0 < (w.store s).revision →
      lastRound (w.history s) = some (w.store s).revision) := by
  have batched := (Batched.invariant.of_passes watches passes).2 s
  have counted := batched.counted
  have regular := batched.regular
  have follows : ∀ h, h <:+ w.history s →
      ((∃ cause, .round cause :: h <:+ w.history s) ↔ owes h = true) := by
    intro h before
    by_cases present : h = w.history s
    · rw [present, batched.settled]
      refine iff_of_false ?_ Bool.false_ne_true
      rintro ⟨cause, suffix⟩
      exact absurd suffix.length_le (Nat.not_succ_le_self _)
    · exact regular.round_iff before present
  refine ⟨counted, ?_, ?_, batched.revision, regular, ?_, follows, ?_, ?_⟩
  · intro outside
    rw [batched.pending, counted, outside]
    rfl
  · rw [batched.depth, counted]
  · intro h cause suffix
    exact depth_of_owes ((follows h ((List.suffix_cons _ _).trans suffix)).1 ⟨cause, suffix⟩)
  · have count := rounds_eq regular
    rwa [batched.settled] at count
  · intro outside changed
    rw [← batched.revision] at changed ⊢
    refine lastRound_eq regular batched.settled ?_ changed
    rw [batched.depth, counted, outside]

/-- Two batches that are not closed last-in-first-out, a change outside, a batch that breaks off
after a change, and a batch without any. -/
def batchesOutOfOrder : List Step :=
  [.act (.state (.create "state")), .act (.state (.openBatch "state" "first")),
    .act (.state (.openBatch "state" "second")),
    .act (.state (.set "state" "a" (.scalar (.bool true)))),
    .act (.handle (.drop "first")), .act (.state (.set "state" "b" (.scalar (.bool true)))),
    .act (.handle (.drop "second")), .act (.state (.set "state" "c" (.scalar (.bool true)))),
    .batch "state" [.act (.state (.set "state" "d" (.scalar (.bool true)))),
      .act (.handle (.panic .wordless))],
    .act (.state (.openBatch "state" "third")), .act (.handle (.drop "third"))]

/-- Four changes come to three rounds: the two in the first two batches are notified of together. -/
theorem batching_of_passes_out_of_order :
    let w := runUnder .free fire batchesOutOfOrder .empty
    (w.store ⟨0⟩).openBatches = 0 ∧ (w.store ⟨0⟩).pending = false ∧
      rounds (w.history ⟨0⟩) = 3 ∧ lastRound (w.history ⟨0⟩) = some 4 := by
  intro w
  have passes : Passes .free 0 batchesOutOfOrder w := .inr rfl
  obtain ⟨counted, pending, -, -, -, -, -, count, latest⟩ :=
    batching_of_passes Supervisor.free_watches passes ⟨0⟩
  have outside : w.openScopes ⟨0⟩ = 0 := by decide +kernel
  have revision : (w.store ⟨0⟩).revision = 4 := by decide +kernel
  have outsideChanges : changesOutside (w.history ⟨0⟩) = 1 := by decide +kernel
  have batches : batchesTouched (w.history ⟨0⟩) = 2 := by decide +kernel
  refine ⟨counted.trans outside, pending outside, ?_, ?_⟩
  · rw [count, outsideChanges, batches]
  · rw [latest outside (by rw [revision]; exact Nat.succ_pos 3), revision]

end StoryEngine.World
