import StoryEngine.Proofs.Later
import StoryEngine.Proofs.NewlyAlive

/-!
# What is done to a state in one go

When a state is changed, or a batch of it closes, it may have to notify its listeners.  Up to the
point where the first of them is called nothing else comes in between: the change and the beginning
of the round are one.

* `World.beginRound` — a round over the listeners of a state begins.
* `World.amend` — other contents, and the beginning of a round outside any batch.
* `World.shut` — a batch closes, and a round begins if one is due.
* `World.callAll` — the calls of a round.
* `World.commit_eq`, `World.leaveBatch_eq` — every operation on a state is made of these.
* `World.amendAll`, `World.setValues_eq` — inside a batch keys are set without any calls.
-/

namespace StoryEngine.World

/-! ## Rounds and their beginnings -/

/-- A round over the listeners of a state begins. -/
def beginRound (s : StateId) (w : World) : World :=
  (w.note (.stateChanged s (w.store s).revision (w.listenerCount (.state s)))).announce (.state s)
    (some (w.store s).revision) (.revision (w.store s).revision)

/-- **A state has other contents**, and outside any batch a round begins. -/
def amend (s : StateId) (contents : Contents) (w : World) : World :=
  if (w.store s).openBatches = 0 then (w.alter s contents).beginRound s else w.alter s contents

/-- **A batch closes**, and a round begins if one is due. -/
def shut (s : StateId) (w : World) : World :=
  if ((w.closeBatch s).store s).due then ((w.closeBatch s).settle s).beginRound s
  else w.closeBatch s

/-- The calls of a round over the listeners of a state. -/
def callAll (react : Reaction) (s : StateId) (w : World) : World :=
  w.round (·.stateEntries s) (stateActive s) (callState react s)

lemma store_alter (s t : StateId) (contents : Contents) (w : World) :
    (w.alter s contents).store t = if s = t then (w.store t).commit contents else w.store t :=
  store_onStore w s t _

lemma store_enterBatch (s t : StateId) (w : World) :
    (w.enterBatch s).store t = if s = t then (w.store t).enter else w.store t :=
  store_onStore w s t _

lemma store_closeBatch (s t : StateId) (w : World) :
    (w.closeBatch s).store t = if s = t then (w.store t).close else w.store t :=
  store_onStore w s t _

lemma store_settle (s t : StateId) (w : World) :
    (w.settle s).store t = if s = t then (w.store t).settle else w.store t :=
  store_onStore w s t _

/-- **A change of a state**, from its beginning to the last call. -/
theorem commit_eq (react : Reaction) (s : StateId) (contents : Contents) (w : World) :
    w.commit react s contents =
      if (w.store s).openBatches = 0 then (w.amend s contents).callAll react s
      else w.amend s contents := by
  have same : ((w.alter s contents).store s).openBatches = (w.store s).openBatches := by
    rw [store_alter, if_pos rfl]
    rfl
  rw [commit, amend, same]
  split <;> rfl

/-- **The end of a batch**, from its beginning to the last call. -/
theorem leaveBatch_eq (react : Reaction) (s : StateId) (w : World) :
    w.leaveBatch react s =
      if ((w.closeBatch s).store s).due then (w.shut s).callAll react s else w.shut s := by
  rw [leaveBatch, shut]
  split <;> rfl

/-! ## What does not change -/

lemma steady_record (event : Event) (w : World) : w.Steady (w.record event) :=
  { w.later_record event with table := rfl, names := rfl, held := rfl }

/-- A change of a state that leaves its listeners as they are. -/
lemma steady_onStore {s : StateId} {f : Store → Store} (w : World)
    (revision : ∀ st : Store, st.revision ≤ (f st).revision)
    (listeners : ∀ st : Store, (f st).listeners = st.listeners) : w.Steady (w.onStore s f) :=
  { later_onStore (w := w) revision fun st => (listeners st).symm ▸ .refl _ with
    table := rfl, names := rfl, held := rfl }

lemma steady_beginRound (s : StateId) (w : World) : w.Steady (w.beginRound s) :=
  (steady_record _ w).trans (steady_record _ _)

lemma steady_alter (s : StateId) (contents : Contents) (w : World) :
    w.Steady (w.alter s contents) := by
  refine Steady.trans ?_ (steady_record _ _)
  exact steady_onStore w (fun _ => Nat.le_succ _) fun _ => rfl

lemma steady_amend (s : StateId) (contents : Contents) (w : World) :
    w.Steady (w.amend s contents) := by
  unfold amend
  split
  · exact (steady_alter s contents w).trans (steady_beginRound s _)
  · exact steady_alter s contents w

lemma steady_enterBatch (s : StateId) (w : World) : w.Steady (w.enterBatch s) := by
  refine Steady.trans ?_ (steady_record _ _)
  exact steady_onStore w (fun _ => Nat.le_refl _) fun _ => rfl

lemma steady_closeBatch (s : StateId) (w : World) : w.Steady (w.closeBatch s) := by
  refine Steady.trans ?_ (steady_record _ _)
  exact steady_onStore w (fun _ => Nat.le_refl _) fun _ => rfl

lemma steady_settle (s : StateId) (w : World) : w.Steady (w.settle s) := by
  refine Steady.trans ?_ (steady_record _ _)
  exact steady_onStore w (fun _ => Nat.le_refl _) fun _ => rfl

lemma steady_shut (s : StateId) (w : World) : w.Steady (w.shut s) := by
  unfold shut
  split
  · exact ((steady_closeBatch s w).trans (steady_settle s _)).trans (steady_beginRound s _)
  · exact steady_closeBatch s w

section
variable {gained : CardId → Prop}

lemma tighter_beginRound (s : StateId) (w : World) : w.Tighter gained (w.beginRound s) :=
  (tighter_note _ w).trans (tighter_record _ _)

lemma tighter_amend (s : StateId) (contents : Contents) (w : World) :
    w.Tighter gained (w.amend s contents) := by
  have altered : w.Tighter gained (w.alter s contents) :=
    (tighter_onStore s _).trans (tighter_record _ _)
  unfold amend
  split
  · exact altered.trans (tighter_beginRound s _)
  · exact altered

lemma tighter_enterBatch (s : StateId) (w : World) : w.Tighter gained (w.enterBatch s) :=
  (tighter_onStore s _).trans (tighter_record _ _)

lemma tighter_shut (s : StateId) (w : World) : w.Tighter gained (w.shut s) := by
  have closed : w.Tighter gained (w.closeBatch s) :=
    (tighter_onStore s _).trans (tighter_record _ _)
  unfold shut
  split
  · exact (closed.trans ((tighter_onStore s _).trans (tighter_note _ _))).trans
      (tighter_beginRound s _)
  · exact closed

end

/-! ## Keys set inside a batch -/

/-- Several keys are set, one after the other. -/
def amendAll (s : StateId) : List (String × Value) → World → World
  | [], w => w
  | (key, v) :: rest, w =>
    match (w.store s).write? key v with
    | some contents => amendAll s rest (w.amend s contents)
    | none => amendAll s rest w

lemma steady_amendAll (s : StateId) (pairs : List (String × Value)) (w : World) :
    w.Steady (w.amendAll s pairs) := by
  induction pairs generalizing w with
  | nil => exact .refl w
  | cons pair rest ih =>
      rw [amendAll]
      split
      · exact (steady_amend s _ w).trans (ih _)
      · exact ih w

lemma openBatches_amend {w : World} {s : StateId} (inside : (w.store s).openBatches ≠ 0)
    (contents : Contents) :
    ((w.amend s contents).store s).openBatches = (w.store s).openBatches := by
  rw [amend, if_neg inside, store_alter, if_pos rfl]
  rfl

/-- **Inside a batch nobody is called** when keys are set. -/
theorem setValues_eq (react : Reaction) {s : StateId} (pairs : List (String × Value)) {w : World}
    (inside : (w.store s).openBatches ≠ 0) : w.setValues react s pairs = w.amendAll s pairs := by
  induction pairs generalizing w with
  | nil => rfl
  | cons pair rest ih =>
      obtain ⟨key, v⟩ := pair
      rw [setValues, amendAll, setValue]
      rcases (w.store s).write? key v with _ | contents
      · exact ih inside
      · dsimp only
        rw [commit_eq, if_neg inside]
        exact ih (by rwa [openBatches_amend inside])

/-- Inside a batch keys are set in the same way whatever is held on to. -/
lemma amendAll_hold {s : StateId} (hs : List Handle) (pairs : List (String × Value)) {w : World}
    (inside : (w.store s).openBatches ≠ 0) :
    (w.hold hs).amendAll s pairs = (w.amendAll s pairs).hold hs := by
  induction pairs generalizing w with
  | nil => rfl
  | cons pair rest ih =>
      have same : (w.hold hs).store s = w.store s := rfl
      rw [amendAll, amendAll, same]
      split
      · next contents _ =>
          have amended : (w.hold hs).amend s contents = (w.amend s contents).hold hs := by
            rw [amend, amend, if_neg inside, same, if_neg inside]
            rfl
          rw [amended]
          exact ih (by rwa [openBatches_amend inside])
      · exact ih inside

end StoryEngine.World
