import StoryEngine.Proofs.Lockstep.Notifications

/-!
# Operations in lockstep

Two runs stay in lockstep through every operation on states and nodes.

* `World.commit_lockstep`, `World.leaveBatch_lockstep`, `World.extend_lockstep` — changes of a
  state.
* `World.changeExpr_lockstep`, `World.addQuality_lockstep`, `World.setQualities_lockstep` and their
  like — edits of expressions, quality sets and cards.
* `World.addCard_lockstep`, `World.rebindDeck_lockstep` and their like — operations on decks.
-/

namespace StoryEngine.World

section
variable {visible : Event → Bool} {licence : Licence} {Holds : World → Prop} {w v : World}
variable {react other : Reaction}
variable (upheld : Upheld licence Holds) (reacts : LockstepReactions visible Holds react other)
include upheld reacts

/-! ## States -/

lemma commit_lockstep (h : Matched visible Holds w v) (s : StateId) (contents : Contents) :
    Lockstep visible Holds w (w.commit react s contents) (v.commit other s contents) := by
  have altered := h.still upheld (h.butTrace.alter s contents) (still_alter s contents w)
  unfold commit
  dsimp only
  rw [altered.butTrace.store]
  split
  · exact altered.trans (flush_lockstep upheld reacts altered.toMatched s)
  · exact altered

lemma setValue_lockstep (h : Matched visible Holds w v) (s : StateId) (key : String)
    (value : Value) :
    Lockstep visible Holds w (w.setValue react s key value) (v.setValue other s key value) := by
  unfold setValue
  rw [h.butTrace.store]
  split
  · exact commit_lockstep upheld reacts h s _
  · exact h.start

lemma deleteValue_lockstep (h : Matched visible Holds w v) (s : StateId) (key : String) :
    LockstepFor visible Holds w (w.deleteValue react s key) (v.deleteValue other s key) := by
  unfold deleteValue
  rw [h.butTrace.store]
  split
  · exact (commit_lockstep upheld reacts h s _).with _
  · exact h.with _

omit reacts in
lemma enterBatch_lockstep (h : Matched visible Holds w v) (s : StateId) :
    Lockstep visible Holds w (w.enterBatch s) (v.enterBatch s) :=
  h.still upheld (h.butTrace.enterBatch s) (still_enterBatch s w)

/-- **A batch closes.** -/
theorem leaveBatch_lockstep (h : Matched visible Holds w v) (s : StateId) :
    Lockstep visible Holds w (w.leaveBatch react s) (v.leaveBatch other s) := by
  have closed := h.still upheld (h.butTrace.closeBatch s) (still_closeBatch s w)
  unfold leaveBatch
  dsimp only
  rw [closed.butTrace.store]
  split
  · have settled := closed.trans
      (closed.toMatched.still upheld (closed.butTrace.settle s) (still_settle s _))
    exact settled.trans (flush_lockstep upheld reacts settled.toMatched s)
  · exact closed

lemma setValues_lockstep (h : Matched visible Holds w v) (s : StateId)
    (pairs : List (String × Value)) :
    Lockstep visible Holds w (w.setValues react s pairs) (v.setValues other s pairs) := by
  induction pairs generalizing w v with
  | nil => exact h.start
  | cons pair rest ih =>
      obtain ⟨key, value⟩ := pair
      have first := setValue_lockstep upheld reacts h s key value
      exact first.trans (ih first.toMatched)

/-- **Several keys are set in one batch.** -/
lemma extend_lockstep (h : Matched visible Holds w v) (s : StateId)
    (pairs : List (String × Value)) :
    Lockstep visible Holds w (w.extend react s pairs) (v.extend other s pairs) := by
  have entered := enterBatch_lockstep upheld h s
  have written := entered.trans (setValues_lockstep upheld reacts entered.toMatched s pairs)
  exact written.trans (leaveBatch_lockstep upheld reacts written.toMatched s)

/-! ## Expressions, quality sets and cards -/

lemma changeExpr_lockstep (h : Matched visible Holds w v) (e : ExprId) (cond : String) :
    Lockstep visible Holds w (w.changeExpr react e cond) (v.changeExpr other e cond) := by
  have rewritten := h.still upheld (h.butTrace.rewriteExpr e cond) (still_rewriteExpr e cond w)
  exact rewritten.trans (pushExpr_lockstep upheld reacts rewritten.toMatched e none)

lemma addQuality_lockstep (h : Matched visible Holds w v) (q : SetId) (cond : String) :
    LockstepFor visible Holds w (w.addQuality react q cond) (v.addQuality other q cond) := by
  unfold addQuality
  rw [h.butTrace.set]
  split
  · exact h.with _
  · obtain ⟨w', v', added, left, right, inserted⟩ :=
      (h.moveFor upheld (h.butTrace.insertQuality q cond) (.insertQuality q cond)
        (onward_insertQuality q cond w).held).elim
    rw [left, right]
    cases added with
    | false => exact inserted.with _
    | true =>
        have forgot := inserted.trans (inserted.toMatched.still upheld
          (inserted.butTrace.invalidateSet q) (cachesOnly_invalidateSet q _).still)
        exact (forgot.trans (pushSet_lockstep upheld reacts forgot.toMatched q none)).with _

lemma removeQuality_lockstep (h : Matched visible Holds w v) (q : SetId) (cond : String) :
    LockstepFor visible Holds w (w.removeQuality react q cond) (v.removeQuality other q cond) := by
  unfold removeQuality
  rw [h.butTrace.memberWith?]
  split
  · exact h.with _
  · next m found =>
      have dropped := h.move upheld (h.butTrace.dropMember q m)
        (.dropMember q m (List.mem_of_find?_eq_some found)) (onward_dropMember q m w).held
      exact (dropped.trans (pushSet_lockstep upheld reacts dropped.toMatched q none)).with _

lemma setQualities_lockstep (h : Matched visible Holds w v) (c : CardId) (conds : List String)
    (held : .card c ∈ w.held) :
    LockstepFor visible Holds w (w.setQualities react c conds) (v.setQualities other c conds) := by
  unfold setQualities
  rw [h.butTrace.card]
  split
  · exact h.with _
  · next usable =>
      obtain ⟨w', v', result, left, right, replaced⟩ :=
        (h.moveFor upheld (h.butTrace.replaceQualities c conds)
          (.replaceQualities c conds (alive_of_held held) (by simpa using usable))
          (onward_replaceQualities c conds w).held).elim
      rw [left, right]
      rcases result with fault | _
      · exact replaced.with _
      · exact (replaced.trans (pushCard_lockstep upheld reacts replaced.toMatched c none)).with _

omit upheld reacts in
/-- The quality set of a card that is held on to may be held on to as well. -/
lemma offers_qualities {c : CardId} (held : .card c ∈ w.held) :
    w.Offers (.set (w.card c).qualities) :=
  .inr (.inr ⟨c, alive_of_held held, rfl⟩)

lemma addCardQuality_lockstep (h : Matched visible Holds w v) (c : CardId) (cond : String)
    (held : .card c ∈ w.held) :
    LockstepFor visible Holds w (w.addCardQuality react c cond)
      (v.addCardQuality other c cond) := by
  unfold addCardQuality
  rw [h.butTrace.card]
  split
  · exact h.with _
  · exact h.holdingFor upheld (offers_singleton (offers_qualities held)) fun h =>
      addQuality_lockstep upheld reacts h _ cond

lemma removeCardQuality_lockstep (h : Matched visible Holds w v) (c : CardId) (cond : String)
    (held : .card c ∈ w.held) :
    LockstepFor visible Holds w (w.removeCardQuality react c cond)
      (v.removeCardQuality other c cond) := by
  unfold removeCardQuality
  rw [h.butTrace.card]
  split
  · exact h.with _
  · exact h.holdingFor upheld (offers_singleton (offers_qualities held)) fun h =>
      (removeQuality_lockstep upheld reacts h _ cond).map
        fun removed => (.ok removed : Except NodeFault Bool)

/-! ## Nodes that hold or do not -/

omit reacts in
lemma truthResult_lockstep (h : Matched visible Holds w v) (n : TruthId) :
    LockstepFor visible Holds w (w.truthResult n) (v.truthResult n) := by
  refine h.read upheld (h.butTrace.truthResult n) ?_
  cases n with
  | expr e => exact cachesOnly_exprResult e w
  | set q => exact cachesOnly_setResult q w
  | card c => exact cachesOnly_cardResult c w

omit reacts in
lemma truthCheck_lockstep (h : Matched visible Holds w v) (n : TruthId) (s : StateId) :
    LockstepFor visible Holds w (w.truthCheck n s) (v.truthCheck n s) := by
  refine h.read upheld (h.butTrace.truthCheck n s) ?_
  cases n with
  | expr e => exact cachesOnly_checkAgainst _ s w
  | set q => exact cachesOnly_allChecks s _ w
  | card c => exact cachesOnly_allChecks s _ w

/-! ## Decks -/

omit reacts in
lemma isCardAvailable_lockstep (h : Matched visible Holds w v) (d : DeckId) (c : CardId) :
    LockstepFor visible Holds w (w.isCardAvailable d c) (v.isCardAvailable d c) := by
  refine h.read upheld (h.butTrace.isCardAvailable d c) ?_
  unfold isCardAvailable
  split
  · exact .refl w
  · next s _ => exact cachesOnly_allChecks s _ w

omit upheld reacts in
/-- Whatever is held on to is alive. -/
lemma alive_cards {cards : List CardId} (held : ∀ c ∈ cards, .card c ∈ w.held) :
    ∀ c ∈ cards, w.Alive (.card c) :=
  fun c mem => alive_of_held (held c mem)

lemma setCards_lockstep (h : Matched visible Holds w v) (d : DeckId) (cards : List CardId)
    (held : .deck d ∈ w.held) (cardsHeld : ∀ c ∈ cards, .card c ∈ w.held) :
    Lockstep visible Holds w (w.setCards react d cards) (v.setCards other d cards) := by
  have replaced := h.move upheld (h.butTrace.replaceCards d cards)
    (.replaceCards d cards (alive_cards cardsHeld)) (onward_replaceCards d cards w).held
  exact replaced.trans
    (pushDeck_lockstep upheld reacts replaced.toMatched d none (replaced.held ▸ held))

lemma rebindDeck_lockstep (h : Matched visible Holds w v) (d : DeckId) (s : StateId)
    (held : .deck d ∈ w.held) :
    LockstepFor visible Holds w (w.rebindDeck react d s) (v.rebindDeck other d s) := by
  obtain ⟨w', v', result, left, right, bound⟩ :=
    (h.moveFor upheld (h.butTrace.bindDeck d s) (.bind (.deck d) s (alive_of_held held))
      (onward_bindDeck d s w).held).elim
  unfold rebindDeck
  rw [left, right]
  rcases result with fault | _
  · exact bound.with _
  · exact (bound.trans
      (pushDeck_lockstep upheld reacts bound.toMatched d none (bound.held ▸ held))).with _

lemma addCard_lockstep (h : Matched visible Holds w v) (d : DeckId) (c : CardId)
    (held : .deck d ∈ w.held) (cardHeld : .card c ∈ w.held) :
    LockstepFor visible Holds w (w.addCard react d c) (v.addCard other d c) := by
  unfold addCard
  rw [h.butTrace.deck, h.butTrace.card]
  split
  · exact h.with _
  · split
    · exact h.with _
    · obtain ⟨w', v', result, left, right, inserted⟩ :=
        (h.moveFor upheld (h.butTrace.insertCard d c) (.insertCard d c (alive_of_held cardHeld))
          (onward_insertCard d c w).held).elim
      rw [left, right]
      rcases result with fault | _
      · exact inserted.with _
      · exact (inserted.trans
          (pushDeck_lockstep upheld reacts inserted.toMatched d none (inserted.held ▸ held))).with _

lemma removeCard_lockstep (h : Matched visible Holds w v) (d : DeckId) (c : CardId)
    (held : .deck d ∈ w.held) :
    LockstepFor visible Holds w (w.removeCard react d c) (v.removeCard other d c) := by
  unfold removeCard
  dsimp only
  rw [h.butTrace.deck]
  split
  · exact h.with _
  · have taken := h.move upheld (h.butTrace.takeCard d c _ _) (.takeCard d c _ _ rfl)
      (onward_takeCard d c _ _ w).held
    exact (taken.trans
      (pushDeck_lockstep upheld reacts taken.toMatched d none (taken.held ▸ held))).with _

omit upheld reacts in
/-- The place of a deck that is held by a card with a hash. -/
lemma entry_of_placeOf? {d : DeckId} {hash : CardHash} {index : Nat} {old : Entry}
    (found : w.placeOf? d hash = some (index, old)) :
    (w.deck d).entries[index]? = some old := by
  obtain ⟨other, -, found⟩ := Option.bind_eq_some_iff.1 found
  obtain ⟨entry, isEntry, eq⟩ := Option.map_eq_some_iff.1 found
  obtain ⟨rfl, rfl⟩ := Prod.mk.inj eq
  exact isEntry

lemma updateCard_lockstep (h : Matched visible Holds w v) (d : DeckId) (c : CardId)
    (held : .deck d ∈ w.held) (cardHeld : .card c ∈ w.held) :
    LockstepFor visible Holds w (w.updateCard react d c) (v.updateCard other d c) := by
  unfold updateCard
  rw [h.butTrace.deck, h.butTrace.card]
  split
  · exact h.with _
  · split
    · exact h.with _
    · dsimp only
      rw [h.butTrace.placeOf?]
      split
      · exact h.with _
      · next index old found =>
          obtain ⟨w', v', result, left, right, replaced⟩ :=
            (h.moveFor upheld (h.butTrace.replaceCard d c index old)
              (.replaceCard d c index old (alive_of_held cardHeld) (entry_of_placeOf? found))
              (onward_replaceCard d c index old w).held).elim
          rw [left, right]
          rcases result with fault | _
          · exact replaced.with _
          · have noted := replaced.trans (replaced.toMatched.note upheld
              (.cardUpdated (w.card c).hash index))
            exact (noted.trans
              (pushDeck_lockstep upheld reacts noted.toMatched d none (noted.held ▸ held))).with _

lemma shuffle_lockstep (h : Matched visible Holds w v) (d : DeckId) (held : .deck d ∈ w.held) :
    Lockstep visible Holds w (w.shuffle react d) (v.shuffle other d) := by
  have reordered := h.move upheld (h.butTrace.onDeck d _) (.reorder d) rfl
  exact reordered.trans (pushDeck_lockstep upheld reacts reordered.toMatched d none held)

omit reacts in
lemma pick_lockstep (h : Matched visible Holds w v) (d : DeckId) (cards : List CardId) :
    LockstepFor visible Holds w (w.pick d cards) (v.pick d cards) :=
  h.moveFor upheld (h.butTrace.pick d cards) (.still (still_pick d cards w)) rfl

omit reacts in
lemma draw_lockstep (h : Matched visible Holds w v) (d : DeckId) :
    LockstepFor visible Holds w (w.draw d) (v.draw d) := by
  obtain ⟨w', v', result, left, right, read⟩ :=
    (h.read upheld (h.butTrace.availableCards d) (cachesOnly_availableCards d w)).elim
  unfold draw
  rw [left, right]
  rcases result with fault | cards
  · exact read.with _
  · exact read.transFor ((pick_lockstep upheld read.toMatched d cards).map
      fun card => (.ok card : Except NodeFault (Option CardId)))

omit reacts in
lemma drawIn_lockstep (h : Matched visible Holds w v) (d : DeckId) (s : StateId) :
    LockstepFor visible Holds w (w.drawIn d s) (v.drawIn d s) := by
  obtain ⟨w', v', cards, left, right, read⟩ :=
    (h.read upheld (h.butTrace.availableIn d s) (cachesOnly_availableIn d s w)).elim
  unfold drawIn
  rw [left, right]
  exact read.transFor (pick_lockstep upheld read.toMatched d cards)

end

end StoryEngine.World
