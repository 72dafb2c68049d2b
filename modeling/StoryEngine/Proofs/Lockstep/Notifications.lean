import StoryEngine.Proofs.Lockstep.Basic

/-!
# Notifications in lockstep

Two runs stay in lockstep while nodes and states notify their listeners, as long as the listeners
react in lockstep.

* `World.pushExpr_lockstep`, `World.setOnChange_lockstep` and their like — a node notifies its
  listeners, and a pulse reaches a node.
* `World.flush_lockstep`, `World.emit_lockstep` — a state or a board notifies its listeners.
-/

namespace StoryEngine.World

section
variable {visible : Event → Bool} {licence : Licence} {Holds : World → Prop} {w v : World}
variable {react other : Reaction}
variable (upheld : Upheld licence Holds) (reacts : LockstepReactions visible Holds react other)
include upheld reacts

/-! ## Decks -/

lemma notifyDeck_lockstep (h : Matched visible Holds w v) (d : DeckId) (cause : Option Nat)
    (cards : List CardId) :
    Lockstep visible Holds w (w.notifyDeck react d cause cards)
      (v.notifyDeck other d cause cards) := by
  have announced := h.record upheld (.round (.deck d) cause (.cards cards))
  refine announced.trans (announced.toMatched.round (announced.butTrace.deckEntries d) ?_ ?_)
  · intro w v entry e
    rw [deckActive, deckActive, e.deck]
  · exact fun entry w v h _ => reacts _ _ w v h

/-- **A deck pushes.** -/
theorem pushDeck_lockstep (h : Matched visible Holds w v) (d : DeckId) (cause : Option Nat)
    (held : .deck d ∈ w.held) :
    Lockstep visible Holds w (w.pushDeck react d cause) (v.pushDeck other d cause) := by
  unfold pushDeck
  rw [h.butTrace.deckEntries, h.butTrace.deck]
  split
  · exact h.start
  · obtain ⟨w', v', result, left, right, read⟩ :=
      (h.read upheld (h.butTrace.availableCards d) (cachesOnly_availableCards d w)).elim
    have alive : ∀ cards, result = .ok cards → ∀ x ∈ cards.map Handle.card,
        w'.Alive x ∧ ∀ s, x ≠ .batch s := by
      rw [← (Prod.mk.inj left).1, ← (Prod.mk.inj left).2]
      exact fun _ => alive_of_available held
    rw [left, right]
    rcases result with fault | cards
    · exact read.trans (read.toMatched.note upheld _)
    · refine read.trans (read.toMatched.holding upheld ?_ fun h =>
        notifyDeck_lockstep upheld reacts h d cause cards)
      exact fun x mem => offers_of_alive (alive cards rfl x mem).1

/-- **A pulse reaches a deck.** -/
theorem deckOnChange_lockstep (h : Matched visible Holds w v) (d : DeckId) (cause : Option Nat)
    (held : .deck d ∈ w.held) :
    Lockstep visible Holds w (w.deckOnChange react d cause) (v.deckOnChange other d cause) := by
  unfold deckOnChange
  rw [h.butTrace.deck]
  split
  · have passed := h.still upheld
      (h.butTrace.onDeck d fun n => { n with gate := n.gate.after cause })
      (still_onDeck fun _ => rfl)
    exact passed.trans (pushDeck_lockstep upheld reacts passed.toMatched d cause held)
  · exact h.start

/-! ## Cards -/

lemma callCard_lockstep (h : Matched visible Holds w v) (c : CardId) (value : Bool)
    (cause : Option Nat) {entry : Nat × CardListener} (active : w.cardActive c entry) :
    Lockstep visible Holds w (w.callCard react value cause entry.2)
      (v.callCard other value cause entry.2) := by
  obtain ⟨k, l | d⟩ := entry
  · exact reacts l _ w v h
  · have alive : w.deckAlive d := (Bool.and_eq_true _ _ ▸ active).2
    exact h.holding upheld (offers_singleton (offers_of_alive (deckAlive_iff.1 alive))) fun h =>
      deckOnChange_lockstep upheld reacts h d cause List.mem_cons_self

lemma notifyCard_lockstep (h : Matched visible Holds w v) (c : CardId) (cause : Option Nat)
    (value : Bool) :
    Lockstep visible Holds w (w.notifyCard react c cause value)
      (v.notifyCard other c cause value) := by
  have announced := h.record upheld (.round (.card c) cause (.truth value))
  refine announced.trans (announced.toMatched.round (announced.butTrace.cardEntries c) ?_ ?_)
  · intro w v entry e
    rw [cardActive, cardActive, e.card, e.cardListenerAlive]
  · exact fun entry w v h active => callCard_lockstep upheld reacts h c value cause active

/-- **A card pushes.** -/
theorem pushCard_lockstep (h : Matched visible Holds w v) (c : CardId) (cause : Option Nat) :
    Lockstep visible Holds w (w.pushCard react c cause) (v.pushCard other c cause) := by
  unfold pushCard
  rw [h.butTrace.cardEntries, h.butTrace.card]
  split
  · exact h.start
  · obtain ⟨w', v', result, left, right, read⟩ :=
      (h.read upheld (h.butTrace.cardResult c) (cachesOnly_cardResult c w)).elim
    rw [left, right]
    rcases result with fault | value
    · exact read.trans (read.toMatched.note upheld _)
    · exact read.trans (notifyCard_lockstep upheld reacts read.toMatched c cause value)

/-- **A pulse reaches a card.** -/
theorem cardOnChange_lockstep (h : Matched visible Holds w v) (c : CardId) (cause : Option Nat)
    (held : .card c ∈ w.held) :
    Lockstep visible Holds w (w.cardOnChange react c cause) (v.cardOnChange other c cause) := by
  unfold cardOnChange
  rw [h.butTrace.card]
  split
  · have passed := h.move upheld
      (h.butTrace.onCard c fun n => { n with gate := n.gate.after cause })
      (.editCard c _ (alive_of_held held) fun _ => rfl) rfl
    exact passed.trans (pushCard_lockstep upheld reacts passed.toMatched c cause)
  · exact h.start

/-! ## Quality sets -/

lemma callSet_lockstep (h : Matched visible Holds w v) (q : SetId) (value : Bool)
    (cause : Option Nat) {entry : Nat × SetListener} (active : w.setActive q entry) :
    Lockstep visible Holds w (w.callSet react value cause entry.2)
      (v.callSet other value cause entry.2) := by
  obtain ⟨k, l | c⟩ := entry
  · exact reacts l _ w v h
  · have alive : w.cardAlive c := (Bool.and_eq_true _ _ ▸ active).2
    exact h.holding upheld (offers_singleton (offers_of_alive (cardAlive_iff.1 alive))) fun h =>
      cardOnChange_lockstep upheld reacts h c cause List.mem_cons_self

lemma notifySet_lockstep (h : Matched visible Holds w v) (q : SetId) (cause : Option Nat)
    (value : Bool) :
    Lockstep visible Holds w (w.notifySet react q cause value)
      (v.notifySet other q cause value) := by
  have announced := h.record upheld (.round (.set q) cause (.truth value))
  refine announced.trans (announced.toMatched.round (announced.butTrace.setEntries q) ?_ ?_)
  · intro w v entry e
    rw [setActive, setActive, e.set, e.setListenerAlive]
  · exact fun entry w v h active => callSet_lockstep upheld reacts h q value cause active

/-- **A quality set pushes.** -/
theorem pushSet_lockstep (h : Matched visible Holds w v) (q : SetId) (cause : Option Nat) :
    Lockstep visible Holds w (w.pushSet react q cause) (v.pushSet other q cause) := by
  unfold pushSet
  rw [h.butTrace.setEntries, h.butTrace.set]
  split
  · exact h.start
  · obtain ⟨w', v', result, left, right, read⟩ :=
      (h.read upheld (h.butTrace.setResult q) (cachesOnly_setResult q w)).elim
    rw [left, right]
    rcases result with fault | value
    · exact read.trans (read.toMatched.note upheld _)
    · exact read.trans (notifySet_lockstep upheld reacts read.toMatched q cause value)

/-- **A pulse reaches a quality set.** -/
theorem setOnChange_lockstep (h : Matched visible Holds w v) (q : SetId) (cause : Option Nat) :
    Lockstep visible Holds w (w.setOnChange react q cause) (v.setOnChange other q cause) := by
  have forgot := h.still upheld (h.butTrace.invalidateSet q) (cachesOnly_invalidateSet q w).still
  unfold setOnChange
  dsimp only
  rw [forgot.butTrace.set]
  split
  · have passed := forgot.toMatched.still upheld
      (forgot.butTrace.onSet q fun n => { n with gate := n.gate.after cause })
      (still_onSet fun _ => rfl)
    exact (forgot.trans passed).trans (pushSet_lockstep upheld reacts passed.toMatched q cause)
  · exact forgot

/-! ## Expressions -/

lemma callExpr_lockstep (h : Matched visible Holds w v) (e : ExprId) (value : Bool)
    (cause : Option Nat) {entry : Nat × ExprListener} (active : w.exprActive e entry) :
    Lockstep visible Holds w (w.callExpr react value cause entry.2)
      (v.callExpr other value cause entry.2) := by
  obtain ⟨k, l | q⟩ := entry
  · exact reacts l _ w v h
  · have alive : w.setAlive q := (Bool.and_eq_true _ _ ▸ active).2
    exact h.holding upheld (offers_singleton (offers_of_alive (setAlive_iff.1 alive))) fun h =>
      setOnChange_lockstep upheld reacts h q cause

lemma notifyExpr_lockstep (h : Matched visible Holds w v) (e : ExprId) (cause : Option Nat)
    (value : Bool) :
    Lockstep visible Holds w (w.notifyExpr react e cause value)
      (v.notifyExpr other e cause value) := by
  have announced := h.record upheld (.round (.expr e) cause (.truth value))
  refine announced.trans (announced.toMatched.round (announced.butTrace.exprEntries e) ?_ ?_)
  · intro w v entry butTrace
    rw [exprActive, exprActive, butTrace.expr, butTrace.exprListenerAlive]
  · exact fun entry w v h active => callExpr_lockstep upheld reacts h e value cause active

/-- **An expression pushes.** -/
theorem pushExpr_lockstep (h : Matched visible Holds w v) (e : ExprId) (cause : Option Nat) :
    Lockstep visible Holds w (w.pushExpr react e cause) (v.pushExpr other e cause) := by
  unfold pushExpr
  rw [h.butTrace.exprEntries, h.butTrace.expr]
  split
  · exact h.start
  · obtain ⟨w', v', result, left, right, read⟩ :=
      (h.read upheld (h.butTrace.exprResult e) (cachesOnly_exprResult e w)).elim
    rw [left, right]
    rcases result with fault | value
    · exact read.trans (read.toMatched.note upheld _)
    · exact read.trans (notifyExpr_lockstep upheld reacts read.toMatched e cause value)

/-- **A pulse reaches an expression.** -/
theorem exprOnChange_lockstep (h : Matched visible Holds w v) (e : ExprId) (cause : Option Nat) :
    Lockstep visible Holds w (w.exprOnChange react e cause) (v.exprOnChange other e cause) := by
  have forgot := h.still upheld (h.butTrace.invalidateExpr e) (cachesOnly_invalidateExpr e w).still
  unfold exprOnChange
  dsimp only
  rw [forgot.butTrace.expr]
  split
  · have passed := forgot.toMatched.still upheld
      (forgot.butTrace.onExpr e fun n => { n with gate := n.gate.after cause })
      (still_onExpr fun _ => rfl)
    exact (forgot.trans passed).trans (pushExpr_lockstep upheld reacts passed.toMatched e cause)
  · exact forgot

/-! ## States and boards -/

lemma callState_lockstep (h : Matched visible Holds w v) (s : StateId) {entry : Nat × StateListener}
    (active : w.stateActive s entry) :
    Lockstep visible Holds w (w.callState react s entry.2) (v.callState other s entry.2) := by
  have listenerAlive : w.stateListenerAlive entry.2 := (Bool.and_eq_true _ _ ▸ active).2
  obtain ⟨k, l | e | q | d⟩ := entry
  all_goals
    unfold callState
    dsimp only
    rw [h.butTrace.store]
  · exact reacts l _ w v h
  · exact h.holding upheld (offers_singleton (offers_of_alive (exprAlive_iff.1 listenerAlive)))
      fun h =>
      exprOnChange_lockstep upheld reacts h e _
  · exact h.holding upheld (offers_singleton (offers_of_alive (setAlive_iff.1 listenerAlive)))
      fun h =>
      setOnChange_lockstep upheld reacts h q _
  · exact h.holding upheld (offers_singleton (offers_of_alive (deckAlive_iff.1 listenerAlive)))
      fun h =>
      deckOnChange_lockstep upheld reacts h d _ List.mem_cons_self

/-- **A state notifies its listeners** that it has changed. -/
theorem flush_lockstep (h : Matched visible Holds w v) (s : StateId) :
    Lockstep visible Holds w (w.flush react s) (v.flush other s) := by
  unfold flush
  rw [h.butTrace.store, h.butTrace.listenerCount]
  have noted := h.note upheld
    (.stateChanged s (w.store s).revision (w.listenerCount (.state s)))
  have announced := noted.trans (noted.toMatched.record upheld
    (.round (.state s) (some (w.store s).revision) (.revision (w.store s).revision)))
  refine announced.trans (announced.toMatched.round (announced.butTrace.stateEntries s) ?_ ?_)
  · intro w v entry e
    rw [stateActive, stateActive, e.store, e.stateListenerAlive]
  · exact fun entry w v h active => callState_lockstep upheld reacts h s active

/-- **A board passes a message on.** -/
theorem emit_lockstep (h : Matched visible Holds w v) (b : BoardId) (message : String) :
    Lockstep visible Holds w (w.emit react b message) (v.emit other b message) := by
  have announced := h.record upheld (.round (.board b) none (.text message))
  refine announced.trans (announced.toMatched.round (announced.butTrace.boardEntries b) ?_ ?_)
  · intro w v entry e
    rw [boardActive, boardActive, e.board]
  · exact fun entry w v h _ => reacts _ _ w v h

/-! ## Nodes of any kind -/

/-- **A node notifies its listeners.** -/
theorem pushNode_lockstep (h : Matched visible Holds w v) (n : NodeId) (cause : Option Nat)
    (held : n.handle ∈ w.held) :
    Lockstep visible Holds w (w.pushNode react n cause) (v.pushNode other n cause) := by
  cases n with
  | expr e => exact pushExpr_lockstep upheld reacts h e cause
  | set q => exact pushSet_lockstep upheld reacts h q cause
  | card c => exact pushCard_lockstep upheld reacts h c cause
  | deck d => exact pushDeck_lockstep upheld reacts h d cause held

end

end StoryEngine.World
