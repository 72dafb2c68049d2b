import StoryEngine.Proofs.CardsBound
import StoryEngine.Proofs.Offer

/-!
# Cards are bound where their deck is

In every run in which cards stand in one deck only and are left to it, the cards of a deck are bound
where the deck is, or to nothing at all.  Either way the deck offers what holds in its own state.
If besides a card that makes way for another one always stands in its deck once, all cards of a deck
are bound where it is.

* **`World.CardsBound.engineStep`** — every engine step keeps cards where their deck is.
* `Preserved.cardsBound` — so does the engine.
* **`World.cardsBound_of_meets`** — the cards of a deck are bound where the deck is.
* **`World.available_iff_of_meets`** — what a deck offers is what holds in its state.
-/

namespace StoryEngine

open World

namespace World

variable {once : Prop} {w v : World}

/-! ## Engine steps -/

lemma CardsBound.bindNode (h : w.CardsBound once) (n : NodeId) (s : StateId)
    (direct : w.Ownerless n) (alive : w.Alive n.handle) : (w.bindNode n s).1.CardsBound once := by
  have onward := onward_bindNode n s w
  have use := (bindingsOnly_bindNode n s w).sameUse
  cases n with
  | expr e =>
      refine h.sameBindings onward.toSteady (SameSets.sameBindings ?_)
      show w.SameSets (w.bindExpr e s).1
      rw [bindExpr]
      split
      · exact .refl w
      · exact sameSets_attachExpr e s w
  | set q => exact h.sameBindings onward.toSteady ((sameCards_bindSet q s w).sameBindings use.set)
  | card c =>
      refine h.steady (c ≠ ·) onward.toSteady ?_ fun d hd other mem here => ?_
      · exact leavesBe_of_decks (bindCard_decks c s w) fun other ne => sameBinding_bindCard s ne
      · exact direct d hd (here ▸ mem)
  | deck d =>
      show (w.bindDeck d s).1.CardsBound once
      replace onward : w.Onward (w.bindDeck d s).1 := onward
      rw [bindDeck] at onward ⊢
      split
      · exact h
      · next usable =>
          rw [if_neg usable] at onward
          exact h.attachDeck alive s onward

lemma CardsBound.unbindNode (h : w.CardsBound once) (n : NodeId)
    (direct : w.Ownerless n) (alive : w.Alive n.handle) : (w.unbindNode n).CardsBound once := by
  have steady := (onward_unbindNode n w).toSteady
  have use := (bindingsOnly_unbindNode n w).sameUse
  cases n with
  | expr e => exact h.sameBindings steady (sameSets_unbindExpr e w).sameBindings
  | set q => exact h.sameBindings steady ((sameCards_unbindSet q w).sameBindings use.set)
  | card c =>
      refine h.steady (c ≠ ·) steady ?_ fun d hd other mem here => ?_
      · exact leavesBe_of_decks (unbindCard_decks c w) fun other ne => sameBinding_unbindCard ne
      · exact direct d hd (here ▸ mem)
  | deck d => exact h.unbindDeck alive

/-- A deck that is alive is disposed of. -/
lemma CardsBound.disposeDeck (h : w.CardsBound once) (owned : w.Owned w.Alive) {d : DeckId}
    (alive : w.Alive (.deck d)) : (w.disposeDeck d).CardsBound once := by
  have onward : w.Onward (w.disposeDeck d) := onward_disposeNode (.deck d) w
  obtain ⟨none, unbound⟩ := disposeDeck_deck d w
  have leaves : w.LeavesBe (· = d) (fun c => w.Alive (.card c) ∧ c ∉ (w.deck d).cards)
      (w.disposeDeck d) := by
    refine leavesBe_disposeDeck (fun c => And.right) fun other mem c isIn same => mem.2 ?_
    exact owned.oneCard (.card isIn alive) mem.1 same ▸ isIn
  refine h.left _ _ onward.toLater (fun d' alive' => ?_) (fun s alive' => .inl ?_) leaves
    (fun d' ne alive' c mem => ⟨.card mem alive', fun mem' => ne ?_⟩) ?_
  · rw [← deckAlive_iff, deckAlive, onward.isRooted_eq] at alive'
    exact .inl (deckAlive_iff.1 alive')
  · rwa [stateAlive, onward.isRooted_eq, onward.isRooted_eq] at alive'
  · exact h.touches alive c mem' d' alive' mem
  · rintro d' rfl -
    refine ⟨?_, ?_, fun s at_ => ?_, fun s at_ => ?_⟩
    · rw [none]
      exact fun c mem => absurd mem List.not_mem_nil
    · rw [none]
      exact fun c mem => absurd mem List.not_mem_nil
    · cases unbound.symm.trans at_
    · cases unbound.symm.trans at_

lemma CardsBound.disposeNode (h : w.CardsBound once) (owned : w.Owned w.Alive) (n : NodeId)
    (direct : w.Ownerless n) (alive : w.Alive n.handle) : (w.disposeNode n).CardsBound once := by
  have steady := (onward_disposeNode n w).toSteady
  cases n with
  | expr e => exact h.sameBindings steady (sameSets_disposeExpr e w).sameBindings
  | set q =>
      refine h.steady (fun c => w.Alive (.card c)) steady ?_ fun d hd c mem => .card mem hd
      exact leavesBe_of_decks (sameCards_disposeSet q w).decks fun c hc =>
        sameBinding_disposeSet (direct c hc).symm
  | card c =>
      refine h.steady (fun other => w.Alive (.card other) ∧ c ≠ other) steady ?_
        fun d hd other mem => ⟨.card mem hd, fun here => direct d hd (here ▸ mem)⟩
      exact leavesBe_of_decks (disposeCard_decks c w) fun other ⟨hother, ne⟩ =>
        sameBinding_disposeCard ne (qualities_ne owned alive hother ne)
  | deck d => exact h.disposeDeck owned alive

/-- **Every engine step keeps cards where their deck is.** -/
theorem CardsBound.engineStep (h : w.CardsBound once) (owned : w.Owned w.Alive)
    (engineStep : EngineStep (Rule.cardsBound once) w v) : v.CardsBound once := by
  cases engineStep with
  | record event aside =>
      exact h.sameBindings (onward_record w aside).toSteady
        (SameSets.sameBindings ⟨rfl, rfl, rfl, rfl, rfl⟩)
  | roots names held granted => exact h.granted granted
  | amend s contents =>
      exact h.sameBindings (steady_amend s contents w) (sameBindings_amend s contents w)
  | enter s alive =>
      have held : (w.hold [.batch s]).CardsBound once := by
        refine h.hold nofun fun s' eq => .inl ?_
        obtain rfl := Handle.batch.inj (eq.resolve_left nofun)
        exact stateAlive_iff.2 alive
      exact held.sameBindings (steady_enterBatch s _)
        (SameSets.sameBindings ⟨rfl, rfl, rfl, rfl, rfl⟩)
  | shut s names held granted =>
      exact (h.granted granted).sameBindings (steady_shut s _) (sameBindings_shut s _)
  | newState =>
      have added : w.newState.1.CardsBound once := h.sameBindings (onward_addStore w).toSteady
        (SameSets.sameBindings ⟨rfl, rfl, rfl, rfl, rfl⟩)
      refine added.hold nofun fun s eq => .inr ?_
      obtain rfl := Handle.state.inj (eq.resolve_right nofun)
      show ((w.stores.add _).get w.stores.size).listeners.next = 0
      rw [Table.get_add]
      exact congrArg (fun st : Store => st.listeners.next) (if_pos rfl)
  | newBoard =>
      refine CardsBound.holdNode ?_ nofun nofun nofun
      exact h.sameBindings (onward_addBoard w).toSteady
        (SameSets.sameBindings ⟨rfl, rfl, rfl, rfl, rfl⟩)
  | newExpr cond state =>
      refine CardsBound.holdNode ?_ nofun nofun nofun
      exact h.sameBindings (onward_newExpr cond state w).toSteady
        (sameSets_newExpr cond state w).sameBindings
  | newSet conds state =>
      refine CardsBound.holdNode ?_ nofun nofun nofun
      exact h.sameBindings (onward_newSet conds state w).toSteady
        (sameBindings_newSet conds state w)
  | newCard hash content conds state =>
      refine CardsBound.holdNode ?_ nofun nofun nofun
      refine h.steady (·.place < w.cards.size) (onward_newCard hash content conds state w).toSteady
        (leavesBe_newCard hash content conds state w) fun d hd c mem => owned.bounded (.card mem hd)
  | newDeck config cards state alive cardsAlive enters =>
      exact h.newDeck config state fun c mem => ⟨(enters c mem).1, (enters c mem).2.1⟩
  | newListener em name program times alive =>
      have tight : w.Tighter (fun _ => False) _ := tighter_newListener em name program times w
      have same : w.SameBindings (w.newListener em name program times).1 :=
        (sameBindings_subscribeTo em ⟨w.listeners.size⟩ w).trans
          ⟨sameUse_of_same rfl rfl, fun _ => rfl, fun _ _ => id, fun _ => rfl⟩
      exact h.rooted (fun _ => True) (later_newListener em name program times w)
        tight.isRooted_eq same.leavesBe fun _ _ _ _ => trivial
  | spend l remaining left =>
      have same : w.SameBindings (w.spend l remaining) :=
        ⟨sameUse_of_same rfl rfl, fun _ => rfl, fun _ _ => id, fun _ => rfl⟩
      exact h.rooted (fun _ => True) (later_onListener fun _ => ⟨rfl, rfl, rfl⟩)
        (fun _ => rfl) same.leavesBe fun _ _ _ _ => trivial
  | unsubscribeFrom l =>
      exact h.sameBindings (onward_unsubscribeFrom _ _ w).toSteady
        (sameBindings_unsubscribeFrom _ _ w)
  | clearListeners em =>
      exact h.sameBindings (onward_clearListeners em w).toSteady (sameBindings_clearListeners em w)
  | readExpr e => exact h.cachesOnly (onward_exprResult e w) (cachesOnly_exprResult e w)
  | readSet q => exact h.cachesOnly (onward_setResult q w) (cachesOnly_setResult q w)
  | invalidateExpr e =>
    exact h.cachesOnly (onward_invalidateExpr e w) (cachesOnly_invalidateExpr e w)
  | invalidateSet q => exact h.cachesOnly (onward_invalidateSet q w) (cachesOnly_invalidateSet q w)
  | admitExpr e =>
      refine h.sameBindings (Onward.toSteady ?_) (sameSets_onExpr e _ w).sameBindings
      exact onward_onExpr (fun _ => .refl _ _) fun _ => .same rfl rfl rfl
  | admitSet q =>
      refine h.sameBindings (Onward.toSteady ?_) ?_
      · exact onward_onSet fun _ => .refl _ _
      · exact sameBindings_onSet q w fun _ => rfl
  | admitCard c =>
      refine h.sameBindings (Onward.toSteady ?_) ?_
      · exact onward_onCard fun _ => .refl _ _
      · exact sameBindings_onCard c w (fun _ => rfl) (fun _ => rfl) fun _ => rfl
  | admitDeck d =>
      refine h.sameBindings (Onward.toSteady ?_) ?_
      · exact onward_onDeck fun _ => .refl _ _
      · exact sameBindings_onDeck d w (fun _ _ => id) fun _ => rfl
  | bind n s alive stateAlive direct => exact h.bindNode n s direct alive
  | unbind n alive direct => exact h.unbindNode n direct alive
  | dispose n alive direct => exact h.disposeNode owned n direct alive
  | addQuality q cond =>
      exact h.sameBindings
        ((onward_insertQuality q cond w).trans (onward_invalidateSet q _)).toSteady
        ((sameBindings_insertQuality q cond w).trans (cachesOnly_invalidateSet q _).sameBindings)
  | dropMember q _ m =>
      exact h.sameBindings (onward_dropMember q m w).toSteady (sameBindings_dropMember q m w)
  | replaceQualities c conds alive =>
      have hc := cardAlive_iff.1 alive
      refine h.steady (fun other => w.Alive (.card other))
        (onward_replaceQualities c conds w).toSteady ?_ fun d hd other mem => .card mem hd
      exact leavesBe_replaceQualities conds (owned.quality hc) fun other hother ne =>
        qualities_ne owned hc hother ne
  | setContent c content =>
      refine h.sameBindings (Onward.toSteady ?_) ?_
      · exact onward_onCard fun _ => .refl _ _
      · exact sameBindings_onCard c w (fun _ => rfl) (fun _ => rfl) fun _ => rfl
  | replaceCards d cards alive cardsAlive enters =>
      exact h.replaceCards (deckAlive_iff.1 alive) fun c mem =>
        ⟨(enters c mem).1, (enters c mem).2.1⟩
  | insertCard d c alive cardAlive usable cardUsable enters =>
      exact h.insertCard (deckAlive_iff.1 alive) enters.1 enters.2.1
  | takeCard d c gone kept alive cardAlive parts taken =>
      exact h.takeCard (deckAlive_iff.1 alive) parts taken
  | replaceCard d c index old alive cardAlive usable cardUsable enters found =>
      exact h.replaceCard (deckAlive_iff.1 alive) enters.1 enters.2.1 enters.2.2 found
  | reorder d =>
      refine h.sameBindings (Onward.toSteady ?_) (sameBindings_reorder d w)
      exact onward_onDeck fun _ => .refl _ _
  | pick d cards =>
      refine h.sameBindings (Onward.toSteady ?_) ?_
      · exact onward_onDeck fun _ => .refl _ _
      · exact sameBindings_onDeck d w (fun _ _ => id) fun _ => rfl

end World

/-! ## Runs -/

open World in
/-- **The engine keeps cards where their deck is**, under the rule about cards that stand in a
deck. -/
theorem Preserved.cardsBound (once : Prop) :
    Preserved (Rule.cardsBound once)
      (fun w => (w.Numbered ∧ w.Coherent w.Alive fun _ => False) ∧ w.CardsBound once)
      fun e w => Awaiting e w ∧ w.CardsBound once where
  engineStep {w v} h engineStep := by
    have owned : EngineStep Rule.owned w v :=
      engineStep.mono (fun _ => Ownerless.independent) (fun _ => id) fun _ _ _ => trivial
    exact ⟨Preserved.coherent.engineStep h.1 owned, h.2.engineStep h.1.2.toOwned engineStep⟩
  bounded h := Preserved.coherent.bounded h.1
  rewrite e cond h := ⟨Preserved.coherent.rewrite e cond h.1,
    h.2.sameBindings (onward_rewriteExpr e cond _).toSteady (sameBindings_rewriteExpr e cond _)⟩
  skips h skips := ⟨Preserved.coherent.skips h.1 skips, h.2⟩
  fault h fault := ⟨Preserved.coherent.fault h.1 fault, h.2⟩
  read {w e} h := ⟨Preserved.coherent.read h.1,
    h.2.cachesOnly (onward_exprResult e w) (cachesOnly_exprResult e w)⟩
  record {w e event} aside h := ⟨Preserved.coherent.record aside h.1,
    h.2.cachesOnly (onward_record w aside) (cachesOnly_record event w)⟩
  user h entries := ⟨Preserved.coherent.user h.1 entries, h.2⟩
  owner {w e k q rest} h entries := by
    refine ⟨Preserved.coherent.owner h.1 entries, ?_⟩
    have held : (w.hold [.set q]).CardsBound once := h.2.holdNode nofun nofun nofun
    exact held.cachesOnly (onward_invalidateSet q _) (cachesOnly_invalidateSet q _)

namespace World

section
variable {look : Supervisor} {depth : Nat} {steps : List Step} {step : Step} {w : World}

/-- **The cards of a deck are bound where the deck is**, whenever a step is performed under the rule
about cards that stand in a deck, and they can be used.  A card may be bound to nothing besides,
unless it was asked that cards which make way stand in their deck `once`. -/
theorem cardsBound_of_meets {once : Prop} (obeys : look.Obeys (Rule.cardsBound once).allows)
    (meets : Meets look depth steps step w) {d : DeckId} (alive : w.Alive (.deck d)) {s : StateId}
    (bound : w.boundTo (.deck d) = some s) (stateAlive : w.stateAlive s) {c : CardId}
    (mem : c ∈ (w.deck d).cards) :
    w.Bindable c ∧ (w.boundTo (.card c) = some s ∨ ¬ once ∧ w.boundTo (.card c) = none) := by
  obtain ⟨-, cardsBound⟩ :=
    (Preserved.cardsBound once).of_meets ⟨⟨.empty, .empty⟩, .empty⟩ obeys meets
  exact ⟨(cardsBound d alive).usable c mem, (cardsBound d alive).bound s bound stateAlive c mem⟩

/-- **What a deck offers is what holds in its state**, where every card stands in one deck only and
is left to it: all cards of the deck whose conditions hold there, in their order and as often as
they stand in it.  It offers exactly those cards that it says are available. -/
theorem available_iff_of_meets {once : Prop} (obeys : look.Obeys (Rule.cardsBound once).allows)
    (meets : Meets look depth steps step w) {d : DeckId} (alive : w.Alive (.deck d)) {s : StateId}
    (bound : w.boundTo (.deck d) = some s) (stateAlive : w.stateAlive s) :
    (w.availableCards d).2 =
        .ok ((w.deck d).cards.filter fun c => w.setHolds (w.card c).qualities s) ∧
      ∀ c, (w.isCardAvailable d c).2 = .ok (w.setHolds (w.card c).qualities s) := by
  obtain ⟨⟨-, coherent⟩, cardsBound⟩ :=
    (Preserved.cardsBound once).of_meets ⟨⟨.empty, .empty⟩, .empty⟩ obeys meets
  have state : w.deckState d = .ok s := boundState_ok.2 ⟨bound, stateAlive⟩
  refine ⟨?_, fun c => by rw [isCardAvailable_value, state]; rfl⟩
  rw [coherent.toFresh.availableCards_value, state]
  refine congrArg Except.ok (List.filter_congr fun c mem => ?_)
  obtain ⟨usable, -⟩ := (cardsBound d alive).usable c mem
  rw [usable, coherent.deckReads_eq (fun _ => id) (.card mem alive)]
  rcases (cardsBound d alive).bound s bound stateAlive c mem with here | ⟨-, nowhere⟩
  · have own : w.cardState c = .ok s := boundState_ok.2 ⟨here, stateAlive⟩
    rw [answersFor, own]
    rfl
  · have own : w.cardState c = .error (.unbound .card) := congrArg (w.boundState _) nowhere
    rw [answersFor, own]
    rfl

end

/-- A card stands twice in a deck, and another one with the same hash takes its first place. -/
def updateRepeated : List Act :=
  [.state (.create "state"), .card (.create "card" "" [] none .fresh),
    .card (.create "other" "" [] none (.of "card")),
    .deck (.create "deck" ["card", "card"] (some "state") .none),
    .deck (.updateCard "deck" "other")]

/-- The card that made way still stands in the deck, and is not bound. -/
example :
    let w := runUnder .free fire (updateRepeated.map .act) .empty
    (w.deck ⟨0⟩).cards = [⟨1⟩, ⟨0⟩] ∧ w.boundTo (.deck ⟨0⟩) = some ⟨0⟩ ∧
      w.boundTo (.card ⟨0⟩) = none := by
  decide +kernel

end World

end StoryEngine
