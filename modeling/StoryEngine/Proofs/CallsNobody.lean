import StoryEngine.Proofs.DeckBindings
import StoryEngine.Proofs.Offer

/-!
# Work that calls nobody

What is done to nodes before listeners are notified of it calls nobody.

* `World.attachSet_trace` and its like — expressions and quality sets are bound and released, made
  and disposed of without a trace.
* **`World.CallsNobody`** — cards and decks leave remarks, but nobody is called, and who listens to
  decks stays the same.
* `World.callsNobody_insertCard` and its like — cards come and go and nobody is called.
-/

namespace StoryEngine.World

variable {w v : World}

/-! ## Expressions and quality sets -/

lemma release_trace (binding : Option Binding) (w : World) :
    (w.release binding).trace = w.trace := by
  cases binding <;> rfl

lemma foldl_trace {β : Type} {step : World → β → World}
    (same : ∀ w b, (step w b).trace = w.trace) (bs : List β) (w : World) :
    (bs.foldl step w).trace = w.trace := by
  induction bs generalizing w with
  | nil => rfl
  | cons b bs ih => exact (ih _).trans (same w b)

lemma unbindExpr_trace (e : ExprId) (w : World) : (w.unbindExpr e).trace = w.trace :=
  release_trace _ w

lemma attachExpr_trace (e : ExprId) (s : StateId) (w : World) :
    (w.attachExpr e s).trace = w.trace :=
  unbindExpr_trace e w

lemma disposeExpr_trace (e : ExprId) (w : World) : (w.disposeExpr e).trace = w.trace :=
  unbindExpr_trace e w

lemma unbindSet_trace (q : SetId) (w : World) : (w.unbindSet q).trace = w.trace :=
  (foldl_trace (fun w e => unbindExpr_trace e w) _ _).trans (release_trace _ w)

lemma tieSet_trace (q : SetId) (s : StateId) (f : SetNode → SetNode) (w : World) :
    ((w.subscribeState s (.set q)).1.onSet q f).trace = w.trace := rfl

lemma attachSet_trace (q : SetId) (s : StateId) (w : World) :
    (w.attachSet q s).trace = w.trace := by
  rw [attachSet_eq, tieSet_trace, attachExprs, foldl_trace fun w e => attachExpr_trace e s w]
  exact unbindSet_trace q w

lemma forgetMember_trace (m : Member) (w : World) : (w.forgetMember m).trace = w.trace := rfl

lemma letGo_trace (ms : List Member) (w : World) : (w.letGo ms).trace = w.trace := by
  rw [letGo, foldl_trace fun w m => forgetMember_trace m w, foldl_trace fun w (m : Member) =>
    disposeExpr_trace m.expr w]

lemma onSet_trace (q : SetId) (f : SetNode → SetNode) (w : World) :
    (w.onSet q f).trace = w.trace := rfl

lemma disposeSet_trace (q : SetId) (w : World) : (w.disposeSet q).trace = w.trace := by
  rw [disposeSet_eq, onSet_trace, letGo_trace, onSet_trace]
  exact unbindSet_trace q w

lemma newExpr_trace (cond : String) (state : Option StateId) (w : World) :
    (w.newExpr cond state).1.trace = w.trace := by
  cases state with
  | none => rfl
  | some s => exact attachExpr_trace _ s _

lemma insertQuality_trace (q : SetId) (cond : String) (w : World) :
    (w.insertQuality q cond).1.trace = w.trace := by
  by_cases has : w.hasQuality q cond
  · rw [insertQuality_of_has has]
  · rw [insertQuality_of_lacks (by simpa using has), onSet_trace]
    exact newExpr_trace cond _ w

lemma dropMember_trace (q : SetId) (m : Member) (w : World) : (w.dropMember q m).trace = w.trace :=
  disposeExpr_trace m.expr _

lemma newSet_trace (conds : List String) (w : World) : (w.newSet conds none).1.trace = w.trace :=
  foldl_trace (fun w cond => insertQuality_trace ⟨_⟩ cond w) conds _

lemma bindSetWhere_trace (c : CardId) (q : SetId) (w : World) :
    (w.bindSetWhere c q).1.trace = w.trace := by
  unfold bindSetWhere
  split
  · unfold bindSet
    split
    · rfl
    · exact attachSet_trace q _ w
  · rfl

lemma replaceQualities_trace (c : CardId) (conds : List String) (w : World) :
    (w.replaceQualities c conds).1.trace = w.trace := by
  have made : (w.withNewSet c conds).trace = w.trace :=
    (bindSetWhere_trace c _ _).trans (newSet_trace conds w)
  have turned : ((w.withNewSet c conds).turnTo c ⟨w.sets.size⟩).trace = w.trace := made
  rw [replaceQualities_eq, exchangeSet_eq, onSet_trace, disposeSet_trace, turned]

/-! ## Cards and decks -/

/-- **Nobody is called**, and who listens to decks stays the same. -/
structure CallsNobody (w v : World) : Prop extends Onward w v where
  calls : v.calls = w.calls
  subscribers : ∀ d, (v.deck d).listeners = (w.deck d).listeners

namespace CallsNobody

lemma refl (w : World) : w.CallsNobody w :=
  ⟨.refl w, rfl, fun _ => rfl⟩

lemma trans {u : World} (h : w.CallsNobody v) (h' : v.CallsNobody u) : w.CallsNobody u :=
  ⟨h.toOnward.trans h'.toOnward, h'.calls.trans h.calls,
    fun d => (h'.subscribers d).trans (h.subscribers d)⟩

lemma foldl {β : Type} {step : World → β → World} (each : ∀ (w : World) b, w.CallsNobody (step w b))
    (bs : List β) (w : World) : w.CallsNobody (bs.foldl step w) := by
  induction bs generalizing w with
  | nil => exact .refl w
  | cons b bs ih => exact (each w b).trans (ih _)

/-- What leaves no trace calls nobody. -/
lemma of_trace (onward : w.Onward v) (decks : v.decks = w.decks) (trace : v.trace = w.trace) :
    w.CallsNobody v :=
  ⟨onward, by rw [World.calls, World.calls, trace], fun d => by rw [deck_of_decks decks]⟩

lemma deckEntries_eq (h : w.CallsNobody v) (d : DeckId) : v.deckEntries d = w.deckEntries d := by
  rw [deckEntries, deckEntries, h.subscribers]

/-- A deck that is bound where it was has the same state. -/
lemma deckState_eq (h : w.CallsNobody v) {d : DeckId}
    (binding : (v.deck d).binding = (w.deck d).binding) : v.deckState d = w.deckState d :=
  deckState_congr binding h.names h.held

end CallsNobody

lemma callsNobody_note (n : Note) (w : World) : w.CallsNobody (w.note n) :=
  ⟨onward_note w n, calls_record rfl w, fun _ => rfl⟩

lemma callsNobody_onDeck (d : DeckId) {f : DeckNode → DeckNode} (w : World)
    (listeners : ∀ n, (f n).listeners = n.listeners) (disposed : ∀ n, (f n).disposed = n.disposed) :
    w.CallsNobody (w.onDeck d f) where
  toOnward := onward_onDeck fun n => by rw [listeners, disposed]; exact .refl _ _
  calls := rfl
  subscribers other := by
    rw [deck_onDeck]
    split
    · exact listeners _
    · rfl

lemma callsNobody_onCard (c : CardId) {f : CardNode → CardNode} (w : World)
    (listeners : ∀ n, (f n).listeners = n.listeners) (disposed : ∀ n, (f n).disposed = n.disposed) :
    w.CallsNobody (w.onCard c f) :=
  .of_trace (onward_onCard fun n => by rw [listeners, disposed]; exact .refl _ _) rfl rfl

lemma callsNobody_release (binding : Option Binding) (w : World) :
    w.CallsNobody (w.release binding) :=
  .of_trace (onward_release binding w) (release_decks binding w) (release_trace binding w)

lemma callsNobody_subscribeState (s : StateId) (l : StateListener) (w : World) :
    w.CallsNobody (w.subscribeState s l).1 :=
  .of_trace (onward_subscribeState s l w) rfl rfl

lemma callsNobody_unbindOnly (c : CardId) (w : World) : w.CallsNobody (w.unbindOnly c) := by
  rw [unbindOnly]
  split
  · refine .trans ?_ (callsNobody_note _ _)
    exact callsNobody_onCard c w (fun _ => rfl) fun _ => rfl
  · exact .refl w

lemma callsNobody_unbindCard (c : CardId) (w : World) : w.CallsNobody (w.unbindCard c) := by
  rw [unbindCard_eq]
  exact (callsNobody_unbindOnly c w).trans (.of_trace (onward_unbindSet _ _)
    (sameCards_unbindSet _ _).decks (unbindSet_trace _ _))

lemma callsNobody_attachCard (c : CardId) (s : StateId) (w : World) :
    w.CallsNobody (w.attachCard c s) := by
  have released := callsNobody_unbindCard c w
  rw [attachCard, bindSet]
  by_cases gone : ((w.unbindCard c).set ((w.unbindCard c).card c).qualities).disposed
  · rw [if_pos gone]
    dsimp only
    exact released.trans (callsNobody_note _ _)
  · rw [if_neg gone]
    dsimp only
    have attached : (w.unbindCard c).CallsNobody
        ((w.unbindCard c).attachSet ((w.unbindCard c).card c).qualities s) :=
      .of_trace (onward_attachSet _ s _) (sameCards_attachSet _ s _).decks (attachSet_trace _ s _)
    refine .trans ?_ (callsNobody_note _ _)
    exact (released.trans attached).trans (callsNobody_onCard c _ (fun _ => rfl) fun _ => rfl)

lemma callsNobody_bindCard (c : CardId) (s : StateId) (w : World) :
    w.CallsNobody (w.bindCard c s).1 := by
  rw [bindCard]
  split
  · exact .refl w
  · dsimp only
    exact callsNobody_attachCard c s w

lemma callsNobody_bindOrSkip (s : StateId) (w : World) (c : CardId) :
    w.CallsNobody (bindOrSkip s w c) := by
  have bound := callsNobody_bindCard c s w
  rw [bindOrSkip]
  rcases done : w.bindCard c s with ⟨v, fault | _⟩
  all_goals rw [done] at bound
  · exact bound.trans (callsNobody_note _ _)
  · exact bound

lemma callsNobody_unbindDeck (d : DeckId) (w : World) : w.CallsNobody (w.unbindDeck d) := by
  have released : w.CallsNobody (w.unbindDeckOnly d) := by
    rw [unbindDeckOnly]
    split
    · refine .trans ?_ (callsNobody_note _ _)
      exact (callsNobody_release _ w).trans (callsNobody_onDeck d _ (fun _ => rfl) fun _ => rfl)
    · exact .refl w
  rw [unbindDeck_eq]
  exact released.trans (.foldl (fun w c => callsNobody_unbindCard c w) _ _)

lemma callsNobody_attachDeck (d : DeckId) (s : StateId) (w : World) :
    w.CallsNobody (w.attachDeck d s) := by
  rw [attachDeck_eq]
  refine .trans ?_ (callsNobody_note _ _)
  refine .trans ?_ (callsNobody_onDeck d _ (fun _ => rfl) fun _ => rfl)
  refine .trans ?_ (callsNobody_subscribeState s _ _)
  exact (callsNobody_unbindDeck d w).trans (.foldl (callsNobody_bindOrSkip s) _ _)

lemma callsNobody_enterCard (d : DeckId) (c : CardId) (w : World) :
    w.CallsNobody (w.enterCard d c).1 :=
  .of_trace (onward_enterCard d c w) rfl rfl

lemma callsNobody_enterCards (d : DeckId) (cards : List CardId) (w : World) :
    w.CallsNobody (w.enterCards d cards).1 := by
  induction cards generalizing w with
  | nil => exact .refl w
  | cons c rest ih => exact (callsNobody_enterCard d c w).trans (ih _)

lemma callsNobody_forgetEntry (entry : Entry) (w : World) : w.CallsNobody (w.forgetEntry entry) :=
  .of_trace (onward_forgetEntry entry w) rfl rfl

lemma callsNobody_forgetEntries (entries : List Entry) (w : World) :
    w.CallsNobody (entries.foldl (fun w entry => w.forgetEntry entry) w) :=
  .foldl (fun w entry => callsNobody_forgetEntry entry w) entries w

lemma callsNobody_clearCards (d : DeckId) (w : World) : w.CallsNobody (w.clearCards d) := by
  refine .trans ?_ (callsNobody_forgetEntries _ _)
  refine .trans ?_ (.foldl (fun w (entry : Entry) => callsNobody_unbindCard entry.card w) _ _)
  exact callsNobody_onDeck d w (fun _ => rfl) fun _ => rfl

lemma callsNobody_replaceCards (d : DeckId) (cards : List CardId) (w : World) :
    w.CallsNobody (w.replaceCards d cards) := by
  refine .trans ?_ (callsNobody_onDeck d _ (fun _ => rfl) fun _ => rfl)
  refine .trans ?_ (callsNobody_note _ _)
  refine ((callsNobody_clearCards d w).trans (callsNobody_enterCards d cards _)).trans ?_
  rw [bindCardsWhere]
  split
  · exact .foldl (callsNobody_bindOrSkip _) cards _
  · exact .refl _

lemma callsNobody_bindWhere (d : DeckId) (c : CardId) (w : World) :
    w.CallsNobody (w.bindWhere d c).1 := by
  rw [bindWhere]
  split
  · exact callsNobody_bindCard c _ w
  · exact .refl w

lemma callsNobody_insertCard {c : CardId} (usable : (w.card c).disposed = false) (d : DeckId) :
    w.CallsNobody (w.insertCard d c).1 := by
  rw [insertCard_of_usable usable]
  refine .trans ?_ (callsNobody_onDeck d _ (fun _ => rfl) fun _ => rfl)
  refine .trans ?_ (callsNobody_enterCard d c _)
  exact (callsNobody_bindWhere d c w).trans (callsNobody_note _ _)

lemma callsNobody_takeCard (d : DeckId) (c : CardId) (gone kept : List Entry) (w : World) :
    w.CallsNobody (w.takeCard d c gone kept) := by
  refine .trans ?_ (callsNobody_note _ _)
  refine .trans ?_ (callsNobody_forgetEntries gone _)
  refine .trans ?_ (callsNobody_unbindCard c _)
  exact callsNobody_onDeck d w (fun _ => rfl) fun _ => rfl

lemma callsNobody_replaceCard (d : DeckId) (c : CardId) (index : Nat) (old : Entry) (w : World) :
    w.CallsNobody (w.replaceCard d c index old).1 := by
  rw [replaceCard_eq, displaced]
  refine .trans ?_ (callsNobody_bindWhere d c _)
  refine .trans ?_ (callsNobody_forgetEntry old _)
  refine .trans ?_ (callsNobody_unbindCard old.card _)
  exact (callsNobody_enterCard d c w).trans (callsNobody_onDeck d _ (fun _ => rfl) fun _ => rfl)

lemma callsNobody_reorder (d : DeckId) (w : World) : w.CallsNobody (w.reorder d) :=
  callsNobody_onDeck d w (fun _ => rfl) fun _ => rfl

end StoryEngine.World
