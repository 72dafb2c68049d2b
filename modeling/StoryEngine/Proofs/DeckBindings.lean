import StoryEngine.Proofs.AtRest

/-!
# Where cards are bound when decks are worked on

A deck binds what enters it and releases what leaves it, card by card.  Here is said of each
operation on a deck where every card and every deck is bound after it.  Only cards that can be bound
at all come into it: a card that has been disposed of is passed over, and one whose quality set has
been disposed of stays unbound.

* `World.Bindable` — a card that can be bound.
* `World.boundTo_card_unbindCard`, `World.boundTo_card_attachCard` — one card, and
  `World.boundTo_card_unbindCards`, `World.boundTo_card_bindAll` — several of them.
* `World.boundTo_card_attachDeck` and its like — the cards of a deck, and
  `World.boundTo_deck_attachDeck` and its like — the deck itself.
* `World.boundTo_card_replaceCards` and its like — cards that enter and leave.
-/

namespace StoryEngine.World

variable {w v : World}

/-- **A card that can be bound**: neither it nor its quality set has been disposed of. -/
def Bindable (w : World) (c : CardId) : Prop :=
  (w.card c).disposed = false ∧ (w.set (w.card c).qualities).disposed = false

lemma BindingsOnly.bindable_iff (h : w.BindingsOnly v) (c : CardId) :
    v.Bindable c ↔ w.Bindable c := by
  rw [Bindable, Bindable, h.qualities_eq, h.card c, h.set]

/-! ## One card -/

lemma boundTo_card_unbindCard (c other : CardId) (w : World) :
    (w.unbindCard c).boundTo (.card other) =
      if c = other then none else w.boundTo (.card other) := by
  rw [unbindCard_eq, boundTo, (sameCards_unbindSet _ _).card_eq, unbindOnly]
  split
  · show ((w.onCard c _).card other).binding = _
    rw [card_onCard]
    split <;> rfl
  · next unbound =>
      split
      · next here =>
          subst here
          simpa using unbound
      · rfl

lemma boundTo_note (n : Note) (node : NodeId) (w : World) :
    (w.note n).boundTo node = w.boundTo node := by
  cases node <;> rfl

lemma deck_note (n : Note) (d : DeckId) (w : World) : (w.note n).deck d = w.deck d := rfl

lemma store_note (n : Note) (s : StateId) (w : World) : (w.note n).store s = w.store s := rfl

lemma store_onDeck (d : DeckId) (f : DeckNode → DeckNode) (s : StateId) (w : World) :
    (w.onDeck d f).store s = w.store s := rfl

/-- What attaching a card that can be bound comes to after its quality set is bound. -/
lemma attachCard_of_bindable {c : CardId} (bindable : w.Bindable c) (s : StateId) :
    w.attachCard c s =
      (((w.unbindCard c).attachSet ((w.unbindCard c).card c).qualities s).onCard c fun n =>
        { n with binding := some s, gate := .fresh }).note
          (.cardBound ((w.unbindCard c).card c).hash) := by
  have usable := (((bindingsOnly_unbindCard c w).bindable_iff c).2 bindable).2
  rw [attachCard, bindSet, usable]
  rfl

/-- **A card that can be bound is bound when it is attached.** -/
lemma boundTo_card_attachCard {c : CardId} (bindable : w.Bindable c) (s : StateId)
    (other : CardId) :
    (w.attachCard c s).boundTo (.card other) =
      if c = other then some s else w.boundTo (.card other) := by
  rw [attachCard_of_bindable bindable, boundTo_note, boundTo, card_onCard,
    (sameCards_attachSet _ _ _).card_eq]
  split
  · rfl
  · next elsewhere => exact (boundTo_card_unbindCard c other w).trans (if_neg elsewhere)

lemma bindCard_of_usable {c : CardId} (usable : (w.card c).disposed = false) (s : StateId) :
    w.bindCard c s = (w.attachCard c s, .ok ()) := by
  rw [bindCard, usable]
  rfl

lemma bindOrSkip_of_usable {c : CardId} (usable : (w.card c).disposed = false) (s : StateId) :
    bindOrSkip s w c = w.attachCard c s := by
  rw [bindOrSkip, bindCard_of_usable usable]

/-! ## Several cards -/

lemma boundTo_card_unbindCards (cards : List CardId) (c : CardId) (w : World) :
    (cards.foldl (fun w c => w.unbindCard c) w).boundTo (.card c) =
      if c ∈ cards then none else w.boundTo (.card c) := by
  induction cards generalizing w with
  | nil => rfl
  | cons first rest ih =>
      rw [List.foldl_cons, ih, boundTo_card_unbindCard]
      by_cases here : first = c
      · simp [here]
      · simp [here, Ne.symm here]

/-- **Cards that can be bound are bound**, one after the other. -/
lemma boundTo_card_bindAll {cards : List CardId} (bindable : ∀ c ∈ cards, w.Bindable c)
    (s : StateId) (c : CardId) :
    (cards.foldl (bindOrSkip s) w).boundTo (.card c) =
      if c ∈ cards then some s else w.boundTo (.card c) := by
  induction cards generalizing w with
  | nil => rfl
  | cons first rest ih =>
      have its := bindable first List.mem_cons_self
      rw [List.foldl_cons, bindOrSkip_of_usable its.1, ih fun other mem =>
        ((bindingsOnly_attachCard first s w).bindable_iff other).2
          (bindable other (List.mem_cons_of_mem _ mem)), boundTo_card_attachCard its]
      by_cases here : first = c
      · simp [here]
      · simp [here, Ne.symm here]

lemma boundTo_card_of_cards (same : v.cards = w.cards) (c : CardId) :
    v.boundTo (.card c) = w.boundTo (.card c) := by
  rw [boundTo, boundTo, card, card, same]

lemma boundTo_deck_of_decks (same : v.decks = w.decks) (d : DeckId) :
    v.boundTo (.deck d) = w.boundTo (.deck d) := by
  rw [boundTo, boundTo, deck, deck, same]

/-- A change of a card that keeps where it is bound. -/
lemma boundTo_card_onCard (c other : CardId) (w : World) {f : CardNode → CardNode}
    (same : ∀ n, (f n).binding = n.binding) :
    (w.onCard c f).boundTo (.card other) = w.boundTo (.card other) := by
  rw [boundTo, boundTo, card_onCard]
  split
  · exact same _
  · rfl

lemma boundTo_subscribeState (s : StateId) (l : StateListener) (n : NodeId) (w : World) :
    (w.subscribeState s l).1.boundTo n = w.boundTo n := by
  cases n <;> rfl

lemma boundTo_deck_onDeck (d other : DeckId) (f : DeckNode → DeckNode) (w : World) :
    (w.onDeck d f).boundTo (.deck other) =
      if d = other then (f (w.deck d)).binding.map (·.state) else w.boundTo (.deck other) := by
  rw [boundTo, deck_onDeck]
  split
  · next eq => rw [eq]
  · rfl

/-! ## Releasing and attaching a deck -/

lemma release_cards (binding : Option Binding) (w : World) : (w.release binding).cards = w.cards :=
  (sameSets_release binding w).cards

lemma release_decks (binding : Option Binding) (w : World) : (w.release binding).decks = w.decks :=
  (sameSets_release binding w).decks

lemma unbindDeckOnly_cards (d : DeckId) (w : World) : (w.unbindDeckOnly d).cards = w.cards := by
  rw [unbindDeckOnly]
  split
  · exact release_cards _ w
  · rfl

lemma boundTo_deck_unbindDeckOnly (d other : DeckId) (w : World) :
    (w.unbindDeckOnly d).boundTo (.deck other) =
      if d = other then none else w.boundTo (.deck other) := by
  rw [unbindDeckOnly]
  split
  · refine (boundTo_deck_onDeck d other _ _).trans ?_
    rw [boundTo_deck_of_decks (release_decks _ w)]
    rfl
  · next unbound =>
      split
      · next here =>
          subst here
          have none : (w.deck d).binding = none := by simpa using unbound
          rw [boundTo, none]
          rfl
      · rfl

/-- **A deck that is released is not bound**, and other decks are where they were. -/
lemma boundTo_deck_unbindDeck (d other : DeckId) (w : World) :
    (w.unbindDeck d).boundTo (.deck other) =
      if d = other then none else w.boundTo (.deck other) := by
  rw [unbindDeck_eq, boundTo_deck_of_decks (foldl_decks (fun w c => unbindCard_decks c w) _ _)]
  exact boundTo_deck_unbindDeckOnly d other w

/-- **The cards of a deck that is released are not bound**, and others are where they were. -/
theorem boundTo_card_unbindDeck (d : DeckId) (c : CardId) (w : World) :
    (w.unbindDeck d).boundTo (.card c) =
      if c ∈ (w.deck d).cards then none else w.boundTo (.card c) := by
  rw [unbindDeck_eq, boundTo_card_unbindCards, (bindingsOnly_unbindDeckOnly d w).deckCards_eq,
    boundTo_card_of_cards (unbindDeckOnly_cards d w)]

/-- What attaching a deck comes to after its cards are bound. -/
lemma attachDeck_eq (d : DeckId) (s : StateId) (w : World) :
    w.attachDeck d s =
      (((((w.unbindDeck d).deck d).cards.foldl (bindOrSkip s) (w.unbindDeck d)).subscribeState s
        (.deck d)).1.onDeck d fun n =>
          { n with
            binding := some ⟨s, ((((w.unbindDeck d).deck d).cards.foldl (bindOrSkip s)
              (w.unbindDeck d)).subscribeState s (.deck d)).2⟩
            gate := .fresh }).note (.deckBound ((w.unbindDeck d).deck d).cards.length) := by
  unfold attachDeck
  dsimp only

/-- **The cards of a deck that is attached are bound where it is**, and others are where they
were. -/
theorem boundTo_card_attachDeck {d : DeckId} (bindable : ∀ c ∈ (w.deck d).cards, w.Bindable c)
    (s : StateId) (c : CardId) :
    (w.attachDeck d s).boundTo (.card c) =
      if c ∈ (w.deck d).cards then some s else w.boundTo (.card c) := by
  have only := bindingsOnly_unbindDeck d w
  have bound : ((((w.unbindDeck d).deck d).cards.foldl (bindOrSkip s) (w.unbindDeck d))).boundTo
      (.card c) = if c ∈ (w.deck d).cards then some s else w.boundTo (.card c) := by
    have usable := fun c mem => (only.bindable_iff c).2 (bindable c mem)
    rw [only.deckCards_eq, boundTo_card_bindAll usable, boundTo_card_unbindDeck]
    split <;> rfl
  rw [attachDeck_eq, boundTo_note, ← bound]
  rfl

lemma boundTo_deck_attachDeck (d other : DeckId) (s : StateId) (w : World) :
    (w.attachDeck d s).boundTo (.deck other) =
      if d = other then some s else w.boundTo (.deck other) := by
  have decks : (((w.unbindDeck d).deck d).cards.foldl (bindOrSkip s) (w.unbindDeck d)).decks =
      (w.unbindDeck d).decks := foldl_decks (bindOrSkip_decks s) _ _
  rw [attachDeck_eq, boundTo_note, boundTo_deck_onDeck]
  split
  · rfl
  · next elsewhere =>
      rw [boundTo_subscribeState, boundTo_deck_of_decks decks, boundTo_deck_unbindDeck,
        if_neg elsewhere]

/-! ## Work on one deck -/

/-- **Nothing is disposed of**, and no card gets another quality set. -/
structure SameUse (w v : World) : Prop where
  card : ∀ c, (v.card c).disposed = (w.card c).disposed
  qualities : ∀ c, (v.card c).qualities = (w.card c).qualities
  set : ∀ q, (v.set q).disposed = (w.set q).disposed

lemma SameUse.refl (w : World) : w.SameUse w :=
  ⟨fun _ => rfl, fun _ => rfl, fun _ => rfl⟩

lemma SameUse.trans {u : World} (h : w.SameUse v) (h' : v.SameUse u) : w.SameUse u :=
  ⟨fun c => (h'.card c).trans (h.card c), fun c => (h'.qualities c).trans (h.qualities c),
    fun q => (h'.set q).trans (h.set q)⟩

lemma sameUse_of_same (cards : v.cards = w.cards) (sets : v.sets = w.sets) : w.SameUse v :=
  ⟨fun c => by rw [World.card, World.card, cards], fun c => by rw [World.card, World.card, cards],
    fun q => by rw [World.set, World.set, sets]⟩

lemma BindingsOnly.sameUse (h : w.BindingsOnly v) : w.SameUse v :=
  ⟨fun c => by rw [h.card c], h.qualities_eq, fun q => by rw [h.set q]⟩

lemma sameUse_onCard (c : CardId) (w : World) {f : CardNode → CardNode}
    (disposed : ∀ n, (f n).disposed = n.disposed)
    (qualities : ∀ n, (f n).qualities = n.qualities) : w.SameUse (w.onCard c f) := by
  refine { SameUse.refl w with card := fun other => ?_, qualities := fun other => ?_ }
  all_goals rw [card_onCard]
  all_goals split
  · exact disposed _
  · rfl
  · exact qualities _
  · rfl

lemma SameUse.bindable_iff (h : w.SameUse v) (c : CardId) : v.Bindable c ↔ w.Bindable c := by
  rw [Bindable, Bindable, h.card, h.qualities, h.set]

/-- **Work on one deck**: other decks are as they were, and so are cards that are not touched. -/
structure Works (d : DeckId) (touched : CardId → Prop) (w v : World) : Prop extends
    SameUse w v where
  others : ∀ d', d' ≠ d → v.deck d' = w.deck d'
  apart : ∀ c, ¬ touched c → v.boundTo (.card c) = w.boundTo (.card c)

section
variable {d : DeckId} {touched : CardId → Prop}

lemma Works.refl (w : World) : Works d touched w w :=
  ⟨.refl w, fun _ _ => rfl, fun _ _ => rfl⟩

lemma Works.trans {u : World} (h : Works d touched w v) (h' : Works d touched v u) :
    Works d touched w u :=
  ⟨h.toSameUse.trans h'.toSameUse, fun d' ne => (h'.others d' ne).trans (h.others d' ne),
    fun c free => (h'.apart c free).trans (h.apart c free)⟩

lemma Works.foldl {β : Type} {step : World → β → World} {bs : List β}
    (each : ∀ v : World, ∀ b ∈ bs, Works d touched v (step v b)) (w : World) :
    Works d touched w (bs.foldl step w) := by
  induction bs generalizing w with
  | nil => exact .refl w
  | cons b bs ih =>
      exact (each w b List.mem_cons_self).trans
        (ih (fun v b' mem => each v b' (List.mem_cons_of_mem _ mem)) _)

lemma works_note (n : Note) (w : World) : Works d touched w (w.note n) :=
  ⟨sameUse_of_same rfl rfl, fun _ _ => rfl, fun _ _ => rfl⟩

lemma works_onDeck (d : DeckId) (f : DeckNode → DeckNode) (w : World) :
    Works d touched w (w.onDeck d f) :=
  ⟨sameUse_of_same rfl rfl, fun d' ne => by rw [deck_onDeck, if_neg ne.symm], fun _ _ => rfl⟩

lemma works_onStore (s : StateId) (f : Store → Store) (w : World) :
    Works d touched w (w.onStore s f) :=
  ⟨sameUse_of_same rfl rfl, fun _ _ => rfl, fun _ _ => rfl⟩

lemma boundTo_card_enterCard (d : DeckId) (c other : CardId) (w : World) :
    (w.enterCard d c).1.boundTo (.card other) = w.boundTo (.card other) :=
  boundTo_card_onCard c other w fun _ => rfl

lemma boundTo_card_forgetEntry (entry : Entry) (c : CardId) (w : World) :
    (w.forgetEntry entry).boundTo (.card c) = w.boundTo (.card c) :=
  boundTo_card_onCard entry.card c w fun _ => rfl

lemma boundTo_card_forgetEntries (entries : List Entry) (c : CardId) (w : World) :
    (entries.foldl (fun w entry => w.forgetEntry entry) w).boundTo (.card c) =
      w.boundTo (.card c) := by
  induction entries generalizing w with
  | nil => rfl
  | cons entry rest ih => exact (ih _).trans (boundTo_card_forgetEntry entry c w)

lemma works_enterCard (d' : DeckId) (c : CardId) (w : World) :
    Works d touched w (w.enterCard d' c).1 :=
  ⟨sameUse_onCard c w (fun _ => rfl) fun _ => rfl, fun _ _ => rfl,
    fun other _ => boundTo_card_enterCard d' c other w⟩

lemma works_enterCards (d' : DeckId) (cards : List CardId) (w : World) :
    Works d touched w (w.enterCards d' cards).1 := by
  induction cards generalizing w with
  | nil => exact .refl w
  | cons c rest ih => exact (works_enterCard d' c w).trans (ih _)

lemma works_forgetEntry (entry : Entry) (w : World) : Works d touched w (w.forgetEntry entry) :=
  ⟨sameUse_onCard entry.card w (fun _ => rfl) fun _ => rfl, fun _ _ => rfl,
    fun other _ => boundTo_card_forgetEntry entry other w⟩

lemma works_forgetEntries (entries : List Entry) (w : World) :
    Works d touched w (entries.foldl (fun w entry => w.forgetEntry entry) w) :=
  .foldl (fun v entry _ => works_forgetEntry entry v) w

lemma deck_of_decks (same : v.decks = w.decks) (d : DeckId) : v.deck d = w.deck d := by
  rw [deck, deck, same]

lemma works_unbindCard {c : CardId} (mem : touched c) (w : World) :
    Works d touched w (w.unbindCard c) := by
  refine ⟨(bindingsOnly_unbindCard c w).sameUse, fun d' _ => ?_, fun other free => ?_⟩
  · exact deck_of_decks (unbindCard_decks c w) d'
  · rw [boundTo_card_unbindCard, if_neg fun eq : c = other => free (eq ▸ mem)]

lemma works_attachCard {c : CardId} (mem : touched c) (bindable : w.Bindable c) (s : StateId) :
    Works d touched w (w.attachCard c s) := by
  refine ⟨(bindingsOnly_attachCard c s w).sameUse, fun d' _ => ?_, fun other free => ?_⟩
  · exact deck_of_decks (attachCard_decks c s w) d'
  · rw [boundTo_card_attachCard bindable, if_neg fun eq : c = other => free (eq ▸ mem)]

lemma works_bindAll {cards : List CardId} (touches : ∀ c ∈ cards, touched c)
    (bindable : ∀ c ∈ cards, w.Bindable c) (s : StateId) :
    Works d touched w (cards.foldl (bindOrSkip s) w) := by
  refine ⟨(BindingsOnly.foldl (bindingsOnly_bindOrSkip s) cards w).sameUse, fun d' _ => ?_,
    fun c free => ?_⟩
  · exact deck_of_decks (foldl_decks (bindOrSkip_decks s) cards w) d'
  · rw [boundTo_card_bindAll bindable, if_neg fun mem => free (touches c mem)]

lemma works_unbindDeck (touches : ∀ c ∈ (w.deck d).cards, touched c) :
    Works d touched w (w.unbindDeck d) := by
  refine ⟨(bindingsOnly_unbindDeck d w).sameUse, fun d' ne => ?_, fun c free => ?_⟩
  · rw [unbindDeck_eq, deck_of_decks (foldl_decks (fun w c => unbindCard_decks c w) _ _),
      unbindDeckOnly]
    split
    · refine (deck_onDeck _ _ _ _).trans ?_
      rw [if_neg ne.symm, deck_of_decks (release_decks _ w)]
    · rfl
  · rw [boundTo_card_unbindDeck, if_neg fun mem => free (touches c mem)]

lemma works_attachDeck (touches : ∀ c ∈ (w.deck d).cards, touched c)
    (bindable : ∀ c ∈ (w.deck d).cards, w.Bindable c) (s : StateId) :
    Works d touched w (w.attachDeck d s) := by
  have only := bindingsOnly_unbindDeck d w
  have attached : Works d touched w
      (((w.unbindDeck d).deck d).cards.foldl (bindOrSkip s) (w.unbindDeck d)) := by
    refine (works_unbindDeck touches).trans (works_bindAll ?_ ?_ s)
    all_goals rw [only.deckCards_eq]
    · exact touches
    · exact fun c mem => (only.bindable_iff c).2 (bindable c mem)
  rw [attachDeck_eq]
  refine Works.trans ?_ (works_note _ _)
  refine Works.trans ?_ (works_onDeck d _ _)
  exact attached.trans (works_onStore s _ _)

/-! ## Cards that enter and leave a deck -/

lemma deckState_congr (binding : (v.deck d).binding = (w.deck d).binding)
    (names : v.names = w.names) (held : v.held = w.held) : v.deckState d = w.deckState d := by
  have rooted : ∀ handle, v.isRooted handle = w.isRooted handle := fun handle => by
    rw [isRooted, isRooted, names, held]
  have alive : ∀ s, v.stateAlive s = w.stateAlive s := fun s => by
    rw [stateAlive, stateAlive, rooted, rooted]
  rw [deckState, deckState, binding]
  rcases (w.deck d).binding with _ | b
  · rfl
  · rw [Option.map_some, boundState, boundState, alive]

lemma works_clearCards (touches : ∀ c ∈ (w.deck d).cards, touched c) :
    Works d touched w (w.clearCards d) := by
  refine Works.trans ?_ (works_forgetEntries _ _)
  refine (works_onDeck d _ w).trans (.foldl (fun v entry mem => works_unbindCard ?_ v) _)
  exact touches entry.card (List.mem_map_of_mem mem)

lemma clearCards_decks (d : DeckId) (w : World) :
    (w.clearCards d).decks = (w.onDeck d fun n => { n with entries := [] }).decks := by
  rw [clearCards, foldl_decks forgetEntry_decks, foldl_decks fun w entry => unbindCard_decks _ w]

/-- A deck without its cards, to which others have subscribed it. -/
lemma clearedDeck (d : DeckId) (cards : List CardId) (w : World) :
    ((w.clearCards d).enterCards d cards).1.deck d = { w.deck d with entries := [] } := by
  rw [deck_of_decks (enterCards_decks d cards _), deck_of_decks (clearCards_decks d w), deck_onDeck,
    if_pos rfl]

lemma deckState_cleared (d : DeckId) (cards : List CardId) (w : World) :
    ((w.clearCards d).enterCards d cards).1.deckState d = w.deckState d := by
  have tight : w.Tighter (fun _ => False) ((w.clearCards d).enterCards d cards).1 :=
    (tighter_clearCards d w).trans (tighter_enterCards d cards _)
  exact deckState_congr (by rw [clearedDeck]) tight.names tight.held

lemma works_bindCardsWhere {cards : List CardId} (touches : ∀ c ∈ cards, touched c)
    (bindable : ∀ c ∈ cards, w.Bindable c) : Works d touched w (w.bindCardsWhere d cards) := by
  rw [bindCardsWhere]
  split
  · exact works_bindAll touches bindable _
  · exact .refl w

/-- A deck gets other cards. -/
lemma works_replaceCards {cards : List CardId} (leave : ∀ c ∈ (w.deck d).cards, touched c)
    (enter : ∀ c ∈ cards, touched c) (bindable : ∀ c ∈ cards, w.Bindable c) :
    Works d touched w (w.replaceCards d cards) := by
  have cleared := (works_clearCards leave).trans (works_enterCards d cards _)
  refine Works.trans ?_ (works_onDeck d _ _)
  refine Works.trans ?_ (works_note _ _)
  refine cleared.trans (works_bindCardsWhere enter fun c mem => ?_)
  exact (cleared.bindable_iff c).2 (bindable c mem)

/-- **A deck that gets other cards** is as it was but for its places, and other decks are as they
were. -/
lemma deck_replaceCards (d other : DeckId) (cards : List CardId) (w : World) :
    (w.replaceCards d cards).deck other =
      if d = other then
        { w.deck d with entries := ((w.clearCards d).enterCards d cards).2 }
      else w.deck other := by
  have bound := deck_of_decks
    (bindCardsWhere_decks d cards ((w.clearCards d).enterCards d cards).1)
  rw [replaceCards]
  dsimp only
  rw [deck_onDeck, deck_note, bound]
  split
  · next here =>
      subst here
      rw [clearedDeck]
  · next elsewhere =>
      rw [deck_of_decks (enterCards_decks d cards _), deck_of_decks (clearCards_decks d w),
        deck_onDeck, if_neg elsewhere]

lemma replaceCards_deck (d : DeckId) (cards : List CardId) (w : World) :
    ((w.replaceCards d cards).deck d).cards = cards ∧
      ((w.replaceCards d cards).deck d).binding = (w.deck d).binding := by
  rw [deck_replaceCards, if_pos rfl]
  exact ⟨enterCards_cards d cards _, rfl⟩

/-- **The cards that a bound deck gets are bound where it is.** -/
theorem boundTo_card_replaceCards {cards : List CardId} (bindable : ∀ c ∈ cards, w.Bindable c)
    {s : StateId} (state : w.deckState d = .ok s) {c : CardId} (mem : c ∈ cards) :
    (w.replaceCards d cards).boundTo (.card c) = some s := by
  have cleared : Works d (fun _ => True) w ((w.clearCards d).enterCards d cards).1 :=
    (works_clearCards fun _ _ => trivial).trans (works_enterCards d cards _)
  have bound := boundTo_card_bindAll
    (fun c mem => (cleared.bindable_iff c).2 (bindable c mem)) s c
  rw [if_pos mem] at bound
  rw [replaceCards]
  dsimp only
  rw [bindCardsWhere, deckState_cleared, state, ← bound]
  rfl

/-- A card that has not been disposed of is attached where a deck is bound, if that is anywhere. -/
lemma bindWhere_of_usable {c : CardId} (usable : (w.card c).disposed = false) :
    w.bindWhere d c =
      (match w.deckState d with
        | .ok s => w.attachCard c s
        | .error _ => w, .ok ()) := by
  rw [bindWhere]
  rcases w.deckState d with fault | s
  · rfl
  · exact bindCard_of_usable usable s

lemma works_bindWhere {c : CardId} (mem : touched c) (bindable : w.Bindable c) :
    Works d touched w (w.bindWhere d c).1 := by
  rw [bindWhere_of_usable bindable.1]
  rcases w.deckState d with fault | s
  · exact .refl w
  · dsimp only
    exact works_attachCard mem bindable s

lemma bindWhere_decks (d : DeckId) (c : CardId) (w : World) :
    (w.bindWhere d c).1.decks = w.decks := by
  rw [bindWhere]
  split
  · exact bindCard_decks c _ w
  · rfl

lemma boundTo_card_bindWhere {c : CardId} (bindable : w.Bindable c) {s : StateId}
    (state : w.deckState d = .ok s) (other : CardId) :
    (w.bindWhere d c).1.boundTo (.card other) =
      if c = other then some s else w.boundTo (.card other) := by
  rw [bindWhere_of_usable bindable.1, state]
  dsimp only
  exact boundTo_card_attachCard bindable s other

/-- What it comes to that a card goes to the end of a deck. -/
lemma insertCard_of_usable {c : CardId} (usable : (w.card c).disposed = false) :
    (w.insertCard d c).1 =
      let bound := (w.bindWhere d c).1.note (.cardAdded ((w.bindWhere d c).1.card c).hash)
      (bound.enterCard d c).1.onDeck d fun n =>
        { n with entries := n.entries ++ [(bound.enterCard d c).2] } := by
  rw [insertCard, bindWhere_of_usable usable]

/-- A card goes to the end of a deck. -/
lemma works_insertCard {c : CardId} (mem : touched c) (bindable : w.Bindable c) :
    Works d touched w (w.insertCard d c).1 := by
  rw [insertCard_of_usable bindable.1]
  refine Works.trans ?_ (works_onDeck d _ _)
  refine Works.trans ?_ (works_enterCard d c _)
  exact (works_bindWhere mem bindable).trans (works_note _ _)

lemma insertCard_deck {c : CardId} (usable : (w.card c).disposed = false) :
    ((w.insertCard d c).1.deck d).cards = (w.deck d).cards ++ [c] ∧
      ((w.insertCard d c).1.deck d).binding = (w.deck d).binding := by
  have same : ((w.bindWhere d c).1.deck d) = w.deck d := deck_of_decks (bindWhere_decks d c w) d
  rw [insertCard_of_usable usable]
  dsimp only
  rw [deck_onDeck, if_pos rfl, DeckNode.cards, List.map_append]
  exact ⟨congrArg (fun n : DeckNode => n.cards ++ [c]) same, (congrArg DeckNode.binding same :)⟩

/-- **The card that goes into a bound deck is bound where it is**, and others are where they
were. -/
theorem boundTo_card_insertCard {c : CardId} (bindable : w.Bindable c) {s : StateId}
    (state : w.deckState d = .ok s) (other : CardId) :
    (w.insertCard d c).1.boundTo (.card other) =
      if c = other then some s else w.boundTo (.card other) := by
  rw [insertCard_of_usable bindable.1, ← boundTo_card_bindWhere bindable state]
  exact boundTo_card_enterCard d c other _

/-- A card leaves a deck. -/
lemma works_takeCard {c : CardId} (mem : touched c) (gone kept : List Entry) :
    Works d touched w (w.takeCard d c gone kept) := by
  refine Works.trans ?_ (works_note _ _)
  refine Works.trans ?_ (works_forgetEntries gone _)
  exact (works_onDeck d _ w).trans (works_unbindCard mem _)

lemma takeCard_deck (d : DeckId) (c : CardId) (gone kept : List Entry) (w : World) :
    (w.takeCard d c gone kept).deck d = { w.deck d with entries := kept } := by
  have same : (w.takeCard d c gone kept).decks =
      (w.onDeck d fun n => { n with entries := kept }).decks := by
    rw [takeCard, note, World.record, foldl_decks forgetEntry_decks, unbindCard_decks]
  rw [deck_of_decks same, deck_onDeck, if_pos rfl]

/-- **The card that leaves a deck is released**, and others are where they were. -/
theorem boundTo_card_takeCard (d : DeckId) (c other : CardId) (gone kept : List Entry) (w : World) :
    (w.takeCard d c gone kept).boundTo (.card other) =
      if c = other then none else w.boundTo (.card other) := by
  rw [takeCard]
  rw [boundTo_note, boundTo_card_forgetEntries, boundTo_card_unbindCard]
  rfl

/-- A card that is to stand in a place of a deck, and the card released that stood there. -/
def displaced (d : DeckId) (c : CardId) (index : Nat) (old : Entry) (w : World) : World :=
  (((w.enterCard d c).1.onDeck d fun n =>
    { n with entries := n.entries.set index (w.enterCard d c).2 }).unbindCard old.card).forgetEntry
      old

lemma replaceCard_eq (d : DeckId) (c : CardId) (index : Nat) (old : Entry) (w : World) :
    w.replaceCard d c index old = (w.displaced d c index old).bindWhere d c := rfl

lemma works_displaced {c : CardId} {old : Entry} (mem : touched old.card) (index : Nat) :
    Works d touched w (w.displaced d c index old) := by
  refine Works.trans ?_ (works_forgetEntry old _)
  refine Works.trans ?_ (works_unbindCard mem _)
  exact (works_enterCard d c w).trans (works_onDeck d _ _)

lemma displaced_deck (d : DeckId) (c : CardId) (index : Nat) (old : Entry) (w : World) :
    (w.displaced d c index old).deck d =
      { w.deck d with entries := (w.deck d).entries.set index (w.enterCard d c).2 } := by
  have same : (w.displaced d c index old).decks =
      ((w.enterCard d c).1.onDeck d fun n =>
        { n with entries := n.entries.set index (w.enterCard d c).2 }).decks := by
    rw [displaced, forgetEntry_decks, unbindCard_decks]
  rw [deck_of_decks same, deck_onDeck, if_pos rfl]
  rfl

/-- A deck is bound where it was while a card makes way for another one. -/
lemma deckState_displaced (d : DeckId) (c : CardId) (index : Nat) (old : Entry) (w : World) :
    (w.displaced d c index old).deckState d = w.deckState d := by
  have tight : w.Tighter (fun c' => c' = c) (w.displaced d c index old) := by
    refine Tighter.trans ?_ (tighter_forgetEntry old _)
    refine Tighter.trans ?_ (bindingsOnly_unbindCard old.card _).tighter
    refine (tighter_enterCard d c w).trans (tighter_onDeck d fun n c' mem => ?_)
    obtain ⟨entry, isEntry, rfl⟩ := List.mem_map.1 mem
    rcases List.mem_or_eq_of_mem_set isEntry with kept | rfl
    · exact .inl (List.mem_map_of_mem kept)
    · exact .inr rfl
  exact deckState_congr (by rw [displaced_deck]) tight.names tight.held

/-- A card stands in a deck in place of another one. -/
lemma works_replaceCard {c : CardId} {old : Entry} (enters : touched c) (leaves : touched old.card)
    (bindable : w.Bindable c) (index : Nat) :
    Works d touched w (w.replaceCard d c index old).1 := by
  have first : Works d touched w (w.displaced d c index old) := works_displaced leaves index
  rw [replaceCard_eq]
  exact first.trans (works_bindWhere enters ((first.bindable_iff c).2 bindable))

lemma replaceCard_deck (d : DeckId) (c : CardId) (index : Nat) (old : Entry) (w : World) :
    ((w.replaceCard d c index old).1.deck d).cards = (w.deck d).cards.set index c ∧
      ((w.replaceCard d c index old).1.deck d).binding = (w.deck d).binding := by
  rw [replaceCard_eq, deck_of_decks (bindWhere_decks d c _), displaced_deck]
  exact ⟨List.map_set, rfl⟩

/-- **The card that takes a place in a bound deck is bound where it is**, the card that stood there
is released, and others are where they were. -/
theorem boundTo_card_replaceCard {c : CardId} (bindable : w.Bindable c) {s : StateId}
    (state : w.deckState d = .ok s) (index : Nat) (old : Entry) (other : CardId) :
    (w.replaceCard d c index old).1.boundTo (.card other) =
      if c = other then some s else if old.card = other then none else w.boundTo (.card other) := by
  have first : Works d (fun _ => True) w (w.displaced d c index old) :=
    works_displaced trivial index
  have state := (deckState_displaced d c index old w).trans state
  rw [replaceCard_eq, boundTo_card_bindWhere ((first.bindable_iff c).2 bindable) state, displaced,
    boundTo_card_forgetEntry, boundTo_card_unbindCard]
  congr 2
  exact boundTo_card_enterCard d c other w

end

end StoryEngine.World
