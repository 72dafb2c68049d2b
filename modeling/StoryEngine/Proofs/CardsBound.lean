import StoryEngine.Proofs.Conserved.Accounted
import StoryEngine.Proofs.DeckBindings

/-!
# Cards that are bound where their deck is

A deck binds what enters it and releases what leaves it.  So where every card stands in one deck
only and is left to it, the cards of a deck are bound where the deck is, or to nothing at all.  They
may be bound to nothing because of one operation: to update a card releases the card that is
displaced, though it may stand in the deck in a further place.

* `Rule.cardsBound` — the rule about cards that stand in a deck.
* **`World.CardsBound`** — cards are bound where their deck is.
* `World.LeavesBe` — work that is no concern of some decks, nor of some cards.
* `World.SameBindings` — work that is no concern of any deck.
* `World.CardsBound.works`, `World.CardsBound.replaceCards` and their like — work on one deck.
* **`World.bound_replaceCard_iff`** — when updating a card leaves all cards bound.
-/

namespace StoryEngine

open World

/-! ## The rule -/

namespace World

variable {w v : World}

/-- **A card that stands in no other deck** that is alive. -/
def Apart (w : World) (d : DeckId) (c : CardId) : Prop :=
  ∀ d', w.Alive (.deck d') → c ∈ (w.deck d').cards → d' = d

/-- Whether the card that would make way for another one in a deck stands there once, unless it is
the same card. -/
def MakesWay (w : World) (d : DeckId) (c : CardId) : Prop :=
  ∀ index old, w.placeOf? d (w.card c).hash = some (index, old) →
    old.card = c ∨ (w.deck d).cards.count old.card = 1

lemma Apart.hold {d : DeckId} {c : CardId} {hs : List Handle} (rooted : ∀ h ∈ hs, w.isRooted h)
    (apart : w.Apart d c) : (w.hold hs).Apart d c := by
  intro d' alive mem
  exact apart d' ((alive_hold fun x mem => .root (rooted x mem)).1 alive) mem

/-- What nobody alive owns is nobody's. -/
lemma Ownerless.independent {n : NodeId} (free : w.Ownerless n) : w.Independent n := by
  cases n with
  | expr e => exact free
  | set q => exact free
  | card => trivial
  | deck => trivial

end World

/-- **The rule about cards that stand in a deck**: what has an owner is bound, released and disposed
of through its owner only, and a card that enters a deck can be bound and stands in no other deck.
It may be asked besides that a card which would make way for it stands there `once`. -/
def Rule.cardsBound (once : Prop) : Rule where
  direct w n := w.Ownerless n
  clears := Rule.owned.clears
  enters w d c := w.Bindable c ∧ w.Apart d c ∧ (once → w.MakesWay d c)
  deck _ _ := trivial
  direct_hold rooted h := ownerless_hold rooted h
  clears_hold := Rule.owned.clears_hold
  enters_hold rooted h := ⟨h.1, h.2.1.hold rooted, h.2.2⟩

namespace World

variable {once : Prop} {w v : World}

/-! ## The invariant -/

/-- **The cards of a deck are bound where the deck is**: they can be bound, stand in no other deck,
and are bound to the state that the deck is bound to.  Unless cards that make way stand there
`once`, they may be bound to nothing as well. -/
structure DeckCardsBound (once : Prop) (w : World) (d : DeckId) : Prop where
  usable : ∀ c ∈ (w.deck d).cards, w.Bindable c
  apart : ∀ c ∈ (w.deck d).cards, w.Apart d c
  /-- A deck is not bound to a state that does not exist yet. -/
  watched : ∀ s, w.boundTo (.deck d) = some s → 0 < (w.store s).listeners.next
  bound : ∀ s, w.boundTo (.deck d) = some s → w.stateAlive s → ∀ c ∈ (w.deck d).cards,
    w.boundTo (.card c) = some s ∨ ¬ once ∧ w.boundTo (.card c) = none

/-- **Cards are bound where their deck is**, in all decks that are alive. -/
def CardsBound (once : Prop) (w : World) : Prop :=
  ∀ d, w.Alive (.deck d) → w.DeckCardsBound once d

lemma CardsBound.empty : World.empty.CardsBound once := by
  intro d alive
  cases alive with
  | root rooted => cases rooted

/-! ## Work that is no concern of a card or a deck -/

/-- **A card is bound where it was**, and can be bound if it could. -/
structure SameBinding (c : CardId) (w v : World) : Prop where
  bound : v.boundTo (.card c) = w.boundTo (.card c)
  bindable : w.Bindable c → v.Bindable c

lemma SameBinding.refl (c : CardId) (w : World) : SameBinding c w w := ⟨rfl, id⟩

lemma SameBinding.trans {c : CardId} {u : World} (h : SameBinding c w v) (h' : SameBinding c v u) :
    SameBinding c w u :=
  ⟨h'.bound.trans h.bound, h'.bindable ∘ h.bindable⟩

/-- A card can be bound as before where nothing happens to it and its quality set. -/
lemma sameBinding_of_same {c : CardId} (bound : v.boundTo (.card c) = w.boundTo (.card c))
    (card : (v.card c).disposed = (w.card c).disposed)
    (qualities : (v.card c).qualities = (w.card c).qualities)
    (set : (v.set (w.card c).qualities).disposed = (w.set (w.card c).qualities).disposed) :
    SameBinding c w v := by
  refine ⟨bound, fun bindable => ?_⟩
  rw [Bindable, card, qualities, set]
  exact bindable

/-- **Decks that are not worked on are left be**, and so are some cards: no card enters such a deck,
and all these are bound where they were. -/
structure LeavesBe (worked : DeckId → Prop) (among : CardId → Prop) (w v : World) : Prop where
  deckCards : ∀ d, ¬ worked d → ∀ c ∈ (v.deck d).cards, c ∈ (w.deck d).cards
  deckBound : ∀ d, ¬ worked d → v.boundTo (.deck d) = w.boundTo (.deck d)
  card : ∀ c, among c → SameBinding c w v

lemma LeavesBe.trans {worked : DeckId → Prop} {among : CardId → Prop} {u : World}
    (h : w.LeavesBe worked among v) (h' : v.LeavesBe worked among u) :
    w.LeavesBe worked among u :=
  ⟨fun d free c mem => h.deckCards d free c (h'.deckCards d free c mem),
    fun d free => (h'.deckBound d free).trans (h.deckBound d free),
    fun c mem => (h.card c mem).trans (h'.card c mem)⟩

/-- A card that stands in no deck but the one worked on still does so. -/
lemma LeavesBe.apart {d : DeckId} {among : CardId → Prop} (leaves : w.LeavesBe (· = d) among v)
    (decks : ∀ d', v.Alive (.deck d') → w.Alive (.deck d') ∨ d' = d) {c : CardId}
    (apart : w.Apart d c) : v.Apart d c := by
  intro d' alive mem
  by_contra other
  exact other (apart d' ((decks d' alive).resolve_right other) (leaves.deckCards d' other c mem))

/-- **Decks that are left be stay as they should be**; the others have to be seen to. -/
lemma CardsBound.left (h : w.CardsBound once) (worked : DeckId → Prop) (among : CardId → Prop)
    (later : w.Later v) (decks : ∀ d, v.Alive (.deck d) → w.Alive (.deck d) ∨ worked d)
    (states : ∀ s, v.stateAlive s → w.stateAlive s ∨ (w.store s).listeners.next = 0)
    (leaves : w.LeavesBe worked among v)
    (all : ∀ d, ¬ worked d → w.Alive (.deck d) → ∀ c ∈ (w.deck d).cards, among c)
    (its : ∀ d, worked d → v.Alive (.deck d) → v.DeckCardsBound once d) : v.CardsBound once := by
  intro d alive
  by_cases worksOn : worked d
  · exact its d worksOn alive
  have was := (decks d alive).resolve_right worksOn
  have deckCardsBound := h d was
  have fewer := leaves.deckCards d worksOn
  have same := fun c mem => leaves.card c (all d worksOn was c mem)
  refine ⟨fun c mem => ?_, fun c mem d' alive' mem' => ?_, fun s bound => ?_,
    fun s bound stateAlive c mem => ?_⟩
  · exact (same c (fewer c mem)).bindable (deckCardsBound.usable c (fewer c mem))
  · by_cases worksOn' : worked d'
    · exact ((its d' worksOn' alive').apart c mem' d alive mem).symm
    · exact deckCardsBound.apart c (fewer c mem) d' ((decks d' alive').resolve_right worksOn')
        (leaves.deckCards d' worksOn' c mem')
  · rw [leaves.deckBound d worksOn] at bound
    exact Nat.lt_of_lt_of_le (deckCardsBound.watched s bound) (later.store s).next
  · rw [leaves.deckBound d worksOn] at bound
    have stateAlive := (states s stateAlive).resolve_right (deckCardsBound.watched s bound).ne'
    rw [(same c (fewer c mem)).bound]
    exact deckCardsBound.bound s bound stateAlive c (fewer c mem)

/-- Work that concerns no deck, and keeps alive what is alive. -/
lemma CardsBound.rooted (h : w.CardsBound once) (among : CardId → Prop) (later : w.Later v)
    (roots : ∀ x, v.isRooted x = w.isRooted x) (leaves : w.LeavesBe (fun _ => False) among v)
    (all : ∀ d, w.Alive (.deck d) → ∀ c ∈ (w.deck d).cards, among c) : v.CardsBound once := by
  refine h.left (fun _ => False) among later (fun d alive => ?_) (fun s alive => ?_) leaves
    (fun d _ => all d) fun _ => False.elim
  · rw [← deckAlive_iff, deckAlive, roots] at alive
    exact .inl (deckAlive_iff.1 alive)
  · rw [stateAlive, roots, roots] at alive
    exact .inl alive

lemma CardsBound.steady (h : w.CardsBound once) (among : CardId → Prop) (steady : w.Steady v)
    (leaves : w.LeavesBe (fun _ => False) among v)
    (all : ∀ d, w.Alive (.deck d) → ∀ c ∈ (w.deck d).cards, among c) : v.CardsBound once :=
  h.rooted among steady.toLater steady.isRooted_eq leaves all

/-! ## Work that concerns no deck -/

/-- **All cards are used and bound as they were**, and all decks, and no card enters a deck. -/
structure SameBindings (w v : World) : Prop extends SameUse w v where
  bound : ∀ c, v.boundTo (.card c) = w.boundTo (.card c)
  deckCards : ∀ d, ∀ c ∈ (v.deck d).cards, c ∈ (w.deck d).cards
  deckBound : ∀ d, v.boundTo (.deck d) = w.boundTo (.deck d)

lemma SameBindings.refl (w : World) : w.SameBindings w :=
  ⟨.refl w, fun _ => rfl, fun _ _ => id, fun _ => rfl⟩

lemma SameBindings.trans {u : World} (h : w.SameBindings v) (h' : v.SameBindings u) :
    w.SameBindings u :=
  ⟨h.toSameUse.trans h'.toSameUse, fun c => (h'.bound c).trans (h.bound c),
    fun d c mem => h.deckCards d c (h'.deckCards d c mem),
    fun d => (h'.deckBound d).trans (h.deckBound d)⟩

lemma SameBindings.foldl {β : Type} {step : World → β → World}
    (h : ∀ (w : World) b, w.SameBindings (step w b)) (bs : List β) (w : World) :
    w.SameBindings (bs.foldl step w) := by
  induction bs generalizing w with
  | nil => exact .refl w
  | cons b bs ih => exact (h w b).trans (ih _)

lemma SameBindings.leavesBe {worked : DeckId → Prop} {among : CardId → Prop}
    (h : w.SameBindings v) :
    w.LeavesBe worked among v :=
  ⟨fun d _ => h.deckCards d, fun d _ => h.deckBound d,
    fun c _ => ⟨h.bound c, (h.bindable_iff c).2⟩⟩

lemma CardsBound.sameBindings (h : w.CardsBound once) (steady : w.Steady v)
    (same : w.SameBindings v) :
    v.CardsBound once :=
  h.steady (fun _ => True) steady same.leavesBe fun _ _ _ _ => trivial

lemma SameCards.sameBindings (same : w.SameCards v)
    (sets : ∀ q, (v.set q).disposed = (w.set q).disposed) : w.SameBindings v := by
  refine ⟨⟨fun c => by rw [same.card_eq], fun c => by rw [same.card_eq], sets⟩,
    boundTo_card_of_cards same.cards, fun d c mem => ?_, boundTo_deck_of_decks same.decks⟩
  rwa [deck_of_decks same.decks] at mem

lemma SameSets.sameBindings (same : w.SameSets v) : w.SameBindings v :=
  same.sameCards.sameBindings fun q => by rw [same.set_eq]

lemma sameBindings_onSet (q : SetId) (w : World) {f : SetNode → SetNode}
    (disposed : ∀ n, (f n).disposed = n.disposed) : w.SameBindings (w.onSet q f) := by
  refine (sameCards_onSet q f w).sameBindings fun other => ?_
  rw [set_onSet]
  split
  · exact disposed _
  · rfl

lemma sameBindings_subscribeSet (q : SetId) (c : CardId) (w : World) :
    w.SameBindings (w.subscribeSet q c).1 :=
  sameBindings_onSet q w (f := fun n => { n with listeners := n.listeners.subscribe (.owner c) })
    fun _ => rfl

lemma sameBindings_onCard (c : CardId) (w : World) {f : CardNode → CardNode}
    (binding : ∀ n, (f n).binding = n.binding) (disposed : ∀ n, (f n).disposed = n.disposed)
    (qualities : ∀ n, (f n).qualities = n.qualities) : w.SameBindings (w.onCard c f) :=
  ⟨sameUse_onCard c w disposed qualities, fun other => boundTo_card_onCard c other w binding,
    fun _ _ => id, fun _ => rfl⟩

lemma sameBindings_onDeck (d : DeckId) (w : World) {f : DeckNode → DeckNode}
    (cards : ∀ n, ∀ c ∈ (f n).cards, c ∈ n.cards) (binding : ∀ n, (f n).binding = n.binding) :
    w.SameBindings (w.onDeck d f) := by
  refine ⟨sameUse_of_same rfl rfl, fun _ => rfl, fun other c mem => ?_, fun other => ?_⟩
  · rw [deck_onDeck] at mem
    split at mem
    · exact cards _ c mem
    · exact mem
  · rw [boundTo_deck_onDeck]
    split
    · next here =>
        rw [binding, ← here]
        rfl
    · rfl

lemma CachesOnly.sameBindings (only : w.CachesOnly v) : w.SameBindings v :=
  SameCards.sameBindings ⟨only.cards, only.decks, only.names, only.held⟩ fun q => by rw [only.set q]

/-- To read a node is no concern of any deck. -/
lemma CardsBound.cachesOnly (h : w.CardsBound once) (onward : w.Onward v) (only : w.CachesOnly v) :
    v.CardsBound once :=
  h.sameBindings onward.toSteady only.sameBindings

lemma sameSets_amend (s : StateId) (contents : Contents) (w : World) :
    w.SameSets (w.amend s contents) := by
  rw [amend]
  split <;> exact ⟨rfl, rfl, rfl, rfl, rfl⟩

lemma sameBindings_amend (s : StateId) (contents : Contents) (w : World) :
    w.SameBindings (w.amend s contents) :=
  (sameSets_amend s contents w).sameBindings

lemma sameSets_shut (s : StateId) (w : World) : w.SameSets (w.shut s) := by
  rw [shut]
  split <;> exact ⟨rfl, rfl, rfl, rfl, rfl⟩

lemma sameBindings_shut (s : StateId) (w : World) : w.SameBindings (w.shut s) :=
  (sameSets_shut s w).sameBindings

lemma sameBindings_subscribeTo (em : Emitter) (l : ListenerId) (w : World) :
    w.SameBindings (w.subscribeTo em l).1 := by
  cases em with
  | state s => exact (sameSets_onStore s _ w).sameBindings
  | expr e => exact (sameSets_onExpr e _ w).sameBindings
  | set q => exact sameBindings_onSet q w fun _ => rfl
  | card c => exact sameBindings_onCard c w (fun _ => rfl) (fun _ => rfl) fun _ => rfl
  | deck d => exact sameBindings_onDeck d w (fun _ _ => id) fun _ => rfl
  | board b => exact SameSets.sameBindings ⟨rfl, rfl, rfl, rfl, rfl⟩

lemma sameBindings_unsubscribeFrom (em : Emitter) (number : Nat) (w : World) :
    w.SameBindings (w.unsubscribeFrom em number) := by
  cases em with
  | state s => exact (sameSets_onStore s _ w).sameBindings
  | expr e => exact (sameSets_onExpr e _ w).sameBindings
  | set q => exact sameBindings_onSet q w fun _ => rfl
  | card c => exact sameBindings_onCard c w (fun _ => rfl) (fun _ => rfl) fun _ => rfl
  | deck d => exact sameBindings_onDeck d w (fun _ _ => id) fun _ => rfl
  | board b => exact SameSets.sameBindings ⟨rfl, rfl, rfl, rfl, rfl⟩

lemma sameBindings_clearListeners (em : Emitter) (w : World) :
    w.SameBindings (w.clearListeners em) := by
  cases em with
  | state s => exact (sameSets_onStore s _ w).sameBindings
  | expr e => exact (sameSets_onExpr e _ w).sameBindings
  | set q => exact sameBindings_onSet q w fun _ => rfl
  | card c => exact sameBindings_onCard c w (fun _ => rfl) (fun _ => rfl) fun _ => rfl
  | deck d => exact sameBindings_onDeck d w (fun _ _ => id) fun _ => rfl
  | board b => exact SameSets.sameBindings ⟨rfl, rfl, rfl, rfl, rfl⟩

lemma sameBindings_insertQuality (q : SetId) (cond : String) (w : World) :
    w.SameBindings (w.insertQuality q cond).1 := by
  by_cases has : w.hasQuality q cond
  · rw [insertQuality_of_has has]
    exact .refl w
  · rw [insertQuality_of_lacks (by simpa using has)]
    refine SameBindings.trans ?_ (sameBindings_onSet q _ fun _ => rfl)
    exact ((sameSets_newExpr cond _ w).trans (sameSets_onExpr _ _ _)).sameBindings

lemma sameBindings_newSet (conds : List String) (state : Option StateId) (w : World) :
    w.SameBindings (w.newSet conds state).1 := by
  have added : w.SameBindings { w with sets := w.sets.add .new } :=
    SameCards.sameBindings ⟨rfl, rfl, rfl, rfl⟩ fun q => by rw [set_addSet w q]
  refine SameBindings.trans ?_
    (SameBindings.foldl (fun w cond => sameBindings_insertQuality ⟨_⟩ cond w) conds _)
  cases state with
  | none => exact added
  | some s =>
      refine added.trans ((sameCards_attachSet _ s _).sameBindings ?_)
      exact (bindingsOnly_attachSet _ s _).sameUse.set

lemma sameBindings_dropMember (q : SetId) (m : Member) (w : World) :
    w.SameBindings (w.dropMember q m) := by
  refine SameBindings.trans ?_ (cachesOnly_invalidateSet q _).sameBindings
  refine SameBindings.trans ?_ (sameSets_forgetMember m _).sameBindings
  refine SameBindings.trans ?_ (sameSets_disposeExpr m.expr _).sameBindings
  exact sameBindings_onSet q w fun _ => rfl

lemma sameBindings_rewriteExpr (e : ExprId) (cond : String) (w : World) :
    w.SameBindings (w.rewriteExpr e cond) :=
  (sameSets_onExpr e _ w).sameBindings.trans (cachesOnly_invalidateExpr e _).sameBindings

lemma sameBindings_reorder (d : DeckId) (w : World) : w.SameBindings (w.reorder d) := by
  refine sameBindings_onDeck d w (fun n c mem => ?_) fun _ => rfl
  obtain ⟨entry, isEntry, rfl⟩ := List.mem_map.1 mem
  exact List.mem_map_of_mem ((Random.shuffle_perm n.entries n.generator).subset isEntry)

/-! ## Names, holds and new objects -/

/-- Names and holds that keep alive no other deck, and no state that a deck is bound to. -/
lemma CardsBound.rerooted (h : w.CardsBound once) {names : List (String × Object)}
    {held : List Handle}
    (decks : ∀ d, (w.withRoots names held).isRooted (.deck d) → w.Alive (.deck d))
    (states : ∀ s, (w.withRoots names held).stateAlive s →
      w.stateAlive s ∨ (w.store s).listeners.next = 0) :
        (w.withRoots names held).CardsBound once := by
  have same : w.SameBindings (w.withRoots names held) :=
    ⟨sameUse_of_same rfl rfl, fun _ => rfl, fun _ _ => id, fun _ => rfl⟩
  exact h.left (fun _ => False) (fun _ => True) (later_withRoots w names held)
    (fun d alive => .inl (decks d (deckAlive_iff.2 alive))) states same.leavesBe
    (fun _ _ _ _ _ => trivial) fun _ => False.elim

lemma CardsBound.granted (h : w.CardsBound once) {batches : List StateId}
    {names : List (String × Object)} {held : List Handle} (granted : w.Granted batches names held) :
    (w.withRoots names held).CardsBound once := by
  refine h.rerooted (fun d => granted.root) fun s alive => .inl ?_
  rw [stateAlive_iff]
  rcases Bool.or_eq_true_iff.1 alive with root | root
  · exact granted.root root
  · exact .state (granted.root root)

/-- To hold on to something that is no deck, and no state that a deck is bound to. -/
lemma CardsBound.hold (h : w.CardsBound once) {x : Handle} (noDeck : ∀ d, x ≠ .deck d)
    (states : ∀ s, x = .state s ∨ x = .batch s → w.stateAlive s ∨ (w.store s).listeners.next = 0) :
    (w.hold [x]).CardsBound once := by
  have rooted : ∀ {y}, (w.hold [x]).isRooted y → y = x ∨ w.isRooted y := fun root =>
    (isRooted_hold.1 root).imp_left List.mem_singleton.1
  refine h.rerooted (fun d root => ?_) fun s alive => ?_
  · rcases rooted root with here | was
    · exact absurd here.symm (noDeck d)
    · exact .root was
  · rcases Bool.or_eq_true_iff.1 alive with root | root
    · rcases rooted root with here | was
      · exact states s (.inl here.symm)
      · exact .inl (Bool.or_eq_true_iff.2 (.inl was))
    · rcases rooted root with here | was
      · exact states s (.inr here.symm)
      · exact .inl (Bool.or_eq_true_iff.2 (.inr was))

/-- To hold on to a node or a board makes no difference. -/
lemma CardsBound.holdNode (h : w.CardsBound once) {x : Handle} (noDeck : ∀ d, x ≠ .deck d)
    (noState : ∀ s, x ≠ .state s) (noBatch : ∀ s, x ≠ .batch s) : (w.hold [x]).CardsBound once :=
  h.hold noDeck fun s eq => eq.elim (fun eq => (noState s eq).elim) fun eq => (noBatch s eq).elim

/-! ## Sets and cards that are no concern of a deck -/

/-- Cards that stand in a deck, and the cards of others, have different quality sets. -/
lemma qualities_ne (owned : w.Owned w.Alive) {c other : CardId} (alive : w.Alive (.card c))
    (otherAlive : w.Alive (.card other)) (ne : c ≠ other) :
    (w.card c).qualities ≠ (w.card other).qualities :=
  fun same => ne (owned.oneCard alive otherAlive same)

lemma disposeSet_set (q other : SetId) (w : World) (ne : q ≠ other) :
    ((w.disposeSet q).set other).disposed = (w.set other).disposed := by
  rw [disposeSet_eq, set_onSet, if_neg ne, (sameSets_letGo _ _).set_eq, set_onSet, if_neg ne,
    (bindingsOnly_unbindSet q w).set other]

/-- A quality set is disposed of that is none of a card. -/
lemma sameBinding_disposeSet {q : SetId} {c : CardId} (ne : q ≠ (w.card c).qualities) :
    SameBinding c w (w.disposeSet q) := by
  have same := sameCards_disposeSet q w
  exact sameBinding_of_same (boundTo_card_of_cards same.cards c) (by rw [same.card_eq])
    (by rw [same.card_eq]) (disposeSet_set q _ w ne)

lemma sameBinding_unbindCard {c other : CardId} (ne : c ≠ other) :
    SameBinding other w (w.unbindCard c) :=
  ⟨by rw [boundTo_card_unbindCard, if_neg ne],
    ((bindingsOnly_unbindCard c w).bindable_iff other).2⟩

lemma sameBinding_onCard {c other : CardId} (ne : c ≠ other) (f : CardNode → CardNode) (w : World) :
    SameBinding other w (w.onCard c f) := by
  have same : (w.onCard c f).card other = w.card other := (card_onCard _ _ _ _).trans (if_neg ne)
  exact sameBinding_of_same (by rw [boundTo, boundTo, same]) (by rw [same]) (by rw [same]) rfl

/-- Another card is disposed of, which has another quality set. -/
lemma sameBinding_disposeCard {c other : CardId} (ne : c ≠ other)
    (apart : (w.card c).qualities ≠ (w.card other).qualities) :
    SameBinding other w (w.disposeCard c) := by
  have only := bindingsOnly_unbindCard c w
  have disposed : SameBinding other (w.unbindCard c)
      ((w.unbindCard c).disposeSet ((w.unbindCard c).card c).qualities) := by
    refine sameBinding_disposeSet ?_
    rw [only.qualities_eq, only.qualities_eq]
    exact apart
  rw [disposeCard]
  exact ((sameBinding_unbindCard ne).trans disposed).trans (sameBinding_onCard ne _ _)

/-- Other cards are disposed of, which have other quality sets. -/
lemma sameBinding_disposeCards {cards : List CardId} {other : CardId} (ne : ∀ c ∈ cards, c ≠ other)
    (apart : ∀ c ∈ cards, (w.card c).qualities ≠ (w.card other).qualities) :
    SameBinding other w (cards.foldl (fun w c => w.disposeCard c) w) := by
  induction cards generalizing w with
  | nil => exact .refl other w
  | cons c rest ih =>
      have tight : w.Tighter (fun _ => False) (w.disposeCard c) := tighter_disposeCard c w
      have first := sameBinding_disposeCard (ne c List.mem_cons_self) (apart c List.mem_cons_self)
      rw [List.foldl_cons]
      refine first.trans (ih (fun c' mem => ne c' (List.mem_cons_of_mem _ mem)) fun c' mem => ?_)
      rw [tight.qualities, tight.qualities]
      exact apart c' (List.mem_cons_of_mem _ mem)

/-- Another card is attached, or refuses. -/
lemma sameBinding_attachCard {c other : CardId} (s : StateId) (ne : c ≠ other) :
    SameBinding other w (w.attachCard c s) := by
  refine ⟨?_, ((bindingsOnly_attachCard c s w).bindable_iff other).2⟩
  have same := sameCards_bindSet ((w.unbindCard c).card c).qualities s (w.unbindCard c)
  have released := (sameBinding_unbindCard (w := w) ne).bound
  rw [attachCard]
  rcases done : (w.unbindCard c).bindSet ((w.unbindCard c).card c).qualities s with ⟨v, fault | _⟩
  all_goals rw [done] at same
  · exact (boundTo_card_of_cards same.cards other).trans released
  · rw [boundTo_note, boundTo, card_onCard, if_neg ne]
    exact (boundTo_card_of_cards same.cards other).trans released

lemma sameBinding_bindCard {c other : CardId} (s : StateId) (ne : c ≠ other) :
    SameBinding other w (w.bindCard c s).1 := by
  rw [bindCard]
  split
  · exact .refl other w
  · dsimp only
    exact sameBinding_attachCard s ne

section
variable {worked : DeckId → Prop} {among : CardId → Prop}

/-- Where decks stay as they are, some cards have to be seen to. -/
lemma leavesBe_of_decks (decks : v.decks = w.decks) (card : ∀ c, among c → SameBinding c w v) :
    w.LeavesBe worked among v :=
  ⟨fun d _ _ mem => deck_of_decks decks d ▸ mem, fun d _ => boundTo_deck_of_decks decks d, card⟩

/-- **A new card** is no concern of the cards there are. -/
lemma leavesBe_newCard (hash : CardHash) (content : String) (conds : List String)
    (state : Option StateId) (w : World) :
    w.LeavesBe worked (·.place < w.cards.size) (w.newCard hash content conds state).1 := by
  have listening :
    w.SameBindings ((w.newSet conds none).1.subscribeSet ⟨w.sets.size⟩ ⟨w.cards.size⟩).1 :=
    (sameBindings_newSet conds none w).trans (sameBindings_subscribeSet _ _ _)
  have added : ((w.newSet conds none).1.subscribeSet ⟨w.sets.size⟩ ⟨w.cards.size⟩).1.LeavesBe worked
      (·.place < w.cards.size) (w.bareCard hash content conds) := by
    refine leavesBe_of_decks rfl fun c old => ?_
    have same : (w.bareCard hash content conds).card c =
        ((w.newSet conds none).1.subscribeSet ⟨w.sets.size⟩ ⟨w.cards.size⟩).1.card c := by
      have cards : ((w.newSet conds none).1.subscribeSet ⟨w.sets.size⟩ ⟨w.cards.size⟩).1.cards =
          w.cards := newSet_cards conds w
      rw [bareCard, card, card, Table.get_add, if_neg (Nat.ne_of_lt old), cards]
    exact sameBinding_of_same (by rw [boundTo, boundTo, same]) (by rw [same]) (by rw [same]) rfl
  refine LeavesBe.trans (listening.leavesBe.trans added) ?_
  rw [newCard_eq]
  cases state with
  | none => exact (SameBindings.refl _).leavesBe
  | some s =>
      refine leavesBe_of_decks (attachCard_decks _ s _) fun c old => sameBinding_attachCard s ?_
      exact fun here => absurd (congrArg CardId.place here) (Nat.ne_of_gt old)

lemma sameBindings_withNewSet (c : CardId) (conds : List String) (w : World) :
    w.SameBindings (w.withNewSet c conds) := by
  refine (sameBindings_newSet conds none w).trans ((sameCards_bindSetWhere c _ _).sameBindings ?_)
  exact (bindingsOnly_bindSetWhere c _ _).sameUse.set

/-- **A card turns to a new quality set**, and the one that it had is disposed of.  This is no
concern of cards that have other sets, and the card can be bound with the new set. -/
lemma leavesBe_exchangeSet {c : CardId} {q : SetId} (usable : (w.set q).disposed = false)
    (new : (w.card c).qualities ≠ q)
    (apart : ∀ other, among other → c ≠ other → (w.card c).qualities ≠ (w.card other).qualities) :
    w.LeavesBe worked among (w.exchangeSet c q) := by
  have turned : ∀ other, among other → SameBinding other w (w.turnTo c q) ∧
      (w.card c).qualities ≠ ((w.turnTo c q).card other).qualities := by
    intro other mem
    by_cases here : c = other
    · subst here
      refine ⟨⟨?_, fun bindable => ?_⟩, ?_⟩
      · rw [boundTo, boundTo, card_turnTo, if_pos rfl]
      · rw [Bindable, card_turnTo, if_pos rfl]
        exact ⟨bindable.1, ((sameBindings_subscribeSet q c w).set q).trans usable⟩
      · rw [card_turnTo, if_pos rfl]
        exact new
    · have listened := sameBindings_subscribeSet q c w
      refine ⟨SameBinding.trans ⟨listened.bound other, (listened.bindable_iff other).2⟩
        (sameBinding_onCard here _ _), ?_⟩
      rw [card_turnTo, if_neg here]
      exact apart other mem here
  rw [exchangeSet_eq]
  refine LeavesBe.trans (v := (w.turnTo c q).disposeSet (w.card c).qualities) ?_
    (SameBindings.leavesBe ?_)
  · refine leavesBe_of_decks (sameCards_disposeSet _ _).decks fun other mem => ?_
    exact (turned other mem).1.trans (sameBinding_disposeSet (turned other mem).2)
  · exact sameBindings_onSet _ _ fun _ => rfl

lemma leavesBe_replaceQualities {c : CardId} (conds : List String)
    (exist : (w.card c).qualities.place < w.sets.size)
    (apart : ∀ other, among other → c ≠ other → (w.card c).qualities ≠ (w.card other).qualities) :
    w.LeavesBe worked among (w.replaceQualities c conds).1 := by
  have made := sameBindings_withNewSet c conds w
  rw [replaceQualities_eq]
  refine made.leavesBe.trans (leavesBe_exchangeSet ?_ ?_ fun other mem ne => ?_)
  · refine (made.set _).trans ?_
    rw [set, Table.get_of_size_le (Nat.le_refl _)]
    rfl
  · rw [made.qualities]
    exact fun here => absurd (congrArg SetId.place here) (Nat.ne_of_lt exist)
  · rw [made.qualities, made.qualities]
    exact apart other mem ne

/-! ## Work on one deck -/

/-- Work on one deck is no concern of cards that are not touched. -/
lemma Works.leavesBe {d : DeckId} {touched : CardId → Prop} (h : Works d touched w v)
    (free : ∀ c, among c → ¬ touched c) : w.LeavesBe (· = d) among v where
  deckCards d' ne c mem := h.others d' ne ▸ mem
  deckBound d' ne := by rw [boundTo, boundTo, h.others d' ne]
  card c mem := ⟨h.apart c (free c mem), (h.bindable_iff c).2⟩

/-- A deck gives up its cards, and they are disposed of. -/
def disband (d : DeckId) (w : World) : World :=
  (w.deck d).cards.foldl (fun w c => w.disposeCard c) (w.onDeck d fun n => { n with entries := [] })

lemma disposeDeck_eq (d : DeckId) (w : World) :
    w.disposeDeck d =
      ((((w.unbindDeck d).deck d).entries.foldl (fun w entry => w.forgetEntry entry)
        ((w.unbindDeck d).disband d)).onDeck d fun n =>
          { n with listeners := n.listeners.clear, disposed := true }).note .deckDisposed := by
  rw [disband, DeckNode.cards, List.foldl_map]
  rfl

lemma disband_decks (d : DeckId) (w : World) :
    (w.disband d).decks = (w.onDeck d fun n => { n with entries := [] }).decks :=
  foldl_decks (fun w c => disposeCard_decks c w) _ _

/-- A deck that has been disposed of has no cards. -/
lemma disposeDeck_deck (d : DeckId) (w : World) :
    ((w.disposeDeck d).deck d).cards = [] ∧ (w.disposeDeck d).boundTo (.deck d) = none := by
  have decks := (foldl_decks forgetEntry_decks ((w.unbindDeck d).deck d).entries
    ((w.unbindDeck d).disband d)).trans (disband_decks d (w.unbindDeck d))
  have emptied := deck_of_decks decks d
  rw [deck_onDeck, if_pos rfl] at emptied
  have unbound := boundTo_deck_unbindDeck d d w
  rw [if_pos rfl] at unbound
  rw [disposeDeck_eq, deck_note, boundTo_note, deck_onDeck, boundTo_deck_onDeck, if_pos rfl,
    if_pos rfl, emptied]
  exact ⟨rfl, unbound⟩

/-- To give up its cards is no concern of cards that a deck does not have, if they have other
quality sets. -/
lemma leavesBe_disband {d : DeckId} (others : ∀ c, among c → c ∉ (w.deck d).cards)
    (apart : ∀ other, among other → ∀ c ∈ (w.deck d).cards,
      (w.card c).qualities ≠ (w.card other).qualities) :
    w.LeavesBe (· = d) among (w.disband d) := by
  have emptied : w.LeavesBe (· = d) among (w.onDeck d fun n => { n with entries := [] }) :=
    (works_onDeck d _ w : Works d (fun _ => False) w _).leavesBe fun _ _ => id
  refine emptied.trans (leavesBe_of_decks (foldl_decks (fun w c => disposeCard_decks c w) _ _)
    fun other mem => ?_)
  exact sameBinding_disposeCards (fun c isIn here => others other mem (here ▸ isIn))
    (apart other mem)

/-- **A deck is disposed of**, and its cards with it.  This is no concern of other cards, which have
other quality sets. -/
lemma leavesBe_disposeDeck {d : DeckId} (others : ∀ c, among c → c ∉ (w.deck d).cards)
    (apart : ∀ other, among other → ∀ c ∈ (w.deck d).cards,
      (w.card c).qualities ≠ (w.card other).qualities) :
    w.LeavesBe (· = d) among (w.disposeDeck d) := by
  have only := bindingsOnly_unbindDeck d w
  have released : w.LeavesBe (· = d) among (w.unbindDeck d) :=
    (works_unbindDeck fun _ => id).leavesBe others
  have gone : (w.unbindDeck d).LeavesBe (· = d) among ((w.unbindDeck d).disband d) := by
    refine leavesBe_disband (fun c mem => ?_) fun other mem c isIn => ?_
    · rw [only.deckCards_eq]
      exact others c mem
    · rw [only.deckCards_eq] at isIn
      rw [only.qualities_eq, only.qualities_eq]
      exact apart other mem c isIn
  have closed : Works d (fun _ => False) ((w.unbindDeck d).disband d) (w.disposeDeck d) := by
    rw [disposeDeck_eq]
    exact ((works_forgetEntries _ _).trans (works_onDeck d _ _)).trans (works_note _ _)
  exact (released.trans gone).trans (closed.leavesBe fun _ _ => id)

end

section
variable {d : DeckId}

/-- The cards of a deck that is alive stand in no other deck. -/
lemma CardsBound.touches (h : w.CardsBound once) (alive : w.Alive (.deck d)) :
    ∀ c ∈ (w.deck d).cards, w.Apart d c :=
  (h d alive).apart

/-- **Work on one deck** keeps the cards of others where they should be, and its own ones if they
have been seen to. -/
lemma CardsBound.works (h : w.CardsBound once) (onward : w.Onward v)
    (works : Works d (w.Apart d) w v) (cards : ∀ c ∈ (v.deck d).cards, w.Bindable c ∧ w.Apart d c)
    (watched : ∀ s, v.boundTo (.deck d) = some s → 0 < (v.store s).listeners.next)
    (bound : ∀ s, v.boundTo (.deck d) = some s → v.stateAlive s → ∀ c ∈ (v.deck d).cards,
      v.boundTo (.card c) = some s ∨ ¬ once ∧ v.boundTo (.card c) = none) : v.CardsBound once := by
  have leaves : w.LeavesBe (· = d) (fun c => ¬ w.Apart d c) v := works.leavesBe fun _ => id
  have decks : ∀ d', v.Alive (.deck d') → w.Alive (.deck d') ∨ d' = d := fun d' alive => by
    rw [← deckAlive_iff, deckAlive, onward.isRooted_eq] at alive
    exact .inl (deckAlive_iff.1 alive)
  refine h.left (· = d) _ onward.toLater decks (fun s alive => ?_) leaves
    (fun d' ne alive c mem apart => ?_) ?_
  · rw [stateAlive, onward.isRooted_eq, onward.isRooted_eq] at alive
    exact .inl alive
  · exact ne (apart d' alive mem)
  · rintro d' rfl alive
    exact ⟨fun c mem => (works.bindable_iff c).2 (cards c mem).1,
      fun c mem => leaves.apart decks (cards c mem).2, watched, bound⟩

/-- **A deck gets other cards**, which are bound where it is. -/
lemma CardsBound.restock (h : w.CardsBound once) (alive : w.Alive (.deck d)) (onward : w.Onward v)
    (works : Works d (w.Apart d) w v) (same : v.boundTo (.deck d) = w.boundTo (.deck d))
    (cards : ∀ c ∈ (v.deck d).cards, w.Bindable c ∧ w.Apart d c)
    (bound : ∀ s, w.deckState d = .ok s → ∀ c ∈ (v.deck d).cards,
      v.boundTo (.card c) = some s ∨ ¬ once ∧ v.boundTo (.card c) = none) : v.CardsBound once := by
  refine h.works onward works cards (fun s at_ => ?_) fun s at_ stateAlive => ?_
  · rw [same] at at_
    exact Nat.lt_of_lt_of_le ((h d alive).watched s at_) (onward.toLater.store s).next
  · rw [same] at at_
    rw [World.stateAlive, onward.isRooted_eq, onward.isRooted_eq] at stateAlive
    exact bound s (boundState_ok.2 ⟨at_, stateAlive⟩)

/-- The cards of a deck that is bound to a state which is alive. -/
lemma CardsBound.bound_of_deckState (h : w.CardsBound once) (alive : w.Alive (.deck d))
    {s : StateId} (state : w.deckState d = .ok s) : ∀ c ∈ (w.deck d).cards,
      w.boundTo (.card c) = some s ∨ ¬ once ∧ w.boundTo (.card c) = none := by
  obtain ⟨at_, stateAlive⟩ := boundState_ok.1 state
  exact (h d alive).bound s at_ stateAlive

lemma CardsBound.unbindDeck (h : w.CardsBound once) (alive : w.Alive (.deck d)) :
    (w.unbindDeck d).CardsBound once := by
  have unbound : (w.unbindDeck d).boundTo (.deck d) = none :=
    (boundTo_deck_unbindDeck d d w).trans (if_pos rfl)
  refine h.works (onward_unbindNode (.deck d) w) (works_unbindDeck (h.touches alive))
    (fun c mem => ?_) (fun s at_ => ?_) fun s at_ => ?_
  · rw [(bindingsOnly_unbindDeck d w).deckCards_eq] at mem
    exact ⟨(h d alive).usable c mem, h.touches alive c mem⟩
  · cases unbound.symm.trans at_
  · cases unbound.symm.trans at_

/-- A deck that is attached is among the listeners of the state. -/
lemma watched_attachDeck (d : DeckId) (s : StateId) (w : World) :
    0 < ((w.attachDeck d s).store s).listeners.next := by
  rw [attachDeck_eq, store_note, store_onDeck, subscribeState, store_onStore, if_pos rfl]
  exact Nat.succ_pos _

lemma CardsBound.attachDeck (h : w.CardsBound once) (alive : w.Alive (.deck d)) (s : StateId)
    (onward : w.Onward (w.attachDeck d s)) : (w.attachDeck d s).CardsBound once := by
  have deckCardsBound := h d alive
  have at_ : (w.attachDeck d s).boundTo (.deck d) = some s :=
    (boundTo_deck_attachDeck d d s w).trans (if_pos rfl)
  have itsCards : ((w.attachDeck d s).deck d).cards = (w.deck d).cards :=
    (bindingsOnly_attachDeck d s w).deckCards_eq d
  refine h.works onward (works_attachDeck deckCardsBound.apart deckCardsBound.usable s)
    (fun c mem => ?_) (fun s' at_' => ?_) fun s' at_' _ c mem => .inl ?_
  · rw [itsCards] at mem
    exact ⟨deckCardsBound.usable c mem, deckCardsBound.apart c mem⟩
  · obtain rfl := Option.some.inj (at_.symm.trans at_')
    exact watched_attachDeck d s w
  · rw [itsCards] at mem
    obtain rfl := Option.some.inj (at_.symm.trans at_')
    rw [boundTo_card_attachDeck deckCardsBound.usable, if_pos mem]

lemma CardsBound.replaceCards (h : w.CardsBound once) (alive : w.Alive (.deck d))
    {cards : List CardId}
    (enters : ∀ c ∈ cards, w.Bindable c ∧ w.Apart d c) :
    (w.replaceCards d cards).CardsBound once := by
  obtain ⟨itsCards, same⟩ := replaceCards_deck d cards w
  have bindable := fun c mem => (enters c mem).1
  refine h.restock alive (onward_replaceCards d cards w)
    (works_replaceCards (h.touches alive) (fun c mem => (enters c mem).2) bindable) ?_ ?_ ?_
  · rw [boundTo, same]
    rfl
  · rw [itsCards]
    exact enters
  · intro s state c mem
    rw [itsCards] at mem
    exact .inl (boundTo_card_replaceCards bindable state mem)

lemma CardsBound.insertCard (h : w.CardsBound once) (alive : w.Alive (.deck d)) {c : CardId}
    (bindable : w.Bindable c) (apart : w.Apart d c) : (w.insertCard d c).1.CardsBound once := by
  obtain ⟨itsCards, same⟩ := insertCard_deck (d := d) bindable.1
  refine h.restock alive (onward_insertCard d c w) (works_insertCard apart bindable) ?_ ?_ ?_
  · rw [boundTo, same]
    rfl
  · intro other mem
    rw [itsCards] at mem
    rcases List.mem_append.1 mem with was | new
    · exact ⟨(h d alive).usable other was, (h d alive).apart other was⟩
    · rw [List.mem_singleton.1 new]
      exact ⟨bindable, apart⟩
  · intro s state other mem
    rw [boundTo_card_insertCard bindable state]
    split
    · exact .inl rfl
    · next elsewhere =>
        rw [itsCards] at mem
        rcases List.mem_append.1 mem with was | new
        · exact h.bound_of_deckState alive state other was
        · exact absurd (List.mem_singleton.1 new).symm elsewhere

lemma CardsBound.takeCard (h : w.CardsBound once) (alive : w.Alive (.deck d)) {c : CardId}
    {gone kept : List Entry} (parts : (w.deck d).entries.partition (·.card == c) = (gone, kept))
    (taken : gone ≠ []) : (w.takeCard d c gone kept).CardsBound once := by
  rw [List.partition_eq_filter_filter] at parts
  obtain ⟨isGone, isKept⟩ := Prod.mk.inj parts
  have itsCards : ∀ other ∈ kept.map (·.card), other ∈ (w.deck d).cards ∧ other ≠ c := by
    intro other mem
    obtain ⟨entry, among, rfl⟩ := List.mem_map.1 mem
    rw [← isKept] at among
    obtain ⟨isEntry, other⟩ := List.mem_filter.1 among
    exact ⟨List.mem_map_of_mem isEntry, by simpa using other⟩
  have present : c ∈ (w.deck d).cards := by
    obtain ⟨entry, mem⟩ := List.exists_mem_of_ne_nil _ taken
    rw [← isGone] at mem
    obtain ⟨isEntry, here⟩ := List.mem_filter.1 mem
    exact eq_of_beq here ▸ List.mem_map_of_mem isEntry
  have deck := takeCard_deck d c gone kept w
  refine h.restock alive (onward_takeCard d c gone kept w)
    (works_takeCard (h.touches alive c present) gone kept) ?_ ?_ ?_
  · rw [boundTo, deck]
    rfl
  · rw [deck]
    exact fun other mem => ⟨(h d alive).usable other (itsCards other mem).1,
      (h d alive).apart other (itsCards other mem).1⟩
  · rw [deck]
    intro s state other mem
    rw [boundTo_card_takeCard, if_neg (itsCards other mem).2.symm]
    exact h.bound_of_deckState alive state other (itsCards other mem).1

/-- Whether a card that makes way for another one stands in the deck after that. -/
lemma displaced_mem_iff {hash : CardHash} {index : Nat} {old : Entry}
    (found : w.placeOf? d hash = some (index, old)) (c : CardId) :
    old.card ∈ (w.deck d).cards.set index c ↔
      c = old.card ∨ (w.deck d).cards.count old.card ≠ 1 := by
  have held : (w.deck d).cards[index]? = some old.card := by
    rw [placeOf?] at found
    obtain ⟨i, -, found⟩ := Option.bind_eq_some_iff.1 found
    obtain ⟨entry, there, eq⟩ := Option.map_eq_some_iff.1 found
    obtain ⟨rfl, rfl⟩ := Prod.mk.inj eq
    rw [DeckNode.cards, List.getElem?_map, there]
    rfl
  obtain ⟨inside, itself⟩ := List.getElem?_eq_some_iff.1 held
  have present : 0 < (w.deck d).cards.count old.card :=
    List.count_pos_iff.2 (itself ▸ List.getElem_mem inside)
  rw [← List.count_pos_iff, List.count_set inside, itself]
  by_cases same : c = old.card
  · simp [same]
  · simp only [beq_self_eq_true, if_true, beq_iff_eq, same, if_false, false_or]
    omega

lemma CardsBound.replaceCard (h : w.CardsBound once) (alive : w.Alive (.deck d)) {c : CardId}
    {index : Nat} {old : Entry} (bindable : w.Bindable c) (apart : w.Apart d c)
    (makesWay : once → w.MakesWay d c)
    (found : w.placeOf? d (w.card c).hash = some (index, old)) :
    (w.replaceCard d c index old).1.CardsBound once := by
  obtain ⟨itsCards, same⟩ := replaceCard_deck d c index old w
  have leaves := (h d alive).apart old.card (mem_of_placeOf? found)
  refine h.restock alive (onward_replaceCard d c index old w)
    (works_replaceCard apart leaves bindable index) ?_ ?_ ?_
  · rw [boundTo, same]
    rfl
  · intro other mem
    rw [itsCards] at mem
    rcases List.mem_or_eq_of_mem_set mem with was | rfl
    · exact ⟨(h d alive).usable other was, (h d alive).apart other was⟩
    · exact ⟨bindable, apart⟩
  · intro s state other mem
    rw [itsCards] at mem
    rw [boundTo_card_replaceCard bindable state]
    split
    · exact .inl rfl
    · next elsewhere =>
        split
        · next displaced =>
            subst displaced
            refine .inr ⟨fun isOnce => ?_, rfl⟩
            have more := ((displaced_mem_iff found c).1 mem).resolve_left elsewhere
            exact (makesWay isOnce index old found).elim (elsewhere ∘ Eq.symm) more
        · rcases List.mem_or_eq_of_mem_set mem with was | new
          · exact h.bound_of_deckState alive state other was
          · exact absurd new.symm elsewhere

/-- **When updating a card leaves a deck with all its cards bound where it is**: exactly if the card
that made way stood there once, or is the same card. -/
theorem bound_replaceCard_iff {s : StateId} (state : w.deckState d = .ok s)
    (bound : ∀ other ∈ (w.deck d).cards, w.boundTo (.card other) = some s) {c : CardId}
    (bindable : w.Bindable c) {index : Nat} {old : Entry}
    (found : w.placeOf? d (w.card c).hash = some (index, old)) :
    (∀ other ∈ ((w.replaceCard d c index old).1.deck d).cards,
      (w.replaceCard d c index old).1.boundTo (.card other) = some s) ↔
        old.card = c ∨ (w.deck d).cards.count old.card = 1 := by
  have stays := displaced_mem_iff found c
  rw [(replaceCard_deck d c index old w).1]
  simp only [boundTo_card_replaceCard bindable state]
  constructor
  · intro all
    by_contra neither
    obtain ⟨elsewhere, more⟩ := not_or.1 neither
    have unbound := all old.card (stays.2 (.inr more))
    rw [if_neg (Ne.symm elsewhere), if_pos rfl] at unbound
    cases unbound
  · intro either other mem
    split
    · rfl
    · next elsewhere =>
        have was := (List.mem_or_eq_of_mem_set mem).resolve_right (Ne.symm elsewhere)
        rw [if_neg, bound other was]
        rintro rfl
        exact (stays.1 mem).elim elsewhere fun more => either.elim (elsewhere ∘ Eq.symm) more

end

/-! ## New decks -/

section
variable {cards : List CardId}

lemma bareDeck_deck (config : DeckConfig) (cards : List CardId) (w : World) :
    ((w.bareDeck config cards).deck ⟨w.decks.size⟩).cards = cards ∧
      (w.bareDeck config cards).boundTo (.deck ⟨w.decks.size⟩) = none := by
  have new : ((w.emptyDeck config).enterCards ⟨w.decks.size⟩ cards).1.deck ⟨w.decks.size⟩ =
      .new config.generator := by
    rw [deck_of_decks (enterCards_decks _ cards _), emptyDeck, deck, Table.get_add, if_pos rfl]
  rw [bareDeck, boundTo_deck_onDeck, if_pos rfl, deck_onDeck, if_pos rfl, new]
  exact ⟨enterCards_cards _ cards _, rfl⟩

lemma works_bareDeck (config : DeckConfig) (touched : CardId → Prop) (w : World) :
    Works ⟨w.decks.size⟩ touched w (w.bareDeck config cards) := by
  have added : Works ⟨w.decks.size⟩ touched w (w.emptyDeck config) := by
    refine ⟨sameUse_of_same rfl rfl, fun d ne => ?_, fun _ _ => rfl⟩
    rw [emptyDeck, deck, Table.get_add, if_neg fun place => ne (congrArg DeckId.mk place)]
    rfl
  exact (added.trans (works_enterCards _ cards _)).trans (works_onDeck _ _ _)

/-- What a new deck comes to: it has the cards, which are bound where it is. -/
lemma newDeck_works (config : DeckConfig) (state : Option StateId) (touched : CardId → Prop)
    (touches : ∀ c ∈ cards, touched c) (bindable : ∀ c ∈ cards, w.Bindable c) :
    Works ⟨w.decks.size⟩ touched w (w.newDeck config cards state).1 ∧
      ((w.newDeck config cards state).1.deck ⟨w.decks.size⟩).cards = cards ∧
      (w.newDeck config cards state).1.boundTo (.deck ⟨w.decks.size⟩) = state ∧
      ∀ s ∈ state, 0 < ((w.newDeck config cards state).1.store s).listeners.next ∧
        ∀ c ∈ cards, (w.newDeck config cards state).1.boundTo (.card c) = some s := by
  obtain ⟨itsCards, unbound⟩ := bareDeck_deck config cards w
  have bare : Works ⟨w.decks.size⟩ touched w (w.bareDeck config cards) := works_bareDeck config _ w
  rw [newDeck_eq]
  cases state with
  | none => exact ⟨bare, itsCards, unbound, nofun⟩
  | some s =>
      have usable : ∀ c ∈ ((w.bareDeck config cards).deck ⟨w.decks.size⟩).cards,
          (w.bareDeck config cards).Bindable c := fun c mem =>
        (bare.bindable_iff c).2 (bindable c (itsCards ▸ mem))
      refine ⟨bare.trans (works_attachDeck (fun c mem => ?_) usable s), ?_, ?_, ?_⟩
      · rw [itsCards] at mem
        exact touches c mem
      · exact ((bindingsOnly_attachDeck _ s _).deckCards_eq _).trans itsCards
      · exact (boundTo_deck_attachDeck _ _ s _).trans (if_pos rfl)
      · rintro s' here
        obtain rfl := Option.some.inj here
        dsimp only
        refine ⟨watched_attachDeck _ s _, fun c mem => ?_⟩
        rw [boundTo_card_attachDeck usable, itsCards, if_pos mem]

/-- **A new deck**, whose cards stand in no other deck, is held on to. -/
lemma CardsBound.newDeck (h : w.CardsBound once) (config : DeckConfig) (state : Option StateId)
    (enters : ∀ c ∈ cards, w.Bindable c ∧ w.Apart ⟨w.decks.size⟩ c) :
    ((w.newDeck config cards state).1.hold [.deck (w.newDeck config cards state).2]).CardsBound
      once := by
  obtain ⟨works, itsCards, bound, cardsBound⟩ := newDeck_works config state
    (w.Apart ⟨w.decks.size⟩) (fun c mem => (enters c mem).2)
    fun c mem => (enters c mem).1
  have onward := onward_newDeck config cards state w
  have leaves : w.LeavesBe (· = ⟨w.decks.size⟩) (fun c => ¬ w.Apart ⟨w.decks.size⟩ c)
      (w.newDeck config cards state).1 := works.leavesBe fun _ => id
  rw [newDeck_id]
  generalize (w.newDeck config cards state).1 = v at *
  have rooted : ∀ {x}, (v.hold [.deck ⟨w.decks.size⟩]).isRooted x →
      x = .deck ⟨w.decks.size⟩ ∨ w.isRooted x := fun root => by
    rcases isRooted_hold.1 root with here | was
    · exact .inl (List.mem_singleton.1 here)
    · exact .inr (onward.isRooted_eq _ ▸ was)
  have decks : ∀ d, (v.hold [.deck ⟨w.decks.size⟩]).Alive (.deck d) →
      w.Alive (.deck d) ∨ d = ⟨w.decks.size⟩ := fun d alive => by
    rcases rooted (deckAlive_iff.2 alive) with here | was
    · exact .inr (Handle.deck.inj here)
    · exact .inl (.root was)
  have kept : w.LeavesBe (· = ⟨w.decks.size⟩) (fun c => ¬ w.Apart ⟨w.decks.size⟩ c)
      (v.hold [.deck ⟨w.decks.size⟩]) :=
    ⟨leaves.deckCards, leaves.deckBound, fun c mem => ⟨(leaves.card c mem).bound,
      (leaves.card c mem).bindable⟩⟩
  refine h.left _ _ (onward.toLater.trans (later_withRoots v _ _)) decks
    (fun s alive => .inl ?_) kept (fun d ne alive c mem apart => ne (apart d alive mem)) ?_
  · rcases Bool.or_eq_true_iff.1 alive with root | root
    · exact Bool.or_eq_true_iff.2 (.inl ((rooted root).resolve_left nofun))
    · exact Bool.or_eq_true_iff.2 (.inr ((rooted root).resolve_left nofun))
  · rintro d rfl -
    refine ⟨fun c mem => ?_, fun c mem => ?_, fun s at_ => ?_, fun s at_ _ c mem => .inl ?_⟩
    · exact (works.bindable_iff c).2 (enters c (itsCards ▸ mem)).1
    · exact kept.apart decks (enters c (itsCards ▸ mem)).2
    · exact (cardsBound s (bound ▸ at_)).1
    · exact (cardsBound s (bound ▸ at_)).2 c (itsCards ▸ mem)

end

end World

end StoryEngine
