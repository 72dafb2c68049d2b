import StoryEngine.Proofs.CardsBound
import StoryEngine.Proofs.EachOnce
import StoryEngine.Proofs.Offer

/-!
# Cards that have been disposed of

A card that is disposed of takes its quality set with it, and a set that is disposed of loses its
members for good.  What is left is a card without conditions, and a card without conditions is on
offer everywhere.  A deck passes over such cards when it is asked for what it offers at its own
state.  It does not when it is asked about a given state, nor when it is asked about one card.

* **`World.Spent`** — a set that has been disposed of is empty, and a card that has been disposed of
  has such a set.
* `World.Spent.use` — what has to be seen to in an operation, and `World.Spent.disposeSet`,
  `World.Spent.exchangeSet` and their like — operations that dispose of something, or fill a set.
* `World.Spent.engineStep` — every engine step keeps it so.
* `World.availableIn_value`, `World.mem_of_draw`, `World.drawIn_eq_none_or_mem` — what is asked for,
  and drawn.
* **`World.disposed_not_offered`** — a deck neither offers nor draws a card that has been disposed
  of.
* **`World.disposed_available_everywhere`** — asked about a given state or about the card, it does.

Nothing else can fill a set but taking in a condition, which a set refuses once it has been disposed
of; and a card can turn to another set only before it has been disposed of itself.
-/

namespace StoryEngine

/-! ## Drawing -/

namespace Random

/-- An index that a word gives is below the bound. -/
lemma accept?_lt {bound word i : Nat} (below : word < wordCount)
    (accepted : accept? bound word = some i) (positive : 0 < bound) : i < bound := by
  unfold accept? at accepted
  dsimp only at accepted
  split at accepted
  · obtain rfl := Option.some.inj accepted
    exact Nat.div_lt_of_lt_mul ((Nat.mul_lt_mul_right positive).2 below)
  · cases accepted

/-- An index that is found is below the bound. -/
lemma Generator.search?_lt {bound : Nat} (positive : 0 < bound) {g : Generator}
    {found : Nat × Generator} (finds : g.search? bound = some found) : found.1 < bound := by
  refine search?.partial_correctness bound (fun _ found => found.1 < bound) ?_ g found finds
  intro search ih g found finds
  split at finds
  · next i accepted =>
      obtain rfl := Option.some.inj finds
      exact accept?_lt (UInt64.toNat_lt _) accepted positive
  · exact ih _ found finds

/-- **An index is below its bound.** -/
lemma Generator.index_lt (g : Generator) {bound : Nat} (positive : 0 < bound) :
    (g.index bound).1 < bound := by
  rw [index]
  cases finds : g.search? bound with
  | none => exact positive
  | some found => exact search?_lt positive finds

/-- **One entry of a list is drawn**, unless there is none. -/
lemma pick_eq_none_or_mem {α : Type} (xs : List α) (g : Generator) :
    (xs = [] ∧ (pick xs g).1 = none) ∨ ∃ a ∈ xs, (pick xs g).1 = some a := by
  rw [pick]
  split
  · next nothing => exact .inl ⟨List.isEmpty_iff.1 nothing, rfl⟩
  · next some =>
      have positive : 0 < xs.length :=
        List.length_pos_of_ne_nil fun nothing => some (List.isEmpty_iff.2 nothing)
      have below := g.index_lt positive
      exact .inr ⟨_, List.getElem_mem below, List.getElem?_eq_getElem below⟩

end Random

namespace World

variable {w v : World}

/-! ## What is left of what has been disposed of -/

/-- **A set that has been disposed of is empty, and so is the set of a card that has been**: the set
has been disposed of with the card. -/
structure Spent (w : World) : Prop where
  emptied : ∀ q, (w.set q).disposed → w.members q = []
  gone : ∀ c, (w.card c).disposed → (w.set (w.card c).qualities).disposed

namespace Spent

theorem empty : World.empty.Spent :=
  ⟨nofun, nofun⟩

/-- **What has to be seen to in an operation** that disposes of nothing: sets get no members. -/
lemma use (h : w.Spent) (same : w.SameUse v)
    (members : ∀ q, (w.set q).disposed → (v.members q).Sublist (w.members q)) : v.Spent := by
  refine ⟨fun q disposed => ?_, fun c disposed => ?_⟩
  · rw [same.set] at disposed
    exact List.sublist_nil.1 (h.emptied q disposed ▸ members q disposed)
  · rw [same.card] at disposed
    rw [same.qualities, same.set]
    exact h.gone c disposed

lemma tighter (h : w.Spent) (same : w.SameUse v) (tight : w.Tighter (fun _ => True) v) : v.Spent :=
  h.use same fun q _ => tight.members q

lemma bindingsOnly (h : w.Spent) (only : w.BindingsOnly v) : v.Spent :=
  h.tighter only.sameUse only.tighter

lemma cachesOnly (h : w.Spent) (only : w.CachesOnly v) : v.Spent :=
  h.bindingsOnly only.bindingsOnly

lemma alike (h : w.Spent) (cards : v.cards = w.cards) (sets : v.sets = w.sets) : v.Spent :=
  h.use (sameUse_of_same cards sets) fun q _ => by rw [members, members, set, set, sets]

end Spent

/-! ### Disposing -/

/-- **A set that is disposed of is disposed of and empty afterwards**, and others are as before. -/
lemma disposeSet_spent (q : SetId) (w : World) :
    ((w.disposeSet q).set q).disposed ∧ (w.disposeSet q).members q = [] := by
  rw [members, disposeSet_eq, set_onSet, if_pos rfl, (sameSets_letGo _ _).set_eq, set_onSet,
    if_pos rfl]
  exact ⟨rfl, rfl⟩

namespace Spent

lemma disposeSet (h : w.Spent) (q : SetId) : (w.disposeSet q).Spent := by
  obtain ⟨disposed, emptied⟩ := disposeSet_spent q w
  have tight : w.Tighter (fun _ => True) (w.disposeSet q) := tighter_disposeSet q w
  refine ⟨fun other gone => ?_, fun c gone => ?_⟩
  · by_cases here : q = other
    · rw [← here, emptied]
    · rw [disposeSet_set q other w here] at gone
      exact List.sublist_nil.1 (h.emptied other gone ▸ tight.members other)
  · rw [(sameCards_disposeSet q w).card_eq] at gone ⊢
    by_cases here : q = (w.card c).qualities
    · rw [← here]
      exact disposed
    · rw [disposeSet_set q _ w here]
      exact h.gone c gone

/-- **A card may be marked as disposed of once its quality set is.** -/
lemma retireCard (h : w.Spent) {c : CardId} (gone : (w.set (w.card c).qualities).disposed) :
    (w.onCard c fun n => { n with listeners := n.listeners.clear, disposed := true }).Spent := by
  refine ⟨h.emptied, fun other disposed => ?_⟩
  show (w.set _).disposed
  rw [card_onCard] at disposed ⊢
  split
  · next here => exact here ▸ gone
  · next elsewhere =>
      rw [if_neg elsewhere] at disposed
      exact h.gone other disposed

lemma disposeCard (h : w.Spent) (c : CardId) : (w.disposeCard c).Spent := by
  have released := h.bindingsOnly (bindingsOnly_unbindCard c w)
  refine (released.disposeSet _).retireCard ?_
  rw [(sameCards_disposeSet _ _).card_eq]
  exact (disposeSet_spent _ _).1

lemma foldl {β : Type} (h : w.Spent) (step : World → β → World) (bs : List β)
    (each : ∀ (v : World) b, v.Spent → (step v b).Spent) : (bs.foldl step w).Spent := by
  induction bs generalizing w with
  | nil => exact h
  | cons b bs ih => exact ih (each w b h)

lemma forgetEntry (h : w.Spent) (entry : Entry) : (w.forgetEntry entry).Spent :=
  h.tighter (sameUse_onCard _ w (fun _ => rfl) fun _ => rfl) (tighter_forgetEntry entry w)

lemma onDeck (h : w.Spent) (d : DeckId) (f : DeckNode → DeckNode) : (w.onDeck d f).Spent :=
  h.alike rfl rfl

lemma note (h : w.Spent) (n : Note) : (w.note n).Spent :=
  h.alike rfl rfl

lemma disposeDeck (h : w.Spent) (d : DeckId) : (w.disposeDeck d).Spent := by
  have emptied := (h.bindingsOnly (bindingsOnly_unbindDeck d w)).onDeck d
    fun n => { n with entries := [] }
  have disposed := emptied.foldl (fun w c => w.disposeCard c) ((w.unbindDeck d).deck d).cards
    fun _ c hv => hv.disposeCard c
  rw [disposeDeck_eq]
  exact ((disposed.foldl _ _ fun _ entry hv => hv.forgetEntry entry).onDeck d _).note _

lemma disposeNode (h : w.Spent) (n : NodeId) : (w.disposeNode n).Spent := by
  cases n with
  | expr e =>
      exact h.tighter (sameSets_disposeExpr e w).sameBindings.toSameUse (tighter_disposeNode _ w)
  | set q => exact h.disposeSet q
  | card c => exact h.disposeCard c
  | deck d => exact h.disposeDeck d

/-! ### Filling -/

/-- **A set takes in a condition before it has been disposed of**, and not afterwards. -/
lemma insertQuality (h : w.Spent) {q : SetId} (usable : (w.set q).disposed = false)
    (cond : String) : (w.insertQuality q cond).1.Spent := by
  refine h.use (sameBindings_insertQuality q cond w).toSameUse fun other disposed => ?_
  have elsewhere : q ≠ other := fun here =>
    absurd disposed (Bool.eq_false_iff.1 (here ▸ usable))
  by_cases has : w.hasQuality q cond
  · rw [insertQuality_of_has has]
  · rw [members_insertQuality (by simpa using has), if_neg elsewhere]

lemma newSet (h : w.Spent) (conds : List String) (state : Option StateId) :
    (w.newSet conds state).1.Spent := by
  have same : w.SameBindings { w with sets := w.sets.add .new } :=
    SameCards.sameBindings ⟨rfl, rfl, rfl, rfl⟩ fun q => by rw [set_addSet w q]
  have added : ({ w with sets := w.sets.add .new } : World).Spent :=
    h.tighter same.toSameUse (tighter_addSet w)
  have filled : ∀ (conds : List String) {v : World}, v.Spent →
      (v.set ⟨w.sets.size⟩).disposed = false →
        (conds.foldl (fun v cond => (v.insertQuality ⟨w.sets.size⟩ cond).1) v).Spent := by
    intro conds
    induction conds with
    | nil => exact fun hv _ => hv
    | cons cond rest ih =>
        intro v hv usable
        refine ih (hv.insertQuality usable cond) ?_
        exact ((sameBindings_insertQuality _ cond v).set _).trans usable
  have usable : (({ w with sets := w.sets.add .new } : World).set ⟨w.sets.size⟩).disposed =
      false := by
    rw [set, Table.get_add, if_pos rfl]
    rfl
  cases state with
  | none => exact filled conds added usable
  | some s =>
      have only := bindingsOnly_attachSet ⟨w.sets.size⟩ s { w with sets := w.sets.add .new }
      exact filled conds (added.bindingsOnly only) ((only.sameUse.set _).trans usable)

lemma subscribeSet (h : w.Spent) (q : SetId) (c : CardId) : (w.subscribeSet q c).1.Spent :=
  h.tighter (sameBindings_subscribeSet q c w).toSameUse (tighter_subscribeSet q c w)

lemma newCard (h : w.Spent) (hash : CardHash) (content : String) (conds : List String)
    (state : Option StateId) : (w.newCard hash content conds state).1.Spent := by
  refine bindingsOnly ?_ (bindingsOnly_newCard hash content conds state w)
  have listening := (h.newSet conds none).subscribeSet ⟨w.sets.size⟩ ⟨w.cards.size⟩
  have cards : ((w.newSet conds none).1.subscribeSet ⟨w.sets.size⟩ ⟨w.cards.size⟩).1.cards =
    w.cards :=
    newSet_cards conds w
  refine ⟨listening.emptied, fun c disposed => ?_⟩
  rw [bareCard, card, Table.get_add] at disposed
  split at disposed
  · cases disposed
  · next old =>
      have same : (w.bareCard hash content conds).card c =
          ((w.newSet conds none).1.subscribeSet ⟨w.sets.size⟩ ⟨w.cards.size⟩).1.card c := by
        rw [bareCard, card, card, Table.get_add, if_neg old, cards]
      rw [same]
      refine listening.gone c ?_
      rw [card, cards]
      exact disposed

/-- **A card turns to another set before it has been disposed of**, and not afterwards. -/
lemma turnTo (h : w.Spent) {c : CardId} (usable : (w.card c).disposed = false) (q : SetId) :
    (w.turnTo c q).Spent := by
  have listening := h.subscribeSet q c
  refine ⟨listening.emptied, fun other disposed => ?_⟩
  rw [card_turnTo] at disposed ⊢
  split
  · next here =>
      rw [if_pos here, ← here] at disposed
      exact absurd disposed (Bool.eq_false_iff.1 usable)
  · next elsewhere =>
      rw [if_neg elsewhere] at disposed
      exact listening.gone other disposed

lemma unsubscribeSet (h : w.Spent) (q : SetId) (number : Nat) :
    (w.onSet q fun n => { n with listeners := n.listeners.remove number }).Spent := by
  refine h.tighter (SameBindings.toSameUse ?_) ?_
  · exact sameBindings_onSet q w fun _ => rfl
  · exact tighter_onSet q fun _ => .refl _

lemma exchangeSet (h : w.Spent) {c : CardId} (usable : (w.card c).disposed = false) (q : SetId) :
    (w.exchangeSet c q).Spent := by
  rw [exchangeSet_eq]
  exact ((h.turnTo usable q).disposeSet _).unsubscribeSet _ _

lemma replaceQualities (h : w.Spent) {c : CardId} (usable : (w.card c).disposed = false)
    (conds : List String) : (w.replaceQualities c conds).1.Spent := by
  have made : (w.withNewSet c conds).Spent :=
    (h.newSet conds none).bindingsOnly (bindingsOnly_bindSetWhere c _ _)
  rw [replaceQualities_eq]
  exact made.exchangeSet (((sameBindings_withNewSet c conds w).card c).trans usable) _

/-! ### Working on decks -/

lemma enterCard (h : w.Spent) (d : DeckId) (c : CardId) : (w.enterCard d c).1.Spent :=
  h.tighter (sameUse_onCard c w (fun _ => rfl) fun _ => rfl) (tighter_enterCard d c w)

lemma enterCards (h : w.Spent) (d : DeckId) (cards : List CardId) :
    (w.enterCards d cards).1.Spent := by
  induction cards generalizing w with
  | nil => exact h
  | cons c rest ih => exact ih (h.enterCard d c)

lemma newDeck (h : w.Spent) (config : DeckConfig) (cards : List CardId)
    (state : Option StateId) : (w.newDeck config cards state).1.Spent := by
  have empty : (w.emptyDeck config).Spent := h.alike rfl rfl
  have bare : (w.bareDeck config cards).Spent := (empty.enterCards _ cards).onDeck _ _
  rw [newDeck_eq]
  cases state with
  | none => exact bare
  | some s => exact bare.bindingsOnly (bindingsOnly_attachDeck _ s _)

lemma replaceCards (h : w.Spent) (d : DeckId) (cards : List CardId) :
    (w.replaceCards d cards).Spent := by
  have released := (h.onDeck d fun n => { n with entries := [] }).foldl
    (fun w (entry : Entry) => w.unbindCard entry.card) (w.deck d).entries
    fun v entry hv => hv.bindingsOnly (bindingsOnly_unbindCard entry.card v)
  have cleared := released.foldl (fun w entry => w.forgetEntry entry) (w.deck d).entries
    fun _ entry hv => hv.forgetEntry entry
  have entered := cleared.enterCards d cards
  exact ((entered.bindingsOnly (bindingsOnly_bindCardsWhere d cards _)).note _).onDeck d _

lemma insertCard (h : w.Spent) (d : DeckId) (c : CardId) : (w.insertCard d c).1.Spent := by
  have bound := h.bindingsOnly (bindingsOnly_bindWhere d c w)
  rw [World.insertCard]
  rcases done : w.bindWhere d c with ⟨v, fault | _⟩
  all_goals rw [done] at bound
  · exact bound
  · exact ((bound.note _).enterCard d c).onDeck d _

lemma takeCard (h : w.Spent) (d : DeckId) (c : CardId) (gone kept : List Entry) :
    (w.takeCard d c gone kept).Spent := by
  have released := (h.onDeck d fun n => { n with entries := kept }).bindingsOnly
    (bindingsOnly_unbindCard c _)
  exact (released.foldl _ gone fun _ entry hv => hv.forgetEntry entry).note _

lemma replaceCard (h : w.Spent) (d : DeckId) (c : CardId) (index : Nat) (old : Entry) :
    (w.replaceCard d c index old).1.Spent := by
  have entered : (((w.enterCard d c).1.onDeck d fun n =>
      { n with entries := n.entries.set index (w.enterCard d c).2 })).Spent :=
    (h.enterCard d c).onDeck d _
  have released := entered.bindingsOnly (bindingsOnly_unbindCard old.card _)
  exact (released.forgetEntry old).bindingsOnly (bindingsOnly_bindWhere d c _)

/-- **Every engine step keeps it so.** -/
theorem engineStep {rule : Rule} (h : w.Spent) (engineStep : EngineStep rule w v) : v.Spent := by
  cases engineStep with
  | record event => exact h.alike rfl rfl
  | roots names held => exact h.alike rfl rfl
  | amend s contents =>
      exact h.tighter (sameBindings_amend s contents w).toSameUse (tighter_amend s contents w)
  | enter s => exact h.alike rfl rfl
  | shut s names held =>
      have rooted : (w.withRoots names held).Spent := h.alike rfl rfl
      exact rooted.tighter (sameBindings_shut s _).toSameUse (tighter_shut s _)
  | newState => exact h.alike rfl rfl
  | newBoard => exact h.alike rfl rfl
  | newExpr cond state =>
      have made := h.tighter (sameSets_newExpr cond state w).sameBindings.toSameUse
        (tighter_newExpr cond state w)
      exact made.alike rfl rfl
  | newSet conds state => exact (h.newSet conds state).alike rfl rfl
  | newCard hash content conds state => exact (h.newCard hash content conds state).alike rfl rfl
  | newDeck config cards state => exact (h.newDeck config cards state).alike rfl rfl
  | newListener em name program times =>
      have subscribedTo := h.tighter (sameBindings_subscribeTo em ⟨w.listeners.size⟩ w).toSameUse
        (tighter_subscribeTo em _ w)
      exact subscribedTo.alike rfl rfl
  | spend => exact h.alike rfl rfl
  | unsubscribeFrom =>
      exact h.tighter (sameBindings_unsubscribeFrom _ _ w).toSameUse (tighter_unsubscribeFrom _ _ w)
  | clearListeners em =>
      exact h.tighter (sameBindings_clearListeners em w).toSameUse (tighter_clearListeners em w)
  | readExpr e => exact h.cachesOnly (cachesOnly_exprResult e w)
  | readSet q => exact h.cachesOnly (cachesOnly_setResult q w)
  | invalidateExpr e => exact h.cachesOnly (cachesOnly_invalidateExpr e w)
  | invalidateSet q => exact h.cachesOnly (cachesOnly_invalidateSet q w)
  | admitExpr => exact h.alike rfl rfl
  | admitSet q =>
      refine h.bindingsOnly ?_
      exact bindingsOnly_onSet fun _ => rfl
  | admitCard =>
      refine h.bindingsOnly ?_
      exact bindingsOnly_onCard fun _ => rfl
  | admitDeck => exact h.alike rfl rfl
  | bind n s => exact h.bindingsOnly (bindingsOnly_bindNode n s w)
  | unbind n => exact h.bindingsOnly (bindingsOnly_unbindNode n w)
  | dispose n => exact h.disposeNode n
  | addQuality q cond _ usable =>
      exact (h.insertQuality usable cond).cachesOnly (cachesOnly_invalidateSet q _)
  | dropMember q _ m =>
      exact h.tighter (sameBindings_dropMember q m w).toSameUse (tighter_dropMember q m w)
  | replaceQualities c conds _ usable => exact h.replaceQualities usable conds
  | setContent c =>
      refine h.use (sameUse_onCard c w (fun _ => rfl) fun _ => rfl) ?_
      exact fun _ _ => .refl _
  | replaceCards d cards => exact h.replaceCards d cards
  | insertCard d c => exact h.insertCard d c
  | takeCard d c gone kept => exact h.takeCard d c gone kept
  | replaceCard d c index old => exact h.replaceCard d c index old
  | reorder => exact h.alike rfl rfl
  | pick => exact h.alike rfl rfl

end Spent

/-- **What has been disposed of is spent** in every world that is reached. -/
theorem Reached.spent (reached : w.Reached) : w.Spent := by
  induction reached with
  | refl => exact .empty
  | engineStep _ engineStep ih => exact ih.engineStep engineStep
  | rewrite _ e cond ih =>
      exact ih.tighter (sameBindings_rewriteExpr e cond _).toSameUse (tighter_rewriteExpr e cond _)

/-- A card that has been disposed of has no condition left, so it holds in every state. -/
lemma Spent.setHolds (h : w.Spent) {c : CardId} (disposed : (w.card c).disposed) (s : StateId) :
    w.setHolds (w.card c).qualities s := by
  rw [World.setHolds, h.emptied _ (h.gone c disposed)]
  rfl

/-! ## What is offered and drawn -/

lemma filterChecked_value (s : StateId) (cards : List CardId) (w : World) :
    (w.filterChecked s cards).2 = cards.filter fun c => w.setHolds (w.card c).qualities s := by
  induction cards generalizing w with
  | nil => rfl
  | cons c rest ih =>
      have only : w.CachesOnly (w.setCheck (w.card c).qualities s).1 := cachesOnly_allChecks s _ w
      rw [filterChecked, List.filter_cons, cardCheck, ← setCheck_value]
      rcases check : w.setCheck (w.card c).qualities s with ⟨v, value⟩
      rw [check] at only
      simp only [ih, only.card_eq, only.setHolds_eq]

/-- **What a deck would offer in a given state**: those of its cards that hold there. -/
lemma availableIn_value (d : DeckId) (s : StateId) (w : World) :
    (w.availableIn d s).2 =
      (w.deck d).cards.filter fun c => w.setHolds (w.card c).qualities s :=
  filterChecked_value s _ w

lemma pick_value (d : DeckId) (cards : List CardId) (w : World) :
    (w.pick d cards).2 = (Random.pick cards (w.deck d).generator).1 := by
  unfold pick
  rfl

/-- **What a deck draws, it offers.** -/
lemma mem_of_draw {d : DeckId} {c : CardId} (drawn : (w.draw d).2 = .ok (some c)) :
    ∃ cards, (w.availableCards d).2 = .ok cards ∧ c ∈ cards := by
  rw [draw] at drawn
  rcases offer : w.availableCards d with ⟨v, fault | cards⟩
  all_goals rw [offer] at drawn
  · cases drawn
  · refine ⟨cards, rfl, ?_⟩
    have picked := Except.ok.inj drawn
    rw [pick_value] at picked
    rcases Random.pick_eq_none_or_mem cards (v.deck d).generator with ⟨-, none⟩ | ⟨a, mem, some⟩
    · cases none.symm.trans picked
    · exact Option.some.inj (some.symm.trans picked) ▸ mem

/-- **A deck draws for a given state** one of those that it would offer there, unless it would offer
none. -/
lemma drawIn_eq_none_or_mem (d : DeckId) (s : StateId) (w : World) :
    ((w.availableIn d s).2 = [] ∧ (w.drawIn d s).2 = none) ∨
      ∃ c ∈ (w.availableIn d s).2, (w.drawIn d s).2 = some c := by
  unfold drawIn
  rcases w.availableIn d s with ⟨v, cards⟩
  dsimp only
  rw [pick_value]
  exact Random.pick_eq_none_or_mem _ _

/-! ## Runs -/

section
variable {look : Supervisor} {depth : Nat} {steps : List Step} {c : CardId}
variable (watches : look.Watches) (passes : Passes look depth steps w)
variable (disposed : (w.card c).disposed)
include watches passes disposed

/-- **A deck does not offer a card that has been disposed of**, and does not draw it. -/
theorem disposed_not_offered (d : DeckId) :
    (∀ cards, (w.availableCards d).2 = .ok cards → c ∉ cards) ∧
      (w.draw d).2 ≠ .ok (some c) := by
  have passedOver : ∀ cards, (w.availableCards d).2 = .ok cards → c ∉ cards := by
    intro cards offer mem
    rw [availableCards_of_passes watches passes] at offer
    rcases state : w.deckState d with fault | s
    all_goals rw [state] at offer
    · cases offer
    · obtain rfl := Except.ok.inj offer
      simp [disposed] at mem
  refine ⟨passedOver, fun drawn => ?_⟩
  obtain ⟨cards, offer, mem⟩ := mem_of_draw drawn
  exact passedOver cards offer mem

/-- **A card that has been disposed of is available wherever a deck is asked otherwise**: in every
given state if it stands in the deck, and at the deck's own state whether it stands in it or not. -/
theorem disposed_available_everywhere (d : DeckId) (s : StateId) :
    (c ∈ (w.availableIn d s).2 ↔ c ∈ (w.deck d).cards) ∧
      (w.isCardAvailable d c).2 = (w.deckState d).map fun _ => true := by
  have holds := (Reached.of_passes watches passes).spent.setHolds disposed
  rw [availableIn_value, List.mem_filter, isCardAvailable_value]
  refine ⟨and_iff_left (holds s), ?_⟩
  rcases w.deckState d with fault | own
  · rfl
  · exact congrArg Except.ok (holds own)

end

/-- **A deck all of whose cards have been disposed of draws one of them** for any given state. -/
theorem drawIn_disposed {look : Supervisor} {depth : Nat} {steps : List Step}
    (watches : look.Watches) (passes : Passes look depth steps w) {d : DeckId}
    (disposed : ∀ c ∈ (w.deck d).cards, (w.card c).disposed) (nonempty : (w.deck d).cards ≠ [])
    (s : StateId) : ∃ c ∈ (w.deck d).cards, (w.drawIn d s).2 = some c := by
  have all : (w.availableIn d s).2 = (w.deck d).cards := by
    rw [availableIn_value, List.filter_eq_self]
    exact fun c mem => (Reached.of_passes watches passes).spent.setHolds (disposed c mem) s
  have drawn := drawIn_eq_none_or_mem d s w
  rw [all] at drawn
  exact drawn.resolve_left fun none => nonempty none.1

/-- A deck of one card, whose condition never holds, at a state; the card is disposed of. -/
def disposeInDeck : List Act :=
  [.state (.create "state"), .card (.create "card" "" ["false"] none .fresh),
    .deck (.create "deck" ["card"] (some "state") .none), .node (.dispose "card")]

/-- The deck offers nothing at its state, and the card in the very same state when it is given. -/
example :
    let w := runUnder .free fire (disposeInDeck.map .act) .empty
    (w.availableCards ⟨0⟩).2 = .ok [] ∧ (w.availableIn ⟨0⟩ ⟨0⟩).2 = [⟨0⟩] ∧
      (w.isCardAvailable ⟨0⟩ ⟨0⟩).2 = .ok true := by
  decide +kernel

end World

end StoryEngine
