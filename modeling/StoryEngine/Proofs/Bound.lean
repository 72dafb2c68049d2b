import StoryEngine.Proofs.Coherent

/-!
# Binding keeps caches right

A member of a quality set must not be bound elsewhere than its set, and a set not elsewhere than its
card.  So owners are released before what they own, and bound after it.

* `World.Untied`, `World.Loose`, `World.Unowned` — nobody cares where an expression or a set is
  bound.
* `World.Movable` — nodes that can be bound, released and disposed of by themselves.
* `World.SameSets`, `World.SameCards` — operations that stay below quality sets, and below cards.
* `World.Coherent.unbindExpr` and its like — binding, releasing and disposing of nodes.
-/

namespace StoryEngine.World

variable {live : Handle → Prop} {stale : SetId → Prop} {w w' : World}

/-! ## Tables that stay as they are -/

/-- **Quality sets, cards and decks are as before**, and the same things are held on to. -/
structure SameSets (w w' : World) : Prop where
  sets : w'.sets = w.sets
  cards : w'.cards = w.cards
  decks : w'.decks = w.decks
  names : w'.names = w.names
  held : w'.held = w.held

/-- **Cards and decks are as before**, and the same things are held on to. -/
structure SameCards (w w' : World) : Prop where
  cards : w'.cards = w.cards
  decks : w'.decks = w.decks
  names : w'.names = w.names
  held : w'.held = w.held

lemma SameSets.refl (w : World) : w.SameSets w := ⟨rfl, rfl, rfl, rfl, rfl⟩

lemma SameSets.trans {w'' : World} (h : w.SameSets w') (h' : w'.SameSets w'') : w.SameSets w'' :=
  ⟨h'.sets.trans h.sets, h'.cards.trans h.cards, h'.decks.trans h.decks, h'.names.trans h.names,
    h'.held.trans h.held⟩

lemma SameSets.foldl {β : Type} {step : World → β → World}
    (h : ∀ (w : World) b, w.SameSets (step w b)) (bs : List β) (w : World) :
    w.SameSets (bs.foldl step w) := by
  induction bs generalizing w with
  | nil => exact .refl w
  | cons b bs ih => exact (h w b).trans (ih _)

lemma SameSets.sameCards (h : w.SameSets w') : w.SameCards w' :=
  ⟨h.cards, h.decks, h.names, h.held⟩

lemma SameCards.refl (w : World) : w.SameCards w := ⟨rfl, rfl, rfl, rfl⟩

lemma SameCards.trans {w'' : World} (h : w.SameCards w') (h' : w'.SameCards w'') :
    w.SameCards w'' :=
  ⟨h'.cards.trans h.cards, h'.decks.trans h.decks, h'.names.trans h.names, h'.held.trans h.held⟩

lemma sameSets_onStore (s : StateId) (f : Store → Store) (w : World) : w.SameSets (w.onStore s f) :=
  ⟨rfl, rfl, rfl, rfl, rfl⟩

lemma sameSets_onExpr (e : ExprId) (f : ExprNode → ExprNode) (w : World) :
    w.SameSets (w.onExpr e f) :=
  ⟨rfl, rfl, rfl, rfl, rfl⟩

lemma sameCards_onSet (q : SetId) (f : SetNode → SetNode) (w : World) : w.SameCards (w.onSet q f) :=
  ⟨rfl, rfl, rfl, rfl⟩

lemma sameSets_release (binding : Option Binding) (w : World) : w.SameSets (w.release binding) := by
  cases binding with
  | none => exact .refl w
  | some b => exact sameSets_onStore _ _ w

lemma sameSets_unbindExpr (e : ExprId) (w : World) : w.SameSets (w.unbindExpr e) :=
  (sameSets_release _ w).trans (sameSets_onExpr _ _ _)

lemma sameSets_attachExpr (e : ExprId) (s : StateId) (w : World) :
    w.SameSets (w.attachExpr e s) := by
  refine SameSets.trans ?_ (sameSets_onExpr _ _ _)
  exact (sameSets_unbindExpr e w).trans (sameSets_onStore _ _ _)

lemma sameSets_disposeExpr (e : ExprId) (w : World) : w.SameSets (w.disposeExpr e) :=
  (sameSets_unbindExpr e w).trans (sameSets_onExpr _ _ _)

lemma sameSets_unbindExprs (es : List ExprId) (w : World) : w.SameSets (w.unbindExprs es) :=
  SameSets.foldl (fun w e => sameSets_unbindExpr e w) es w

lemma sameSets_attachExprs (es : List ExprId) (s : StateId) (w : World) :
    w.SameSets (w.attachExprs es s) :=
  SameSets.foldl (fun w e => sameSets_attachExpr e s w) es w

lemma sameCards_unbindSet (q : SetId) (w : World) : w.SameCards (w.unbindSet q) := by
  refine SameCards.trans ?_ (sameCards_onSet q _ _)
  refine SameCards.trans ?_ (sameSets_unbindExprs _ _).sameCards
  exact (sameSets_release _ w).sameCards.trans (sameCards_onSet q _ _)

lemma sameCards_attachSet (q : SetId) (s : StateId) (w : World) :
    w.SameCards (w.attachSet q s) := by
  refine SameCards.trans ?_ (sameCards_onSet q _ _)
  refine SameCards.trans ?_ (sameSets_onStore s _ _).sameCards
  exact (sameCards_unbindSet q w).trans (sameSets_attachExprs _ s _).sameCards

lemma sameCards_bindSet (q : SetId) (s : StateId) (w : World) : w.SameCards (w.bindSet q s).1 := by
  rw [bindSet]
  split
  · exact .refl w
  · exact sameCards_attachSet q s w

lemma SameSets.set_eq (h : w.SameSets w') (q : SetId) : w'.set q = w.set q := by
  rw [World.set, World.set, h.sets]

lemma SameSets.members_eq (h : w.SameSets w') (q : SetId) : w'.members q = w.members q := by
  rw [members, members, h.set_eq]

lemma SameCards.card_eq (h : w.SameCards w') (c : CardId) : w'.card c = w.card c := by
  rw [World.card, World.card, h.cards]

lemma SameCards.stateAlive_eq (h : w.SameCards w') (s : StateId) :
    w'.stateAlive s = w.stateAlive s := by
  simp only [stateAlive, isRooted, h.names, h.held]

/-! ## Who cares where a node is bound -/

/-- **Nobody cares where an expression is bound**: no set that is bound has it as a member. -/
def Untied (live : Handle → Prop) (w : World) (e : ExprId) : Prop :=
  ∀ q s, live (.set q) → w.boundTo (.set q) = some s → w.stateAlive s → e ∉ w.members q

/-- **Nobody cares where a set is bound**: no card that is bound has it. -/
def Loose (live : Handle → Prop) (w : World) (q : SetId) : Prop :=
  ∀ c s, live (.card c) → w.boundTo (.card c) = some s → w.stateAlive s → (w.card c).qualities ≠ q

/-- **Nobody has an expression** as a member. -/
def Unowned (live : Handle → Prop) (w : World) (e : ExprId) : Prop :=
  ∀ q, live (.set q) → e ∉ w.members q

lemma Unowned.untied {e : ExprId} (h : Unowned live w e) : Untied live w e :=
  fun q _ hq _ _ => h q hq

lemma SameSets.untied (same : w.SameSets w') {e : ExprId} (h : Untied live w e) :
    Untied live w' e := by
  intro q s hq bound alive
  rw [boundTo, same.set_eq] at bound
  rw [same.sameCards.stateAlive_eq] at alive
  rw [same.members_eq]
  exact h q s hq bound alive

lemma SameSets.unowned (same : w.SameSets w') {e : ExprId} (h : Unowned live w e) :
    Unowned live w' e := by
  intro q hq
  rw [same.members_eq]
  exact h q hq

lemma SameCards.loose (same : w.SameCards w') {q : SetId} (h : Loose live w q) :
    Loose live w' q := by
  intro c s hc bound alive
  rw [boundTo, same.card_eq] at bound
  rw [same.stateAlive_eq] at alive
  rw [same.card_eq]
  exact h c s hc bound alive

/-! ## Expressions -/

lemma Coherent.release (h : w.Coherent live stale) (binding : Option Binding) :
    (w.release binding).Coherent live stale := by
  cases binding with
  | none => exact h
  | some b => exact h.onStore b.state (Nat.le_refl _) (Nat.le_refl _) fun _ => rfl

lemma Coherent.subscribeState (h : w.Coherent live stale) (s : StateId) (l : StateListener) :
    (w.subscribeState s l).1.Coherent live stale :=
  h.onStore s (Nat.le_succ _) (Nat.le_refl _) fun _ => rfl

lemma Coherent.unbindExpr (h : w.Coherent live stale) {e : ExprId} (untied : Untied live w e) :
    (w.unbindExpr e).Coherent live stale := by
  have untied := (sameSets_release (w.expr e).binding w).untied untied
  have released := h.release (w.expr e).binding
  refine released.onExpr e (released.toFresh.keepExpr e (.forgotten nofun)) ?_ ?_
    fun fresh => ⟨fresh, fun _ => rfl⟩
  · exact fun hq bound alive mem => absurd mem (untied _ _ hq bound alive)
  · rintro q m hq mem rfl
    exact released.firstListener hq mem

/-- An expression is attached where nobody minds. -/
lemma Coherent.attachExpr (h : w.Coherent live stale) {e : ExprId} (untied : Untied live w e)
    (s : StateId) : (w.attachExpr e s).Coherent live stale := by
  have loosened := (sameSets_unbindExpr e w).untied untied
  have listening := (h.unbindExpr untied).subscribeState s (.expr e)
  refine listening.onExpr e (listening.toFresh.keepExpr e (.forgotten nofun)) ?_ ?_
    fun fresh => ⟨fresh, fun _ => rfl⟩
  · exact fun hq bound alive mem => absurd mem (loosened _ _ hq bound alive)
  · rintro q m hq mem rfl
    exact listening.firstListener hq mem

lemma Coherent.unbindExprs (h : w.Coherent live stale) {es : List ExprId}
    (untied : ∀ e ∈ es, Untied live w e) : (w.unbindExprs es).Coherent live stale := by
  induction es generalizing w with
  | nil => exact h
  | cons e rest ih =>
      refine ih (h.unbindExpr (untied e List.mem_cons_self)) fun other mem => ?_
      exact (sameSets_unbindExpr e w).untied (untied other (List.mem_cons_of_mem _ mem))

lemma Coherent.attachExprs (h : w.Coherent live stale) {es : List ExprId}
    (untied : ∀ e ∈ es, Untied live w e) (s : StateId) :
    (w.attachExprs es s).Coherent live stale := by
  induction es generalizing w with
  | nil => exact h
  | cons e rest ih =>
      refine ih (h.attachExpr (untied e List.mem_cons_self) s) fun other mem => ?_
      exact (sameSets_attachExpr e s w).untied (untied other (List.mem_cons_of_mem _ mem))

/-- To attach an expression is nothing to the other ones. -/
lemma expr_attachExpr {e other : ExprId} (elsewhere : e ≠ other) (s : StateId) (w : World) :
    (w.attachExpr e s).expr other = w.expr other := by
  rw [World.attachExpr]
  refine (expr_onExpr _ _ _ _).trans ((if_neg elsewhere).trans ?_)
  show (w.unbindExpr e).expr other = _
  rw [World.unbindExpr, expr_onExpr, if_neg elsewhere]
  cases (w.expr e).binding <;> rfl

lemma boundTo_attachExpr (e other : ExprId) (s : StateId) (w : World) :
    (w.attachExpr e s).boundTo (.expr other) =
      if e = other then some s else w.boundTo (.expr other) := by
  split
  · next here =>
      subst here
      exact (boundTo_onExpr _ _ _).trans (if_pos rfl)
  · next elsewhere => rw [boundTo, boundTo, expr_attachExpr elsewhere]

/-- Expressions are bound where they are attached. -/
lemma boundTo_attachExprs {es : List ExprId} {e : ExprId} (s : StateId) (w : World)
    (mem : e ∈ es ∨ w.boundTo (.expr e) = some s) :
    (w.attachExprs es s).boundTo (.expr e) = some s := by
  induction es generalizing w with
  | nil => simpa [World.attachExprs] using mem
  | cons first rest ih =>
      refine ih (w.attachExpr first s) ?_
      rw [boundTo_attachExpr]
      simp only [List.mem_cons] at mem
      by_cases here : first = e
      · simp [here]
      · simpa [here, Ne.symm here] using mem

/-! ## Quality sets -/

/-- The members of a set that is not bound are untied. -/
lemma Coherent.untied_members (h : w.Coherent live stale) {q : SetId}
    (bound : w.boundTo (.set q) = none) : ∀ e ∈ w.members q, Untied live w e := by
  intro e mem other s _ bound' _ mem'
  rw [← h.oneSet mem mem', bound] at bound'
  cases bound'

lemma Coherent.unbindSet (h : w.Coherent live stale) {q : SetId} (loose : Loose live w q) :
    (w.unbindSet q).Coherent live stale := by
  have loose' := (sameSets_release (w.set q).binding w).sameCards.loose loose
  have released := h.release (w.set q).binding
  have loosened : ((w.release (w.set q).binding).onSet q fun n =>
      { n with binding := none }).Coherent live stale := by
    refine released.onSet q ?_ nofun nofun nofun nofun released.firstListener ?_ fun _ => id
    · exact released.toOwned.tighten (tighter_onSet q fun _ => .refl _)
    · exact fun hc eq bound alive => absurd eq (loose' _ _ hc bound alive)
  have unbound : ((w.release (w.set q).binding).onSet q fun n => { n with binding := none }).boundTo
      (.set q) = none := by
    rw [boundTo_onSet, if_pos rfl]
    rfl
  have members := loosened.unbindExprs (loosened.untied_members unbound)
  exact (members.emptySet q (f := fun _ => .unbound) fun _ _ => rfl).mono (fun _ => id)
    fun _ => And.left

lemma boundTo_unbindSet (q : SetId) (w : World) : (w.unbindSet q).boundTo (.set q) = none := by
  rw [World.unbindSet]
  refine (boundTo_onSet _ _ _).trans ?_
  rw [if_pos rfl]
  show Option.map _ ((World.unbindExprs _ _).set q).binding = none
  rw [(sameSets_unbindExprs _ _).set_eq, set_onSet, if_pos rfl]
  rfl

lemma boundTo_attachSet (q : SetId) (s : StateId) (w : World) :
    (w.attachSet q s).boundTo (.set q) = some s := by
  rw [World.attachSet]
  refine (boundTo_onSet _ _ _).trans ?_
  rw [if_pos rfl]
  rfl

/-- A set whose members are bound somewhere may be bound there too. -/
lemma Coherent.tieSet (h : w.Coherent live stale) {q : SetId} (loose : Loose live w q) {s : StateId}
    (members : ∀ e ∈ w.members q, w.boundTo (.expr e) = some s) (number : Nat) :
    ((w.subscribeState s (.set q)).1.onSet q fun n =>
      { n with binding := some ⟨s, number⟩, cache := .dirty, gate := .fresh }).Coherent
        live stale := by
  have listening := h.subscribeState s (.set q)
  refine listening.onSet q ?_ nofun ?_ ?_ ?_ listening.firstListener ?_ fun _ => id
  · exact listening.toOwned.tighten (tighter_onSet q fun _ => .refl _)
  · intro b binding
    obtain rfl := Option.some.inj binding
    rw [World.subscribeState, store_onStore, if_pos rfl]
    exact Nat.succ_pos _
  · intro s' e _ bound _ mem
    obtain rfl := Option.some.inj bound
    exact members e mem
  · intro s' value _ _ _ _ cached
    cases cached
  · exact fun hc eq bound alive => absurd eq (loose _ _ hc bound alive)

/-- **A set is attached after its members.** -/
lemma Coherent.attachSet (h : w.Coherent live stale) {q : SetId} (loose : Loose live w q)
    (s : StateId) : (w.attachSet q s).Coherent live stale := by
  have unbound := h.unbindSet loose
  have same := sameSets_attachExprs ((w.unbindSet q).members q) s (w.unbindSet q)
  have attached := unbound.attachExprs (unbound.untied_members (boundTo_unbindSet q w)) s
  refine attached.tieSet (same.sameCards.loose ((sameCards_unbindSet q w).loose loose)) ?_ _
  rw [same.members_eq]
  exact fun e mem => boundTo_attachExprs s _ (.inl mem)

lemma Coherent.bindSet (h : w.Coherent live stale) {q : SetId} (loose : Loose live w q)
    (s : StateId) : (w.bindSet q s).1.Coherent live stale := by
  rw [World.bindSet]
  split
  · exact h
  · exact h.attachSet loose s

/-! ## Cards -/

/-- The set of a card that is not bound is loose. -/
lemma Coherent.loose_qualities (h : w.Coherent live stale) {c : CardId} (hc : live (.card c))
    (bound : w.boundTo (.card c) = none) : Loose live w (w.card c).qualities := by
  rintro other s hother bound' _ eq
  rw [h.oneCard hother hc eq, bound] at bound'
  cases bound'

/-- A card before its set is released. -/
def unbindOnly (c : CardId) (w : World) : World :=
  if (w.card c).binding.isSome then
    (w.onCard c fun n => { n with binding := none }).note (.cardUnbound (w.card c).hash)
  else w

lemma unbindCard_eq (c : CardId) (w : World) :
    w.unbindCard c = (w.unbindOnly c).unbindSet ((w.unbindOnly c).card c).qualities := rfl

lemma Coherent.unbindOnly (h : w.Coherent live stale) (c : CardId) :
    (w.unbindOnly c).Coherent live stale ∧ (w.unbindOnly c).boundTo (.card c) = none := by
  rw [World.unbindOnly]
  split
  · refine ⟨(h.onCard c ?_ ?_ ?_).note _, ?_⟩
    · exact h.toOwned.tighten (tighter_onCard c fun _ => rfl)
    · exact fun binding => nomatch binding
    · exact fun _ binding => nomatch binding
    · show ((w.onCard c _).card c).binding = none
      rw [card_onCard, if_pos rfl]
  · next unbound => exact ⟨h, by simpa [boundTo] using unbound⟩

lemma Coherent.unbindCard (h : w.Coherent live stale) {c : CardId} (hc : live (.card c)) :
    (w.unbindCard c).Coherent live stale := by
  obtain ⟨first, unbound⟩ := h.unbindOnly c
  rw [unbindCard_eq]
  exact first.unbindSet (first.loose_qualities hc unbound)

lemma boundTo_unbindCard (h : w.Coherent live stale) (c : CardId) :
    (w.unbindCard c).boundTo (.card c) = none := by
  obtain ⟨-, unbound⟩ := h.unbindOnly c
  rw [unbindCard_eq, boundTo, (sameCards_unbindSet _ _).card_eq]
  exact unbound

/-- **A card is attached after its set.** -/
lemma Coherent.attachCard (h : w.Coherent live stale) {c : CardId} (hc : live (.card c))
    (s : StateId) : (w.attachCard c s).Coherent live stale := by
  have unbound := h.unbindCard hc
  have loose := unbound.loose_qualities hc (boundTo_unbindCard h c)
  have bound := unbound.bindSet loose s
  have same := sameCards_bindSet ((w.unbindCard c).card c).qualities s (w.unbindCard c)
  rw [World.attachCard]
  rcases eq : (w.unbindCard c).bindSet ((w.unbindCard c).card c).qualities s with ⟨v, fault | _⟩
  all_goals rw [eq] at bound same
  · exact bound.note _
  · have there : v.boundTo (.set (v.card c).qualities) = some s := by
      rw [World.bindSet] at eq
      split at eq
      · cases eq
      · obtain ⟨rfl, -⟩ := Prod.mk.inj eq
        rw [same.card_eq]
        exact boundTo_attachSet _ s _
    refine (bound.onCard c ?_ ?_ ?_).note _
    · exact bound.toOwned.tighten (tighter_onCard c fun _ => rfl)
    · intro s' binding
      obtain rfl := Option.some.inj binding
      obtain ⟨b, its, rfl⟩ := Option.map_eq_some_iff.1 there
      exact bound.watched its
    · intro s' _ binding _
      obtain rfl := Option.some.inj binding
      exact there

lemma Coherent.bindCard (h : w.Coherent live stale) {c : CardId} (hc : live (.card c))
    (s : StateId) : (w.bindCard c s).1.Coherent live stale := by
  rw [World.bindCard]
  split
  · exact h
  · exact h.attachCard hc s

/-! ## Decks -/

lemma Coherent.foldl {β : Type} {step : World → β → World} (bs : List β)
    (each : ∀ v : World, ∀ b ∈ bs, v.Coherent live stale → (step v b).Coherent live stale)
    (h : w.Coherent live stale) : (bs.foldl step w).Coherent live stale := by
  induction bs generalizing w with
  | nil => exact h
  | cons b bs ih =>
      refine ih (fun v b' mem => each v b' (List.mem_cons_of_mem _ mem)) ?_
      exact each w b List.mem_cons_self h

lemma Coherent.bindOrSkip (h : w.Coherent live stale) {c : CardId} (hc : live (.card c))
    (s : StateId) : (bindOrSkip s w c).Coherent live stale := by
  have bound := h.bindCard hc s
  rw [World.bindOrSkip]
  rcases eq : w.bindCard c s with ⟨v, fault | _⟩
  all_goals rw [eq] at bound
  · exact bound.note _
  · exact bound

/-- A deck before its cards are released. -/
def unbindDeckOnly (d : DeckId) (w : World) : World :=
  if (w.deck d).binding.isSome then
    ((w.release (w.deck d).binding).onDeck d fun n => { n with binding := none }).note .deckUnbound
  else w

lemma unbindDeck_eq (d : DeckId) (w : World) :
    w.unbindDeck d =
      ((w.unbindDeckOnly d).deck d).cards.foldl (fun w c => w.unbindCard c)
        (w.unbindDeckOnly d) := rfl

lemma bindingsOnly_unbindDeckOnly (d : DeckId) (w : World) :
    w.BindingsOnly (w.unbindDeckOnly d) := by
  rw [unbindDeckOnly]
  split
  · refine BindingsOnly.trans ?_ (bindingsOnly_note _ _)
    exact (bindingsOnly_release _ w).trans (bindingsOnly_onDeck fun _ => rfl)
  · exact .refl w

lemma Coherent.unbindDeck (h : w.Coherent live stale) {d : DeckId}
    (cards : ∀ c ∈ (w.deck d).cards, live (.card c)) : (w.unbindDeck d).Coherent live stale := by
  have first : (w.unbindDeckOnly d).Coherent live stale := by
    rw [unbindDeckOnly]
    split
    · refine ((h.release (w.deck d).binding).onDeck d ?_).note _
      exact (h.release _).toOwned.tighten (tighter_onDeck d fun _ _ => .inl)
    · exact h
  rw [unbindDeck_eq, (bindingsOnly_unbindDeckOnly d w).deckCards_eq]
  exact Coherent.foldl _ (fun v c mem hv => hv.unbindCard (cards c mem)) first

/-- **A deck is attached after its cards.** -/
lemma Coherent.attachDeck (h : w.Coherent live stale) {d : DeckId}
    (cards : ∀ c ∈ (w.deck d).cards, live (.card c)) (s : StateId) :
    (w.attachDeck d s).Coherent live stale := by
  have unbound := h.unbindDeck cards
  have attached := Coherent.foldl ((w.unbindDeck d).deck d).cards
    (fun v c mem hv =>
      hv.bindOrSkip (cards c ((bindingsOnly_unbindDeck d w).deckCards_eq d ▸ mem)) s)
    unbound
  rw [World.attachDeck]
  refine ((attached.subscribeState s (.deck d)).onDeck d ?_).note _
  exact (attached.subscribeState s _).toOwned.tighten (tighter_onDeck d fun _ _ => .inl)

/-- **A node that can be bound, released and disposed of by itself**: no quality set has it as a
member, no card that is bound has it, and what it owns is alive. -/
def Movable (live : Handle → Prop) (w : World) : NodeId → Prop
  | .expr e => Unowned live w e
  | .set q => Loose live w q
  | .card c => live (.card c)
  | .deck d => ∀ c ∈ (w.deck d).cards, live (.card c)

lemma Coherent.bindNode (h : w.Coherent live stale) {n : NodeId} (movable : Movable live w n)
    (s : StateId) : (w.bindNode n s).1.Coherent live stale := by
  cases n with
  | expr e =>
      show (w.bindExpr e s).1.Coherent live stale
      rw [bindExpr]
      split
      · exact h
      · exact h.attachExpr movable.untied s
  | set q => exact h.bindSet movable s
  | card c => exact h.bindCard movable s
  | deck d =>
      show (w.bindDeck d s).1.Coherent live stale
      rw [bindDeck]
      split
      · exact h
      · exact h.attachDeck movable s

lemma Coherent.unbindNode (h : w.Coherent live stale) {n : NodeId} (movable : Movable live w n) :
    (w.unbindNode n).Coherent live stale := by
  cases n with
  | expr e => exact h.unbindExpr movable.untied
  | set q => exact h.unbindSet movable
  | card c => exact h.unbindCard movable
  | deck d => exact h.unbindDeck movable

/-! ## Disposing -/

lemma Coherent.disposeExpr (h : w.Coherent live stale) {e : ExprId} (unowned : Unowned live w e) :
    (w.disposeExpr e).Coherent live stale := by
  have unowned' := (sameSets_unbindExpr e w).unowned unowned
  have unbound := h.unbindExpr unowned.untied
  refine unbound.onExpr e (unbound.toFresh.keepExpr e (.same rfl rfl rfl)) unbound.bound ?_
    fun fresh => ⟨fresh, fun _ => rfl⟩
  rintro q m hq mem rfl
  exact absurd (List.mem_map_of_mem mem) (unowned' q hq)

lemma Coherent.forgetMember (h : w.Coherent live stale) {m : Member}
    (unowned : Unowned live w m.expr) : (w.forgetMember m).Coherent live stale := by
  refine h.onExpr m.expr (h.toFresh.keepExpr _ (.same rfl rfl rfl)) h.bound ?_
    fun fresh => ⟨fresh, fun _ => rfl⟩
  rintro q m' hq mem eq
  exact absurd (eq ▸ List.mem_map_of_mem mem) (unowned q hq)

lemma sameSets_forgetMember (m : Member) (w : World) : w.SameSets (w.forgetMember m) :=
  sameSets_onExpr _ _ w

lemma Coherent.foldMembers {step : World → Member → World}
    (same : ∀ (v : World) m, v.SameSets (step v m))
    (each : ∀ {v : World} {m : Member}, v.Coherent live stale → Unowned live v m.expr →
      (step v m).Coherent live stale)
    {ms : List Member} (h : w.Coherent live stale) (unowned : ∀ m ∈ ms, Unowned live w m.expr) :
    (ms.foldl step w).Coherent live stale := by
  induction ms generalizing w with
  | nil => exact h
  | cons m rest ih =>
      refine ih (each h (unowned m List.mem_cons_self)) fun other mem => ?_
      exact (same w m).unowned (unowned other (List.mem_cons_of_mem _ mem))

/-- Members that a set has let go of are disposed of. -/
lemma Coherent.disposeAll (h : w.Coherent live stale) {ms : List Member}
    (unowned : ∀ m ∈ ms, Unowned live w m.expr) :
    (ms.foldl (fun w m => w.forgetMember m)
      (ms.foldl (fun w m => w.disposeExpr m.expr) w)).Coherent live stale := by
  have same := SameSets.foldl (fun v (m : Member) => sameSets_disposeExpr m.expr v) ms w
  have disposed := h.foldMembers (fun v m => sameSets_disposeExpr m.expr v)
    (fun hv free => hv.disposeExpr free) unowned
  exact disposed.foldMembers (fun v m => sameSets_forgetMember m v)
    (fun hv free => hv.forgetMember free)
    fun m mem => same.unowned (unowned m mem)

/-- **A set is disposed of after it has let go of its members.** -/
lemma Coherent.disposeSet (h : w.Coherent live stale) {q : SetId} (loose : Loose live w q) :
    (w.disposeSet q).Coherent live stale := by
  have unbound := h.unbindSet loose
  have without := boundTo_unbindSet q w
  have emptied :
      ((w.unbindSet q).onSet q fun n => { n with members := [] }).Coherent live stale := by
    refine unbound.onSet q ?_ unbound.stamp unbound.watched ?_ ?_ ?_ ?_ fun _ => id
    · exact unbound.toOwned.tighten (tighter_onSet q fun _ => List.nil_sublist _)
    · intro s e _ _ _ mem
      cases mem
    · intro s value _ _ bound
      rw [show Option.map _ _ = none from without] at bound
      cases bound
    · intro m _ mem
      cases mem
    · intro c s hc eq bound alive
      have tied := unbound.card hc bound alive
      rw [eq, without] at tied
      cases tied
  have unowned : ∀ e ∈ (w.unbindSet q).members q,
      Unowned live ((w.unbindSet q).onSet q fun n => { n with members := [] }) e := by
    intro e mem other _ mem'
    rw [members, set_onSet] at mem'
    split at mem'
    · cases mem'
    · next elsewhere => exact elsewhere (unbound.oneSet mem mem')
  have members : ∀ m ∈ ((w.unbindSet q).set q).members,
      Unowned live ((w.unbindSet q).onSet q fun n => { n with members := [] }) m.expr :=
    fun m mem => unowned _ (List.mem_map_of_mem mem)
  exact (emptied.disposeAll members).keepSet q fun _ => rfl

lemma Coherent.disposeCard (h : w.Coherent live stale) {c : CardId} (hc : live (.card c)) :
    (w.disposeCard c).Coherent live stale := by
  have unbound := h.unbindCard hc
  have loose := unbound.loose_qualities hc (boundTo_unbindCard h c)
  exact (unbound.disposeSet loose).keepCard c (fun _ => rfl) fun _ => rfl

lemma Coherent.forgetEntry (h : w.Coherent live stale) (entry : Entry) :
    (w.forgetEntry entry).Coherent live stale :=
  h.keepCard entry.card (fun _ => rfl) fun _ => rfl

/-- **A deck is disposed of after it has let go of its cards.** -/
lemma Coherent.disposeDeck (h : w.Coherent live stale) {d : DeckId}
    (cards : ∀ c ∈ (w.deck d).cards, live (.card c)) : (w.disposeDeck d).Coherent live stale := by
  have unbound := h.unbindDeck cards
  have emptied := unbound.onDeck d (f := fun n => { n with entries := [] })
    (unbound.toOwned.tighten (tighter_onDeck d fun _ _ => nofun))
  have entries : ∀ entry ∈ ((w.unbindDeck d).deck d).entries, live (.card entry.card) := by
    intro entry mem
    refine cards _ ?_
    rw [← (bindingsOnly_unbindDeck d w).deckCards_eq]
    exact List.mem_map_of_mem mem
  have disposed :=
    Coherent.foldl _ (fun v (entry : Entry) mem hv => hv.disposeCard (entries entry mem))
    emptied
  have forgotten := Coherent.foldl ((w.unbindDeck d).deck d).entries
    (fun v entry _ hv => hv.forgetEntry entry) disposed
  refine Coherent.note (forgotten.onDeck d ?_) _
  exact forgotten.toOwned.tighten (tighter_onDeck d fun _ _ => .inl)

lemma Coherent.disposeNode (h : w.Coherent live stale) {n : NodeId} (movable : Movable live w n) :
    (w.disposeNode n).Coherent live stale := by
  cases n with
  | expr e => exact h.disposeExpr movable
  | set q => exact h.disposeSet movable
  | card c => exact h.disposeCard movable
  | deck d => exact h.disposeDeck movable

end StoryEngine.World
