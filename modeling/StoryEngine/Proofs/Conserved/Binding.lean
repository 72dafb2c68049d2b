import StoryEngine.Proofs.Conserved.Basic
import StoryEngine.Proofs.Transaction

/-!
# Binding and disposing of nodes keeps the account

A node that is released lets its number go, and one that is attached puts the number it gets into
its place.  What is disposed of drops all its listeners, and whoever still holds a number of it
holds one that does not count any more.

* `World.clears_unbindExpr`, `World.conserves_attachExpr`, `World.clears_disposeExpr`, and the same
  for quality sets, cards and decks.
* `World.conserves_bindNode`, `World.clears_unbindNode`, `World.clears_disposeNode` — nodes of any
  kind.
-/

namespace StoryEngine.World

variable {rest : Holdings} {w v : World}

/-! ## Remarks and bindings -/

lemma clears_note (n : Note) (w : World) : Clears [] rest rest w (w.note n) := by
  refine clears_of_same ?_ ?_
  · funext em
    cases em <;> rfl
  · funext h
    rcases h with l | e | q | c | d <;> rfl

/-- The subscription of a binding that is in hand ends. -/
lemma clears_release (h : Subscriber) (binding : Option Binding) (w : World) :
    Clears [] (Pi.single h (heldBy binding)) 0 w (w.release binding) := by
  cases binding with
  | none =>
      have nothing : (Pi.single h (heldBy none) : Holdings) = 0 := Pi.single_zero h
      rw [nothing]
      exact .refl w
  | some b => exact clears_unsubscribeFrom h (.state b.state) b.number w

/-! ## Expressions -/

lemma clears_unbindExpr (e : ExprId) (w : World) : Clears [] 0 0 w (w.unbindExpr e) := by
  have commuted : w.unbindExpr e =
      (w.onExpr e fun n => { n with binding := none, cache := .unbound }).release
        (w.expr e).binding := by
    rw [unbindExpr]
    cases (w.expr e).binding <;> rfl
  have out : Clears [] (Pi.single (.node (.expr e)) 0) (Pi.single _ (heldBy (w.expr e).binding)) w
      (w.onExpr e fun n => { n with binding := none, cache := .unbound }) :=
    clears_onExpr e (fun _ => rfl) (add_comm _ _)
  rw [Pi.single_zero] at out
  rw [commuted]
  exact out.trans (clears_release _ _ _)

lemma unbindExpr_binding (e : ExprId) (w : World) : ((w.unbindExpr e).expr e).binding = none := by
  rw [unbindExpr, expr_onExpr, if_pos rfl]

/-- An expression that is not bound puts the number that it was given into its place. -/
lemma conserves_placeExpr {e : ExprId} (unbound : (w.expr e).binding = none) (b : Binding)
    {f : ExprNode → ExprNode} (listeners : ∀ n, (f n).listeners = n.listeners)
    (bound : ∀ n, (f n).binding = some b) :
    Conserves (Pi.single (.node (.expr e)) {b.holding}) 0 w (w.onExpr e f) := by
  have placed : Clears [] (Pi.single (.node (.expr e)) {b.holding})
      (Pi.single (.node (.expr e)) 0) w
      (w.onExpr e f) := by
    refine clears_onExpr e listeners ?_
    rw [ExprNode.holdings, ExprNode.holdings, bound, unbound]
    exact add_comm _ _
  rw [Pi.single_zero] at placed
  exact placed.conserves

lemma conserves_attachExpr (e : ExprId) (s : StateId) (w : World) :
    Conserves 0 0 w (w.attachExpr e s) := by
  have unbound : (((w.unbindExpr e).subscribeState s (.expr e)).1.expr e).binding = none :=
    unbindExpr_binding e w
  refine (clears_unbindExpr e w).conserves.trans ?_
  refine (conserves_subscribeState s (.expr e) _).trans ?_
  exact conserves_placeExpr unbound ⟨s, _⟩ (fun _ => rfl) fun _ => rfl

/-- An expression drops all its listeners for good. -/
lemma clears_clearExpr (e : ExprId) {f : ExprNode → ExprNode}
    (listeners : ∀ n, (f n).listeners = n.listeners.clear)
    (holdings : ∀ n, (f n).holdings = n.holdings) :
    Clears [.expr e] rest rest w (w.onExpr e f) := by
  refine clears_of_clear ?_ ?_
  · rw [registry_onExpr, listeners]
    rfl
  · rw [holdings_onExpr, holdings]
    exact Function.update_eq_self _ _

lemma clears_disposeExpr (e : ExprId) (w : World) : Clears [.expr e] 0 0 w (w.disposeExpr e) :=
  (clears_unbindExpr e w).trans (clears_clearExpr e (fun _ => rfl) fun _ => rfl)

lemma clears_unbindExprs (es : List ExprId) (w : World) : Clears [] 0 0 w (w.unbindExprs es) :=
  Clears.foldl (fun w e => clears_unbindExpr e w) es w

lemma conserves_attachExprs (es : List ExprId) (s : StateId) (w : World) :
    Conserves 0 0 w (w.attachExprs es s) :=
  Conserves.foldl (fun w e _ => conserves_attachExpr e s w) w

/-! ## Quality sets -/

/-- A quality set is not bound any more, and what it held is in hand. -/
lemma clears_unbindSet (q : SetId) (w : World) : Clears [] 0 0 w (w.unbindSet q) := by
  have commuted : (w.release (w.set q).binding).onSet q (fun n => { n with binding := none }) =
      (w.onSet q fun n => { n with binding := none }).release (w.set q).binding := by
    cases (w.set q).binding <;> rfl
  have out : Clears [] (Pi.single (.node (.set q)) 0)
      (Pi.single (.node (.set q)) (heldBy (w.set q).binding)) w
      (w.onSet q fun n => { n with binding := none }) := by
    refine clears_onSet q (fun _ => rfl) ?_
    show 0 + _ + _ = _ + _ + 0
    rw [zero_add, add_zero, add_comm]
  rw [Pi.single_zero] at out
  have released := out.trans (clears_release _ _ _)
  rw [← commuted] at released
  refine Clears.after ?_ (clears_keepSet q (fun _ => rfl) fun _ => rfl)
  exact released.trans (clears_unbindExprs _ _)

lemma unbindSet_binding (q : SetId) (w : World) : ((w.unbindSet q).set q).binding = none := by
  rw [unbindSet, set_onSet, if_pos rfl, (sameSets_unbindExprs _ _).set_eq, set_onSet, if_pos rfl]

lemma set_subscribeState (s : StateId) (l : StateListener) (q : SetId) (w : World) :
    (w.subscribeState s l).1.set q = w.set q :=
  rfl

/-- A quality set that is not bound puts the number that it was given into its place. -/
lemma conserves_placeSet {q : SetId} (unbound : (w.set q).binding = none) (b : Binding)
    {f : SetNode → SetNode} (listeners : ∀ n, (f n).listeners = n.listeners)
    (members : ∀ n, (f n).members = n.members) (bound : ∀ n, (f n).binding = some b) :
    Conserves (Pi.single (.node (.set q)) {b.holding}) 0 w (w.onSet q f) := by
  have placed : Clears [] (Pi.single (.node (.set q)) {b.holding})
      (Pi.single (.node (.set q)) 0) w (w.onSet q f) := by
    refine clears_onSet q listeners ?_
    rw [SetNode.holdings, SetNode.holdings, bound, unbound, members, add_zero, add_comm]
    exact congrArg (· + _) (zero_add _).symm
  rw [Pi.single_zero] at placed
  exact placed.conserves

lemma conserves_attachSet (q : SetId) (s : StateId) (w : World) :
    Conserves 0 0 w (w.attachSet q s) := by
  have unbound : ((((w.unbindSet q).attachExprs ((w.unbindSet q).members q) s).subscribeState s
      (.set q)).1.set q).binding = none := by
    rw [set_subscribeState, (sameSets_attachExprs _ s _).set_eq, unbindSet_binding]
  refine Conserves.trans ?_ <|
    conserves_placeSet unbound ⟨s, _⟩ (fun _ => rfl) (fun _ => rfl) fun _ => rfl
  refine Conserves.trans ?_ (conserves_subscribeState s (.set q) _)
  exact (clears_unbindSet q w).conserves.trans (conserves_attachExprs _ s _)

lemma conserves_bindSet (q : SetId) (s : StateId) (w : World) :
    Conserves 0 0 w (w.bindSet q s).1 := by
  unfold bindSet
  split
  · exact .refl w
  · exact conserves_attachSet q s w

/-- A quality set drops all its listeners for good. -/
lemma clears_clearSet (q : SetId) {f : SetNode → SetNode}
    (listeners : ∀ n, (f n).listeners = n.listeners.clear)
    (holdings : ∀ n, (f n).holdings = n.holdings) : Clears [.set q] rest rest w (w.onSet q f) := by
  refine clears_of_clear ?_ ?_
  · rw [registry_onSet, listeners]
    rfl
  · rw [holdings_onSet, holdings]
    exact Function.update_eq_self _ _

/-- The subscriptions to members that are in hand end. -/
lemma clears_forgetMembers (h : Subscriber) (ms : List Member) (w : World) :
    Clears [] (Pi.single h ↑(ms.map Member.holding)) 0 w
      (ms.foldl (fun w m => w.forgetMember m) w) := by
  induction ms generalizing w with
  | nil =>
      have nothing : (Pi.single h ↑([].map Member.holding) : Holdings) = 0 := Pi.single_zero h
      rw [nothing]
      exact .refl w
  | cons m ms ih =>
      have parts : (Pi.single h ↑((m :: ms).map Member.holding) : Holdings) =
          Pi.single h ↑(ms.map Member.holding) + Pi.single h {m.holding} := by
        rw [← Pi.single_add, add_comm]
        rfl
      have first : Clears [] (Pi.single h ↑(ms.map Member.holding) + Pi.single h {m.holding})
          (Pi.single h ↑(ms.map Member.holding) + 0) w (w.forgetMember m) :=
        (clears_unsubscribeFrom h (.expr m.expr) m.number w).frame
      rw [add_zero] at first
      rw [parts]
      exact first.trans (ih _)

lemma clears_disposeMembers (ms : List Member) (w : World) :
    Clears (ms.map fun m => .expr m.expr) 0 0 w
      (ms.foldl (fun w m => w.disposeExpr m.expr) w) := by
  induction ms generalizing w with
  | nil => exact .refl w
  | cons m ms ih => exact (clears_disposeExpr m.expr w).trans (ih _)

/-- A quality set that is not bound has no members any more, and what it held of them is in hand. -/
lemma clears_emptySet {q : SetId} (unbound : (w.set q).binding = none) :
    Clears [] 0 (Pi.single (.node (.set q)) ↑((w.set q).members.map Member.holding)) w
      (w.onSet q fun n => { n with members := [] }) := by
  have out : Clears [] (Pi.single (.node (.set q)) 0)
      (Pi.single (.node (.set q)) ↑((w.set q).members.map Member.holding)) w
      (w.onSet q fun n => { n with members := [] }) := by
    refine clears_onSet q (fun _ => rfl) ?_
    rw [SetNode.holdings, SetNode.holdings, unbound, add_zero]
    exact congrArg (· + _) (add_zero _)
  rwa [Pi.single_zero] at out

/-- **A quality set is disposed of**, and its members with it. -/
lemma clears_disposeSet (q : SetId) (w : World) :
    Clears (w.setAndMembers q) 0 0 w (w.disposeSet q) := by
  have members : ((w.unbindSet q).set q).members = (w.set q).members :=
    (bindingsOnly_unbindSet q w).setMembers_eq q
  have emptied := (clears_unbindSet q w).before (clears_emptySet (unbindSet_binding q w))
  have disposed := emptied.before
    (clears_disposeMembers ((w.unbindSet q).set q).members _).frame_zero
  have forgotten := disposed.after
    (clears_forgetMembers _ ((w.unbindSet q).set q).members _)
  have cleared : Clears (_ ++ [.set q]) 0 0 w (w.disposeSet q) :=
    forgotten.trans (clears_clearSet q (fun _ => rfl) fun _ => rfl)
  refine cleared.congr fun n => ?_
  rw [members, setAndMembers, World.members, List.map_map]
  simp [Function.comp_def, or_comm]

/-! ## Cards -/

lemma exist_of_bound {c : CardId} (bound : (w.card c).binding.isSome) :
    c.place < w.cards.size := by
  by_contra out
  rw [card, Table.get_of_size_le (Nat.le_of_not_lt out)] at bound
  cases bound

lemma clears_unbindCard (c : CardId) (w : World) : Clears [] 0 0 w (w.unbindCard c) := by
  refine Clears.after ?_ (clears_unbindSet _ _)
  split
  · next bound =>
      refine Clears.after ?_ (clears_note _ _)
      exact clears_keepCard (exist_of_bound bound) (fun _ => rfl) fun _ => rfl
  · exact .refl w

/-- **A card is attached.**  It has no subscription of its own. -/
lemma conserves_attachCard {c : CardId} (exist : c.place < w.cards.size) (s : StateId) :
    Conserves 0 0 w (w.attachCard c s) := by
  have unbound := (clears_unbindCard c w).conserves
  have bound := conserves_bindSet ((w.unbindCard c).card c).qualities s (w.unbindCard c)
  have cards := (sameCards_bindSet ((w.unbindCard c).card c).qualities s (w.unbindCard c)).cards
  have grown := (bindingsOnly_unbindCard c w).cards
  unfold attachCard
  dsimp only
  rcases done : (w.unbindCard c).bindSet ((w.unbindCard c).card c).qualities s with
    ⟨v, fault | _⟩
  all_goals rw [done] at bound cards
  · exact (unbound.trans bound).trans (clears_note _ _).conserves
  · have exist : c.place < v.cards.size := cards ▸ Nat.lt_of_lt_of_le exist grown
    refine (unbound.trans bound).trans (Conserves.trans ?_ (clears_note _ _).conserves)
    refine Clears.conserves ?_
    exact clears_keepCard exist (fun _ => rfl) fun _ => rfl

lemma conserves_bindCard {c : CardId} (exist : c.place < w.cards.size) (s : StateId) :
    Conserves 0 0 w (w.bindCard c s).1 := by
  unfold bindCard
  split
  · exact .refl w
  · dsimp only
    exact conserves_attachCard exist s

/-- A card drops all its listeners for good. -/
lemma clears_clearCard {c : CardId} (exist : c.place < w.cards.size) {f : CardNode → CardNode}
    (listeners : ∀ n, (f n).listeners = n.listeners.clear)
    (holdings : ∀ n, (f n).holdings = n.holdings) :
    Clears [.card c] rest rest w (w.onCard c f) := by
  have before : w.holdings (.node (.card c)) = (w.card c).holdings := if_pos exist
  refine clears_of_clear ?_ ?_
  · rw [registry_onCard, listeners]
    rfl
  · rw [holdings_onCard exist, holdings, ← before]
    exact Function.update_eq_self _ _

lemma setAndMembers_unbindCard (c : CardId) (q : SetId) (w : World) :
    (w.unbindCard c).setAndMembers q = w.setAndMembers q := by
  rw [setAndMembers, (bindingsOnly_unbindCard c w).members_eq]
  rfl

/-- **A card is disposed of**, and its quality set with it. -/
lemma clears_disposeCard {c : CardId} (exist : c.place < w.cards.size) :
    Clears (w.cardAndQualities c) 0 0 w (w.disposeCard c) := by
  have only := bindingsOnly_unbindCard c w
  have disposed := (clears_unbindCard c w).before
    (clears_disposeSet ((w.unbindCard c).card c).qualities _)
  have tight : World.Tighter (fun _ => False) (w.unbindCard c)
      ((w.unbindCard c).disposeSet ((w.unbindCard c).card c).qualities) := tighter_disposeSet _ _
  have exist := Nat.lt_of_lt_of_le exist (Nat.le_trans only.cards tight.cards)
  have cleared : Clears (_ ++ [.card c]) 0 0 w (w.disposeCard c) :=
    disposed.trans (clears_clearCard exist (fun _ => rfl) fun _ => rfl)
  refine cleared.congr fun n => ?_
  rw [setAndMembers_unbindCard, only.qualities_eq, cardAndQualities]
  simp [or_comm]

/-! ## Decks -/

lemma conserves_bindOrSkip (s : StateId) {c : CardId} (exist : c.place < w.cards.size) :
    Conserves 0 0 w (bindOrSkip s w c) := by
  have bound := conserves_bindCard exist s
  unfold bindOrSkip
  rcases done : w.bindCard c s with ⟨v, fault | _⟩
  all_goals rw [done] at bound
  · exact bound.trans (clears_note _ _).conserves
  · exact bound

/-- Work on cards that exist, as long as no card vanishes. -/
lemma Conserves.foldCards {step : World → CardId → World} {cards : List CardId}
    (h : ∀ {w c}, c.place < w.cards.size → Conserves 0 0 w (step w c))
    (grown : ∀ w c, w.cards.size ≤ (step w c).cards.size)
    (exist : ∀ c ∈ cards, c.place < w.cards.size) :
    Conserves 0 0 w (cards.foldl step w) := by
  induction cards generalizing w with
  | nil => exact .refl w
  | cons c cards ih =>
      refine (h (exist c List.mem_cons_self)).trans (ih fun c' mem => ?_)
      exact Nat.lt_of_lt_of_le (exist c' (.tail _ mem)) (grown w c)

lemma conserves_bindAll (s : StateId) {cards : List CardId}
    (exist : ∀ c ∈ cards, c.place < w.cards.size) :
    Conserves 0 0 w (cards.foldl (bindOrSkip s) w) :=
  Conserves.foldCards (conserves_bindOrSkip s) (fun w c => (bindingsOnly_bindOrSkip s w c).cards)
    exist

/-- What a deck held by its binding is in hand when it is not bound any more, and ends. -/
lemma clears_unbindDeckOnly (d : DeckId) (w : World) : Clears [] 0 0 w (w.unbindDeckOnly d) := by
  have commuted : (w.release (w.deck d).binding).onDeck d (fun n => { n with binding := none }) =
      (w.onDeck d fun n => { n with binding := none }).release (w.deck d).binding := by
    cases (w.deck d).binding <;> rfl
  have out : Clears [] (Pi.single (.node (.deck d)) 0)
      (Pi.single (.node (.deck d)) (heldBy (w.deck d).binding)) w
      (w.onDeck d fun n => { n with binding := none }) := by
    refine clears_onDeck d (fun _ => rfl) ?_
    show 0 + _ + _ = _ + _ + 0
    rw [zero_add, add_zero, add_comm]
  rw [Pi.single_zero] at out
  have released := out.trans (clears_release _ _ _)
  rw [← commuted] at released
  unfold unbindDeckOnly
  split
  · exact released.trans (clears_note _ _)
  · exact .refl w

lemma unbindDeckOnly_binding (d : DeckId) (w : World) :
    ((w.unbindDeckOnly d).deck d).binding = none := by
  unfold unbindDeckOnly
  split
  · exact congrArg DeckNode.binding ((deck_onDeck _ _ _ _).trans (if_pos rfl))
  · next unbound => simpa using unbound

lemma clears_unbindDeck (d : DeckId) (w : World) : Clears [] 0 0 w (w.unbindDeck d) := by
  rw [unbindDeck_eq]
  exact (clears_unbindDeckOnly d w).trans (Clears.foldl (fun w c => clears_unbindCard c w) _ _)

/-! Work on cards leaves decks as they are. -/

lemma foldl_decks {β : Type} {step : World → β → World}
    (h : ∀ w b, (step w b).decks = w.decks) (bs : List β) (w : World) :
    (bs.foldl step w).decks = w.decks := by
  induction bs generalizing w with
  | nil => rfl
  | cons b bs ih => exact (ih _).trans (h w b)

lemma unbindCard_decks (c : CardId) (w : World) : (w.unbindCard c).decks = w.decks := by
  refine (sameCards_unbindSet _ _).decks.trans ?_
  split <;> rfl

lemma attachCard_decks (c : CardId) (s : StateId) (w : World) :
    (w.attachCard c s).decks = w.decks := by
  have bound := (sameCards_bindSet ((w.unbindCard c).card c).qualities s (w.unbindCard c)).decks
  rw [unbindCard_decks] at bound
  unfold attachCard
  dsimp only
  rcases done : (w.unbindCard c).bindSet ((w.unbindCard c).card c).qualities s with
    ⟨v, fault | _⟩
  all_goals rw [done] at bound
  all_goals exact bound

lemma bindCard_decks (c : CardId) (s : StateId) (w : World) :
    (w.bindCard c s).1.decks = w.decks := by
  unfold bindCard
  split
  · rfl
  · exact attachCard_decks c s w

lemma bindOrSkip_decks (s : StateId) (w : World) (c : CardId) :
    (bindOrSkip s w c).decks = w.decks := by
  have bound := bindCard_decks c s w
  unfold bindOrSkip
  rcases done : w.bindCard c s with ⟨v, fault | _⟩
  all_goals rw [done] at bound
  all_goals exact bound

lemma unbindDeck_binding (d : DeckId) (w : World) : ((w.unbindDeck d).deck d).binding = none := by
  rw [unbindDeck_eq, deck, foldl_decks fun w c => unbindCard_decks c w]
  exact unbindDeckOnly_binding d w

lemma deck_subscribeState (s : StateId) (l : StateListener) (d : DeckId) (w : World) :
    (w.subscribeState s l).1.deck d = w.deck d :=
  rfl

/-- A deck that is not bound puts the number that it was given into its place. -/
lemma conserves_placeDeck {d : DeckId} (unbound : (w.deck d).binding = none) (b : Binding)
    {f : DeckNode → DeckNode} (listeners : ∀ n, (f n).listeners = n.listeners)
    (entries : ∀ n, (f n).entries = n.entries) (bound : ∀ n, (f n).binding = some b) :
    Conserves (Pi.single (.node (.deck d)) {b.holding}) 0 w (w.onDeck d f) := by
  have placed : Clears [] (Pi.single (.node (.deck d)) {b.holding})
      (Pi.single (.node (.deck d)) 0) w (w.onDeck d f) := by
    refine clears_onDeck d listeners ?_
    rw [DeckNode.holdings, DeckNode.holdings, bound, unbound, entries, add_zero, add_comm]
    exact congrArg (· + _) (zero_add _).symm
  rw [Pi.single_zero] at placed
  exact placed.conserves

/-- **A deck is attached**, and its cards with it. -/
lemma conserves_attachDeck {d : DeckId} (exist : ∀ c ∈ (w.deck d).cards, c.place < w.cards.size)
    (s : StateId) : Conserves 0 0 w (w.attachDeck d s) := by
  have only := bindingsOnly_unbindDeck d w
  have exist : ∀ c ∈ ((w.unbindDeck d).deck d).cards, c.place < (w.unbindDeck d).cards.size := by
    intro c mem
    rw [only.deckCards_eq] at mem
    exact Nat.lt_of_lt_of_le (exist c mem) only.cards
  have unbound : (((((w.unbindDeck d).deck d).cards.foldl (bindOrSkip s)
      (w.unbindDeck d)).subscribeState s (.deck d)).1.deck d).binding = none := by
    rw [deck_subscribeState, deck, foldl_decks (bindOrSkip_decks s)]
    exact unbindDeck_binding d w
  refine Conserves.trans ?_ (clears_note _ _).conserves
  refine Conserves.trans ?_ <|
    conserves_placeDeck unbound ⟨s, _⟩ (fun _ => rfl) (fun _ => rfl) fun _ => rfl
  refine Conserves.trans ?_ (conserves_subscribeState s (.deck d) _)
  exact (clears_unbindDeck d w).conserves.trans (conserves_bindAll s exist)

lemma conserves_bindDeck {d : DeckId} (exist : ∀ c ∈ (w.deck d).cards, c.place < w.cards.size)
    (s : StateId) : Conserves 0 0 w (w.bindDeck d s).1 := by
  unfold bindDeck
  split
  · exact .refl w
  · exact conserves_attachDeck exist s

/-- A deck has other places, in exchange for those it had. -/
lemma clears_exchangeEntries (d : DeckId) {f : DeckNode → DeckNode}
    (listeners : ∀ n, (f n).listeners = n.listeners) (binding : ∀ n, (f n).binding = n.binding)
    (taken left : List Entry)
    (moved : ((f (w.deck d)).entries ++ left).Perm ((w.deck d).entries ++ taken)) :
    Clears [] (Pi.single (.node (.deck d)) ↑(taken.map Entry.holding))
      (Pi.single (.node (.deck d)) ↑(left.map Entry.holding)) w (w.onDeck d f) := by
  refine clears_onDeck d listeners ?_
  rw [DeckNode.holdings, DeckNode.holdings, binding, add_assoc, add_assoc, Multiset.coe_add,
    Multiset.coe_add, ← List.map_append, ← List.map_append]
  exact congrArg _ (Multiset.coe_eq_coe.2 (moved.map _))

/-- The subscriptions to cards that are in hand end. -/
lemma clears_forgetEntries (h : Subscriber) (entries : List Entry) (w : World) :
    Clears [] (Pi.single h ↑(entries.map Entry.holding)) 0 w
      (entries.foldl (fun w entry => w.forgetEntry entry) w) := by
  induction entries generalizing w with
  | nil =>
      have nothing : (Pi.single h ↑([].map Entry.holding) : Holdings) = 0 := Pi.single_zero h
      rw [nothing]
      exact .refl w
  | cons entry entries ih =>
      have parts : (Pi.single h ↑((entry :: entries).map Entry.holding) : Holdings) =
          Pi.single h ↑(entries.map Entry.holding) + Pi.single h {entry.holding} := by
        rw [← Pi.single_add, add_comm]
        rfl
      have first : Clears [] (Pi.single h ↑(entries.map Entry.holding) +
          Pi.single h {entry.holding}) (Pi.single h ↑(entries.map Entry.holding) + 0) w
          (w.forgetEntry entry) :=
          (clears_unsubscribeFrom h (.card entry.card) entry.number w).frame
      rw [add_zero] at first
      rw [parts]
      exact first.trans (ih _)

/-! ### What is disposed of with a deck -/

/-- To dispose of a quality set takes no members from any other. -/
lemma disposeSet_members {q other : SetId} (ne : q ≠ other) (w : World) :
    (w.disposeSet q).members other = w.members other := by
  have exprs := SameSets.foldl (fun w (m : Member) => sameSets_disposeExpr m.expr w)
    ((w.unbindSet q).set q).members ((w.unbindSet q).onSet q fun n => { n with members := [] })
  have forgot := SameSets.foldl (fun w m => sameSets_forgetMember m w)
    ((w.unbindSet q).set q).members (((w.unbindSet q).set q).members.foldl
      (fun w m => w.disposeExpr m.expr) ((w.unbindSet q).onSet q fun n => { n with members := [] }))
  rw [disposeSet, members, set_onSet, if_neg ne, (exprs.trans forgot).set_eq, set_onSet, if_neg ne]
  exact (bindingsOnly_unbindSet q w).members_eq other

lemma members_onCard (c : CardId) (f : CardNode → CardNode) (q : SetId) (w : World) :
    (w.onCard c f).members q = w.members q :=
  rfl

lemma disposeCard_members {c : CardId} {other : SetId} (ne : (w.card c).qualities ≠ other) :
    (w.disposeCard c).members other = w.members other := by
  have only := bindingsOnly_unbindCard c w
  rw [← only.qualities_eq] at ne
  rw [disposeCard, members_onCard, disposeSet_members ne, only.members_eq]

/-- After a card is disposed of there is less to dispose of with others, but all in all it comes to
the same. -/
lemma mem_cardAndQualities_disposeCard (c c' : CardId) (n : NodeId) (w : World) :
    n ∈ w.cardAndQualities c ∨ n ∈ (w.disposeCard c).cardAndQualities c' ↔
      n ∈ w.cardAndQualities c ∨ n ∈ w.cardAndQualities c' := by
  have tight : w.Tighter (fun _ => False) (w.disposeCard c) := tighter_disposeCard c w
  simp only [cardAndQualities, setAndMembers, tight.qualities]
  by_cases same : (w.card c).qualities = (w.card c').qualities
  · have fewer := (tight.members (w.card c').qualities).subset
    rw [same]
    simp only [List.mem_cons, List.mem_map]
    constructor
    · rintro (was | rfl | rfl | ⟨e, mem, rfl⟩)
      · exact .inl was
      · exact .inr (.inl rfl)
      · exact .inr (.inr (.inl rfl))
      · exact .inr (.inr (.inr ⟨e, fewer mem, rfl⟩))
    · rintro (was | rfl | rest)
      · exact .inl was
      · exact .inr (.inl rfl)
      · exact .inl (.inr rest)
  · rw [disposeCard_members same]

lemma clears_disposeCards {entries : List Entry}
    (exist : ∀ entry ∈ entries, entry.card.place < w.cards.size) :
    Clears ((entries.map (·.card)).flatMap w.cardAndQualities) 0 0 w
      (entries.foldl (fun w entry => w.disposeCard entry.card) w) := by
  induction entries generalizing w with
  | nil => exact .refl w
  | cons entry entries ih =>
      have tight : w.Tighter (fun _ => False) (w.disposeCard entry.card) := tighter_disposeCard _ w
      have first := clears_disposeCard (exist entry List.mem_cons_self)
      have others := ih (w := w.disposeCard entry.card) fun other mem =>
        Nat.lt_of_lt_of_le (exist other (.tail _ mem)) tight.cards
      rw [List.foldl_cons]
      refine (first.trans others).congr fun n => ?_
      rw [List.map_cons, List.flatMap_cons, List.mem_append, List.mem_append, List.mem_flatMap,
        List.mem_flatMap]
      have same := mem_cardAndQualities_disposeCard entry.card (n := n) (w := w)
      constructor
      · rintro (here | ⟨c, mem, there⟩)
        · exact .inl here
        · exact ((same c).1 (.inr there)).imp_right fun was => ⟨c, mem, was⟩
      · rintro (here | ⟨c, mem, there⟩)
        · exact .inl here
        · exact ((same c).2 (.inr there)).imp_right fun still => ⟨c, mem, still⟩

/-- A deck drops all its listeners for good. -/
lemma clears_clearDeck (d : DeckId) {f : DeckNode → DeckNode}
    (listeners : ∀ n, (f n).listeners = n.listeners.clear)
    (holdings : ∀ n, (f n).holdings = n.holdings) :
    Clears [.deck d] rest rest w (w.onDeck d f) := by
  refine clears_of_clear ?_ ?_
  · rw [registry_onDeck, listeners]
    rfl
  · rw [holdings_onDeck, holdings]
    exact Function.update_eq_self _ _

lemma cardAndQualities_onDeck (d : DeckId) (f : DeckNode → DeckNode) (w : World) :
    (w.onDeck d f).cardAndQualities = w.cardAndQualities :=
  rfl

lemma cardAndQualities_unbindDeck (d : DeckId) (w : World) :
    (w.unbindDeck d).cardAndQualities = w.cardAndQualities := by
  have only := bindingsOnly_unbindDeck d w
  funext c
  rw [cardAndQualities, setAndMembers, only.qualities_eq, only.members_eq]
  rfl

/-- **A deck is disposed of**, and its cards with it. -/
lemma clears_disposeDeck {d : DeckId} (exist : ∀ c ∈ (w.deck d).cards, c.place < w.cards.size) :
    Clears (w.disposedWith (.deck d)) 0 0 w (w.disposeDeck d) := by
  have only := bindingsOnly_unbindDeck d w
  have cards : ((w.unbindDeck d).deck d).entries.map (·.card) = (w.deck d).cards :=
    only.deckCards_eq d
  have out : Clears [] (Pi.single (.node (.deck d)) ↑([].map Entry.holding))
      (Pi.single (.node (.deck d)) ↑(((w.unbindDeck d).deck d).entries.map Entry.holding))
      (w.unbindDeck d) ((w.unbindDeck d).onDeck d fun n => { n with entries := [] }) := by
    refine clears_exchangeEntries d (f := fun n => { n with entries := [] }) (fun _ => rfl)
      (fun _ => rfl) [] ((w.unbindDeck d).deck d).entries ?_
    rw [List.append_nil]
    rfl
  rw [List.map_nil, Multiset.coe_nil, Pi.single_zero] at out
  have exist : ∀ entry ∈ ((w.unbindDeck d).deck d).entries,
      entry.card.place < ((w.unbindDeck d).onDeck d fun n =>
        { n with entries := [] }).cards.size := by
    intro entry mem
    refine Nat.lt_of_lt_of_le (exist entry.card ?_) only.cards
    rw [← cards]
    exact List.mem_map_of_mem mem
  have disposed := ((clears_unbindDeck d w).before out).before
    (clears_disposeCards exist).frame_zero
  have forgotten := disposed.after
    (clears_forgetEntries _ ((w.unbindDeck d).deck d).entries _)
  have cleared := (forgotten.trans (clears_clearDeck d (f := fun n =>
    { n with listeners := n.listeners.clear, disposed := true }) (fun _ => rfl) fun _ => rfl)).after
      (clears_note .deckDisposed _)
  refine Clears.congr cleared fun n => ?_
  rw [cards, cardAndQualities_onDeck, cardAndQualities_unbindDeck, disposedWith]
  simp [or_comm]

/-! ## Nodes of any kind -/

/-- **A node is bound.** -/
theorem conserves_bindNode (exist : w.CardsExist) {n : NodeId} (alive : w.Alive n.handle)
    (s : StateId) : Conserves 0 0 w (w.bindNode n s).1 := by
  cases n with
  | expr e =>
      show Conserves 0 0 w (w.bindExpr e s).1
      unfold bindExpr
      split
      · exact .refl w
      · exact conserves_attachExpr e s w
  | set q => exact conserves_bindSet q s w
  | card c => exact conserves_bindCard (exist.bounded alive) s
  | deck d => exact conserves_bindDeck (fun c mem => exist.entry mem) s

/-- **A node is released.** -/
theorem clears_unbindNode (n : NodeId) (w : World) : Clears [] 0 0 w (w.unbindNode n) := by
  cases n with
  | expr e => exact clears_unbindExpr e w
  | set q => exact clears_unbindSet q w
  | card c => exact clears_unbindCard c w
  | deck d => exact clears_unbindDeck d w

/-- **A node is disposed of**, and what it owns with it. -/
theorem clears_disposeNode (exist : w.CardsExist) {n : NodeId} (alive : w.Alive n.handle) :
    Clears (w.disposedWith n) 0 0 w (w.disposeNode n) := by
  cases n with
  | expr e => exact clears_disposeExpr e w
  | set q => exact clears_disposeSet q w
  | card c => exact clears_disposeCard (exist.bounded alive)
  | deck d => exact clears_disposeDeck fun c mem => exist.entry mem

end StoryEngine.World
