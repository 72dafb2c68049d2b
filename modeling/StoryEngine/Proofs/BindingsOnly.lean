import StoryEngine.Proofs.CachesOnly
import StoryEngine.World.Lifecycle

/-!
# Binding changes bindings only

To bind and to release nodes touches their bindings, caches and gates, and the registries of states.
Who owns whom, who listens to which node and what a state contains stays as it was.

* **`World.BindingsOnly`** — two worlds that differ in nothing else.
* `World.bindingsOnly_unbindExpr` and its like — all ways of binding and releasing are of this kind.
* `World.BindingsOnly.members_eq`, `World.BindingsOnly.deckCards_eq`, … — what such worlds have in
  common.
-/

namespace StoryEngine.World

/-- **Worlds that differ only in bindings**, caches, gates and registries of states. -/
structure BindingsOnly (w w' : World) : Prop where
  store : ∀ s, w'.store s = { w.store s with listeners := (w'.store s).listeners }
  expr : ∀ e, w'.expr e = { w.expr e with
    binding := (w'.expr e).binding, cache := (w'.expr e).cache, gate := (w'.expr e).gate }
  set : ∀ q, w'.set q = { w.set q with
    binding := (w'.set q).binding, cache := (w'.set q).cache, gate := (w'.set q).gate }
  card : ∀ c, w'.card c = { w.card c with
    binding := (w'.card c).binding, gate := (w'.card c).gate }
  deck : ∀ d, w'.deck d = { w.deck d with
    binding := (w'.deck d).binding, gate := (w'.deck d).gate }
  boards : w'.boards = w.boards
  listeners : w'.listeners = w.listeners
  names : w'.names = w.names
  held : w'.held = w.held
  exprs : w.exprs.size ≤ w'.exprs.size
  sets : w.sets.size ≤ w'.sets.size
  cards : w.cards.size ≤ w'.cards.size

lemma BindingsOnly.refl (w : World) : w.BindingsOnly w :=
  ⟨fun _ => rfl, fun _ => rfl, fun _ => rfl, fun _ => rfl, fun _ => rfl, rfl, rfl, rfl, rfl,
    Nat.le_refl _, Nat.le_refl _, Nat.le_refl _⟩

lemma BindingsOnly.trans {w w' w'' : World} (h : w.BindingsOnly w') (h' : w'.BindingsOnly w'') :
    w.BindingsOnly w'' where
  store s := by rw [h'.store s, h.store s]
  expr e := by rw [h'.expr e, h.expr e]
  set q := by rw [h'.set q, h.set q]
  card c := by rw [h'.card c, h.card c]
  deck d := by rw [h'.deck d, h.deck d]
  boards := h'.boards.trans h.boards
  listeners := h'.listeners.trans h.listeners
  names := h'.names.trans h.names
  held := h'.held.trans h.held
  exprs := Nat.le_trans h.exprs h'.exprs
  sets := Nat.le_trans h.sets h'.sets
  cards := Nat.le_trans h.cards h'.cards

lemma BindingsOnly.foldl {β : Type} {step : World → β → World}
    (h : ∀ (w : World) b, w.BindingsOnly (step w b)) (bs : List β) (w : World) :
    w.BindingsOnly (bs.foldl step w) := by
  induction bs generalizing w with
  | nil => exact .refl w
  | cons b bs ih => exact (h w b).trans (ih _)

lemma CachesOnly.bindingsOnly {w w' : World} (h : w.CachesOnly w') : w.BindingsOnly w' where
  store s := by rw [h.store_eq s]
  expr e := by rw [h.expr e]
  set q := by rw [h.set q]
  card c := by rw [h.card_eq c]
  deck d := by rw [h.deck_eq d]
  boards := h.boards
  listeners := h.listeners
  names := h.names
  held := h.held
  exprs := h.exprs
  sets := h.sets
  cards := Nat.le_of_eq (by rw [h.cards])

/-! ## Single changes -/

lemma bindingsOnly_note (n : Note) (w : World) : w.BindingsOnly (w.note n) :=
  (cachesOnly_note n w).bindingsOnly

section
variable {w : World}

lemma bindingsOnly_onStore {s : StateId} {f : Store → Store}
    (h : ∀ st, f st = { st with listeners := (f st).listeners }) :
    w.BindingsOnly (w.onStore s f) :=
  { BindingsOnly.refl w with
    store := by
      intro other
      rw [store_onStore]
      split
      · exact h _
      · rfl }

lemma bindingsOnly_onExpr {e : ExprId} {f : ExprNode → ExprNode}
    (h : ∀ n, f n = { n with binding := (f n).binding, cache := (f n).cache, gate := (f n).gate }) :
    w.BindingsOnly (w.onExpr e f) :=
  { BindingsOnly.refl w with
    exprs := Table.size_le_modify _ _ _
    expr := by
      intro other
      rw [expr_onExpr]
      split
      · exact h _
      · rfl }

lemma bindingsOnly_onSet {q : SetId} {f : SetNode → SetNode}
    (h : ∀ n, f n = { n with binding := (f n).binding, cache := (f n).cache, gate := (f n).gate }) :
    w.BindingsOnly (w.onSet q f) :=
  { BindingsOnly.refl w with
    sets := Table.size_le_modify _ _ _
    set := by
      intro other
      rw [set_onSet]
      split
      · exact h _
      · rfl }

lemma bindingsOnly_onCard {c : CardId} {f : CardNode → CardNode}
    (h : ∀ n, f n = { n with binding := (f n).binding, gate := (f n).gate }) :
    w.BindingsOnly (w.onCard c f) :=
  { BindingsOnly.refl w with
    cards := Table.size_le_modify _ _ _
    card := by
      intro other
      rw [card_onCard]
      split
      · exact h _
      · rfl }

lemma bindingsOnly_onDeck {d : DeckId} {f : DeckNode → DeckNode}
    (h : ∀ n, f n = { n with binding := (f n).binding, gate := (f n).gate }) :
    w.BindingsOnly (w.onDeck d f) :=
  { BindingsOnly.refl w with
    deck := by
      intro other
      rw [deck_onDeck]
      split
      · exact h _
      · rfl }

end

/-! ## Binding and releasing -/

lemma bindingsOnly_subscribeState (s : StateId) (l : StateListener) (w : World) :
    w.BindingsOnly (w.subscribeState s l).1 :=
  bindingsOnly_onStore fun _ => rfl

lemma bindingsOnly_release (binding : Option Binding) (w : World) :
    w.BindingsOnly (w.release binding) := by
  cases binding with
  | none => exact .refl w
  | some b => exact bindingsOnly_onStore fun _ => rfl

lemma bindingsOnly_unbindExpr (e : ExprId) (w : World) : w.BindingsOnly (w.unbindExpr e) :=
  (bindingsOnly_release _ w).trans (bindingsOnly_onExpr fun _ => rfl)

lemma bindingsOnly_attachExpr (e : ExprId) (s : StateId) (w : World) :
    w.BindingsOnly (w.attachExpr e s) := by
  refine BindingsOnly.trans ?_ (bindingsOnly_onExpr fun _ => rfl)
  exact (bindingsOnly_unbindExpr e w).trans (bindingsOnly_subscribeState s _ _)

lemma bindingsOnly_unbindSet (q : SetId) (w : World) : w.BindingsOnly (w.unbindSet q) := by
  refine BindingsOnly.trans ?_ (bindingsOnly_onSet fun _ => rfl)
  refine BindingsOnly.trans ?_ (BindingsOnly.foldl (fun w e => bindingsOnly_unbindExpr e w) _ _)
  exact (bindingsOnly_release _ w).trans (bindingsOnly_onSet fun _ => rfl)

lemma bindingsOnly_attachSet (q : SetId) (s : StateId) (w : World) :
    w.BindingsOnly (w.attachSet q s) := by
  refine BindingsOnly.trans ?_ (bindingsOnly_onSet fun _ => rfl)
  refine BindingsOnly.trans ?_ (bindingsOnly_subscribeState s _ _)
  exact (bindingsOnly_unbindSet q w).trans
    (BindingsOnly.foldl (fun w e => bindingsOnly_attachExpr e s w) _ _)

lemma bindingsOnly_bindSet (q : SetId) (s : StateId) (w : World) :
    w.BindingsOnly (w.bindSet q s).1 := by
  unfold bindSet
  split
  · exact .refl w
  · exact bindingsOnly_attachSet q s w

lemma bindingsOnly_unbindCard (c : CardId) (w : World) : w.BindingsOnly (w.unbindCard c) := by
  refine BindingsOnly.trans ?_ (bindingsOnly_unbindSet _ _)
  split
  · refine BindingsOnly.trans ?_ (bindingsOnly_note _ _)
    exact bindingsOnly_onCard fun _ => rfl
  · exact .refl w

lemma bindingsOnly_attachCard (c : CardId) (s : StateId) (w : World) :
    w.BindingsOnly (w.attachCard c s) := by
  unfold attachCard
  refine (bindingsOnly_unbindCard c w).trans ?_
  dsimp only
  have bound := bindingsOnly_bindSet ((w.unbindCard c).card c).qualities s (w.unbindCard c)
  rcases h : (w.unbindCard c).bindSet ((w.unbindCard c).card c).qualities s with ⟨v, fault | _⟩
  all_goals rw [h] at bound
  · exact bound.trans (bindingsOnly_note _ _)
  · refine BindingsOnly.trans ?_ (bindingsOnly_note _ _)
    exact bound.trans (bindingsOnly_onCard fun _ => rfl)

lemma bindingsOnly_bindCard (c : CardId) (s : StateId) (w : World) :
    w.BindingsOnly (w.bindCard c s).1 := by
  unfold bindCard
  split
  · exact .refl w
  · dsimp only
    exact bindingsOnly_attachCard c s w

lemma bindingsOnly_bindOrSkip (s : StateId) (w : World) (c : CardId) :
    w.BindingsOnly (bindOrSkip s w c) := by
  have bound := bindingsOnly_bindCard c s w
  unfold bindOrSkip
  rcases h : w.bindCard c s with ⟨v, fault | _⟩
  all_goals rw [h] at bound
  · exact bound.trans (bindingsOnly_note _ _)
  · exact bound

lemma bindingsOnly_unbindDeck (d : DeckId) (w : World) : w.BindingsOnly (w.unbindDeck d) := by
  refine BindingsOnly.trans ?_ (BindingsOnly.foldl (fun w c => bindingsOnly_unbindCard c w) _ _)
  split
  · refine BindingsOnly.trans ?_ (bindingsOnly_note _ _)
    exact (bindingsOnly_release _ w).trans (bindingsOnly_onDeck fun _ => rfl)
  · exact .refl w

lemma bindingsOnly_attachDeck (d : DeckId) (s : StateId) (w : World) :
    w.BindingsOnly (w.attachDeck d s) := by
  refine BindingsOnly.trans ?_ (bindingsOnly_note _ _)
  refine BindingsOnly.trans ?_ (bindingsOnly_onDeck fun _ => rfl)
  refine BindingsOnly.trans ?_ (bindingsOnly_subscribeState s _ _)
  exact (bindingsOnly_unbindDeck d w).trans (BindingsOnly.foldl (bindingsOnly_bindOrSkip s) _ _)

lemma bindingsOnly_bindNode (n : NodeId) (s : StateId) (w : World) :
    w.BindingsOnly (w.bindNode n s).1 := by
  cases n with
  | expr e =>
      show w.BindingsOnly (w.bindExpr e s).1
      unfold bindExpr
      split
      · exact .refl w
      · exact bindingsOnly_attachExpr e s w
  | set q => exact bindingsOnly_bindSet q s w
  | card c => exact bindingsOnly_bindCard c s w
  | deck d =>
      show w.BindingsOnly (w.bindDeck d s).1
      unfold bindDeck
      split
      · exact .refl w
      · exact bindingsOnly_attachDeck d s w

lemma bindingsOnly_unbindNode (n : NodeId) (w : World) : w.BindingsOnly (w.unbindNode n) := by
  cases n with
  | expr e => exact bindingsOnly_unbindExpr e w
  | set q => exact bindingsOnly_unbindSet q w
  | card c => exact bindingsOnly_unbindCard c w
  | deck d => exact bindingsOnly_unbindDeck d w

lemma bindingsOnly_bindSetWhere (c : CardId) (q : SetId) (w : World) :
    w.BindingsOnly (w.bindSetWhere c q).1 := by
  unfold bindSetWhere
  split
  · exact bindingsOnly_bindSet _ _ w
  · exact .refl w

lemma bindingsOnly_bindCardsWhere (d : DeckId) (cards : List CardId) (w : World) :
    w.BindingsOnly (w.bindCardsWhere d cards) := by
  unfold bindCardsWhere
  split
  · exact BindingsOnly.foldl (bindingsOnly_bindOrSkip _) _ _
  · exact .refl w

lemma bindingsOnly_bindWhere (d : DeckId) (c : CardId) (w : World) :
    w.BindingsOnly (w.bindWhere d c).1 := by
  unfold bindWhere
  split
  · exact bindingsOnly_bindCard _ _ w
  · exact .refl w

/-! ## What such worlds have in common -/

namespace BindingsOnly

variable {w w' : World} (h : w.BindingsOnly w')
include h

lemma exprListeners_eq (e : ExprId) : (w'.expr e).listeners = (w.expr e).listeners := by
  rw [h.expr e]

lemma setMembers_eq (q : SetId) : (w'.set q).members = (w.set q).members := by
  rw [h.set q]

lemma members_eq (q : SetId) : w'.members q = w.members q := by
  rw [members, members, h.setMembers_eq]

lemma qualities_eq (c : CardId) : (w'.card c).qualities = (w.card c).qualities := by
  rw [h.card c]

lemma deckCards_eq (d : DeckId) : (w'.deck d).cards = (w.deck d).cards := by
  rw [h.deck d]
  rfl

end BindingsOnly

end StoryEngine.World
