import Mathlib.Algebra.Group.Pi.Lemmas
import Mathlib.Algebra.Order.Group.Multiset
import Mathlib.Data.Multiset.UnionInter
import StoryEngine.Proofs.Bound
import StoryEngine.Proofs.Rounds

/-!
# Who holds which subscriptions

To listen is to be registered with an emitter, and to hold on to the number that one was given
there.  Registries are one side of the account, and what nodes and names hold is the other.

* `Holdings` — for every subscriber, the emitters and numbers that it holds.
* **`Balanced`** — registered is who holds a number, from the number on at which counting begins.
* `Balanced.subscribe`, `Balanced.remove`, `Balanced.clear` — the two sides move together.
* `World.holdings` — what is held in a world.
* `World.registry_onExpr`, `World.holdings_onExpr` and their like — both sides after a change.
-/

namespace StoryEngine

/-! ## Accounts -/

/-- **What subscribers hold**: emitters, and their numbers there. -/
abbrev Holdings : Type :=
  Subscriber → Multiset (Emitter × Nat)

/-- **The two sides of the account agree.**  Numbers below `since` are not counted: they are from
before the emitter was last cleared, and good for nothing. -/
structure Balanced (registry : Emitter → Registry Subscriber) (holdings : Holdings)
    (since : Emitter → Nat) : Prop where
  ordered : ∀ em, (registry em).Ordered
  nodup : ∀ h, (holdings h).Nodup
  begun : ∀ em, since em ≤ (registry em).next
  below : ∀ {h em k}, (em, k) ∈ holdings h → k < (registry em).next
  registered : ∀ {h em k},
    (k, h) ∈ (registry em).entries ↔ (em, k) ∈ holdings h ∧ since em ≤ k

namespace Balanced

variable {registry : Emitter → Registry Subscriber} {holdings : Holdings} {since : Emitter → Nat}

/-- Nobody holds anything before the first subscription. -/
lemma empty : Balanced (fun _ => .empty) 0 fun _ => 0 where
  ordered _ := .empty
  nodup _ := Multiset.nodup_zero
  begun _ := Nat.le_refl _
  below held := absurd held (Multiset.notMem_zero _)
  registered := ⟨nofun, fun held => absurd held.1 (Multiset.notMem_zero _)⟩

lemma mem_add_single {h h' : Subscriber} {x y : Emitter × Nat} :
    x ∈ (holdings + Pi.single h {y} : Holdings) h' ↔ x ∈ holdings h' ∨ h' = h ∧ x = y := by
  rw [Pi.add_apply, Multiset.mem_add, Pi.single_apply]
  split
  · next here => simp [here]
  · next elsewhere => simp [elsewhere]

/-- What has been registered stays in order if it is in order where something has changed. -/
lemma ordered_update (b : Balanced registry holdings since) {em : Emitter} {r : Registry Subscriber}
    (ordered : r.Ordered) : ∀ other, (Function.update registry em r other).Ordered :=
  (Function.forall_update_iff registry fun _ r => r.Ordered).2
    ⟨ordered, fun other _ => b.ordered other⟩

/-- Numbers go on as before if they do where something has changed. -/
lemma next_update {em : Emitter} {r : Registry Subscriber} (same : r.next = (registry em).next) :
    ∀ other, (Function.update registry em r other).next = (registry other).next :=
  (Function.forall_update_iff registry fun other r => r.next = (registry other).next).2
    ⟨same, fun _ _ => rfl⟩

/-- **Someone subscribes** and holds the number given out. -/
theorem subscribe (b : Balanced registry holdings since) (em : Emitter) (h : Subscriber) :
    Balanced (Function.update registry em ((registry em).subscribe h))
      (holdings + Pi.single h {(em, (registry em).next)}) since := by
  have next : ∀ other, (Function.update registry em ((registry em).subscribe h) other).next =
      (registry other).next + if other = em then 1 else 0 := by
    refine (Function.forall_update_iff registry fun other r =>
      r.next = (registry other).next + if other = em then 1 else 0).2 ⟨?_, fun other ne => ?_⟩
    · rw [if_pos rfl]
      rfl
    · rw [if_neg ne]
      rfl
  refine ⟨b.ordered_update ((b.ordered em).subscribe h), ?_, ?_, ?_, ?_⟩
  · intro h'
    rw [Pi.add_apply, Pi.single_apply]
    split
    · refine Multiset.nodup_add.2 ⟨b.nodup h', Multiset.nodup_singleton _, ?_⟩
      refine Multiset.disjoint_singleton.2 fun held => ?_
      exact absurd (b.below held) (Nat.lt_irrefl _)
    · rw [add_zero]
      exact b.nodup h'
  · intro other
    rw [next]
    exact Nat.le_trans (b.begun other) (Nat.le_add_right _ _)
  · intro h' other k held
    rw [next]
    rcases mem_add_single.1 held with held | ⟨-, eq⟩
    · exact Nat.lt_of_lt_of_le (b.below held) (Nat.le_add_right _ _)
    · obtain ⟨rfl, rfl⟩ := Prod.mk.inj eq
      rw [if_pos rfl]
      exact Nat.lt_succ_self _
  · intro h' other k
    rw [mem_add_single]
    by_cases here : other = em
    · subst here
      rw [Function.update_self, Registry.subscribe, List.mem_append, b.registered,
        List.mem_singleton, or_and_right, Prod.mk.injEq, Prod.mk.injEq]
      refine or_congr Iff.rfl ⟨?_, ?_⟩
      · rintro ⟨rfl, rfl⟩
        exact ⟨⟨rfl, rfl, rfl⟩, b.begun other⟩
      · rintro ⟨⟨rfl, -, rfl⟩, -⟩
        exact ⟨rfl, rfl⟩
    · rw [Function.update_of_ne here, b.registered, Prod.mk.injEq]
      simp [here]

/-- **A subscription ends**, and the number is let go. -/
theorem remove {h : Subscriber} {em : Emitter} {k : Nat}
    (b : Balanced registry (holdings + Pi.single h {(em, k)}) since) :
    Balanced (Function.update registry em ((registry em).remove k)) holdings since := by
  have still : ∀ {h' x}, x ∈ holdings h' → x ∈ (holdings + Pi.single h {(em, k)} : Holdings) h' :=
    fun held => mem_add_single.2 (.inl held)
  have next : ∀ other, (Function.update registry em ((registry em).remove k) other).next =
      (registry other).next := next_update rfl
  -- the number that is let go was held once, and by nobody else as long as it counted
  have gone : (em, k) ∉ holdings h := by
    have nodup := b.nodup h
    rw [Pi.add_apply, Pi.single_eq_same] at nodup
    exact Multiset.disjoint_singleton.1 (Multiset.nodup_add.1 nodup).2.2
  have alone : ∀ {h'}, (em, k) ∈ holdings h' → since em ≤ k → False := by
    intro h' held counted
    have mine := b.registered.2 ⟨mem_add_single.2 (.inr ⟨rfl, rfl⟩), counted⟩
    have other := b.registered.2 ⟨still held, counted⟩
    obtain ⟨-, rfl⟩ := Prod.mk.inj ((b.ordered em).eq_of_number mine other rfl)
    exact gone held
  refine ⟨b.ordered_update ((b.ordered em).remove k), ?_, ?_, ?_, ?_⟩
  · exact fun h' => Multiset.nodup_of_le (Multiset.le_add_right _ _) (b.nodup h')
  · exact fun other => (b.begun other).trans_eq (next other).symm
  · exact fun held => Nat.lt_of_lt_of_eq (b.below (still held)) (next _).symm
  · intro h' other k'
    by_cases here : other = em
    · subst here
      rw [Function.update_self, Registry.remove, List.mem_filter, b.registered, mem_add_single,
        bne_iff_ne]
      constructor
      · rintro ⟨⟨held | ⟨-, eq⟩, counted⟩, ne⟩
        · exact ⟨held, counted⟩
        · exact absurd (Prod.mk.inj eq).2 ne
      · rintro ⟨held, counted⟩
        refine ⟨⟨.inl held, counted⟩, ?_⟩
        rintro rfl
        exact alone held counted
    · rw [Function.update_of_ne here, b.registered, mem_add_single, Prod.mk.injEq]
      simp [here]

/-- **An emitter is cleared**, and all numbers given out until then do not count any more. -/
theorem clear (b : Balanced registry holdings since) (em : Emitter) :
    Balanced (Function.update registry em (registry em).clear) holdings
      (Function.update since em (registry em).next) := by
  have next : ∀ other, (Function.update registry em (registry em).clear other).next =
      (registry other).next := next_update rfl
  refine ⟨b.ordered_update .clear, b.nodup, ?_, ?_, ?_⟩
  · intro other
    rw [next]
    by_cases here : other = em
    · subst here
      rw [Function.update_self]
    · rw [Function.update_of_ne here]
      exact b.begun other
  · exact fun held => Nat.lt_of_lt_of_eq (b.below held) (next _).symm
  · intro h other k
    by_cases here : other = em
    · subst here
      rw [Function.update_self, Function.update_self]
      refine ⟨nofun, fun ⟨held, counted⟩ => ?_⟩
      exact absurd (b.below held) (Nat.not_lt.2 counted)
    · rw [Function.update_of_ne here, Function.update_of_ne here]
      exact b.registered

end Balanced

/-! ## What is held in a world -/

/-- What a binding holds: a number of its state. -/
def Binding.holding (b : Binding) : Emitter × Nat :=
  (.state b.state, b.number)

/-- What a node holds by its binding. -/
def heldBy (binding : Option Binding) : Multiset (Emitter × Nat) :=
  binding.elim 0 fun b => {b.holding}

/-- What a quality set holds of a member. -/
def Member.holding (m : Member) : Emitter × Nat :=
  (.expr m.expr, m.number)

/-- What a deck holds of a card by a place for it. -/
def Entry.holding (entry : Entry) : Emitter × Nat :=
  (.card entry.card, entry.number)

def ExprNode.holdings (n : ExprNode) : Multiset (Emitter × Nat) :=
  heldBy n.binding

def SetNode.holdings (n : SetNode) : Multiset (Emitter × Nat) :=
  heldBy n.binding + ↑(n.members.map Member.holding)

def CardNode.holdings (n : CardNode) : Multiset (Emitter × Nat) :=
  {(.set n.qualities, n.number)}

def DeckNode.holdings (n : DeckNode) : Multiset (Emitter × Nat) :=
  heldBy n.binding + ↑(n.entries.map Entry.holding)

/-- What a subscribed listener holds. -/
def Listener.holding (n : Listener) : Emitter × Nat :=
  (n.emitter, n.number)

/-- The subscribed listener, if that is what an object is. -/
def Object.subscription? : Object → Option ListenerId
  | .subscription l => some l
  | _ => none

namespace World

/-- The number of names that stand for the subscription of a listener. -/
def timesNamed (w : World) (l : ListenerId) : Nat :=
  w.names.countP fun entry => entry.2.subscription? == some l

/-- **What is held in a world.**  Who subscribed holds a number as long as a name stands for the
subscription. -/
def holdings (w : World) : Holdings
  | .user l => Multiset.replicate (w.timesNamed l) (w.listener l).holding
  | .node (.expr e) => (w.expr e).holdings
  | .node (.set q) => (w.set q).holdings
  | .node (.card c) => if c.place < w.cards.size then (w.card c).holdings else 0
  | .node (.deck d) => (w.deck d).holdings

section
variable {w v : World}

/-! ### After a change -/

/-- Who gets something in exchange for something else. -/
lemma update_add_single {holdings : Holdings} {h : Subscriber}
    {x taken left : Multiset (Emitter × Nat)} (moved : x + left = holdings h + taken) :
    Function.update holdings h x + Pi.single h left = holdings + Pi.single h taken := by
  funext h'
  rw [Pi.add_apply, Pi.add_apply]
  by_cases here : h' = h
  · subst here
    rw [Function.update_self, Pi.single_eq_same, Pi.single_eq_same, moved]
  · rw [Function.update_of_ne here, Pi.single_eq_of_ne here, Pi.single_eq_of_ne here]

lemma holdings_onStore (s : StateId) (f : Store → Store) :
    (w.onStore s f).holdings = w.holdings := by
  funext h
  rcases h with l | e | q | c | d <;> rfl

lemma holdings_onExpr (e : ExprId) (f : ExprNode → ExprNode) :
    (w.onExpr e f).holdings =
      Function.update w.holdings (.node (.expr e)) (f (w.expr e)).holdings := by
  funext h
  by_cases here : h = .node (.expr e)
  · subst here
    rw [Function.update_self, holdings, expr_onExpr, if_pos rfl]
  · rw [Function.update_of_ne here]
    rcases h with l | other | q | c | d <;> try rfl
    rw [holdings, expr_onExpr, if_neg fun eq => here (by rw [eq])]
    rfl

lemma holdings_onSet (q : SetId) (f : SetNode → SetNode) :
    (w.onSet q f).holdings =
      Function.update w.holdings (.node (.set q)) (f (w.set q)).holdings := by
  funext h
  by_cases here : h = .node (.set q)
  · subst here
    rw [Function.update_self, holdings, set_onSet, if_pos rfl]
  · rw [Function.update_of_ne here]
    rcases h with l | e | other | c | d <;> try rfl
    rw [holdings, set_onSet, if_neg fun eq => here (by rw [eq])]
    rfl

lemma holdings_onCard {c : CardId} (exist : c.place < w.cards.size) (f : CardNode → CardNode) :
    (w.onCard c f).holdings =
      Function.update w.holdings (.node (.card c)) (f (w.card c)).holdings := by
  have size : (w.onCard c f).cards.size = w.cards.size := Table.size_modify _ _ exist
  funext h
  by_cases here : h = .node (.card c)
  · subst here
    rw [Function.update_self, holdings, size, if_pos exist, card_onCard, if_pos rfl]
  · rw [Function.update_of_ne here]
    rcases h with l | e | q | other | d <;> try rfl
    have elsewhere : c ≠ other := fun eq => here (by rw [eq])
    rw [holdings, size, card_onCard, if_neg elsewhere]
    rfl

lemma holdings_onDeck (d : DeckId) (f : DeckNode → DeckNode) :
    (w.onDeck d f).holdings =
      Function.update w.holdings (.node (.deck d)) (f (w.deck d)).holdings := by
  funext h
  by_cases here : h = .node (.deck d)
  · subst here
    rw [Function.update_self, holdings, deck_onDeck, if_pos rfl]
  · rw [Function.update_of_ne here]
    rcases h with l | e | q | c | other <;> try rfl
    rw [holdings, deck_onDeck, if_neg fun eq => here (by rw [eq])]
    rfl

lemma registry_onStore (s : StateId) (f : Store → Store) :
    (w.onStore s f).registry =
      Function.update w.registry (.state s)
        ((f (w.store s)).listeners.map StateListener.subscriber) := by
  funext em
  by_cases here : em = .state s
  · subst here
    rw [Function.update_self, registry, store_onStore, if_pos rfl]
  · rw [Function.update_of_ne here]
    rcases em with other | e | q | c | d | b <;> try rfl
    rw [registry, store_onStore, if_neg fun eq => here (by rw [eq])]
    rfl

lemma registry_onExpr (e : ExprId) (f : ExprNode → ExprNode) :
    (w.onExpr e f).registry =
      Function.update w.registry (.expr e)
        ((f (w.expr e)).listeners.map ExprListener.subscriber) := by
  funext em
  by_cases here : em = .expr e
  · subst here
    rw [Function.update_self, registry, expr_onExpr, if_pos rfl]
  · rw [Function.update_of_ne here]
    rcases em with s | other | q | c | d | b <;> try rfl
    rw [registry, expr_onExpr, if_neg fun eq => here (by rw [eq])]
    rfl

lemma registry_onSet (q : SetId) (f : SetNode → SetNode) :
    (w.onSet q f).registry =
      Function.update w.registry (.set q) ((f (w.set q)).listeners.map SetListener.subscriber) := by
  funext em
  by_cases here : em = .set q
  · subst here
    rw [Function.update_self, registry, set_onSet, if_pos rfl]
  · rw [Function.update_of_ne here]
    rcases em with s | e | other | c | d | b <;> try rfl
    rw [registry, set_onSet, if_neg fun eq => here (by rw [eq])]
    rfl

lemma registry_onCard (c : CardId) (f : CardNode → CardNode) :
    (w.onCard c f).registry =
      Function.update w.registry (.card c)
        ((f (w.card c)).listeners.map CardListener.subscriber) := by
  funext em
  by_cases here : em = .card c
  · subst here
    rw [Function.update_self, registry, card_onCard, if_pos rfl]
  · rw [Function.update_of_ne here]
    rcases em with s | e | q | other | d | b <;> try rfl
    rw [registry, card_onCard, if_neg fun eq => here (by rw [eq])]
    rfl

lemma registry_onDeck (d : DeckId) (f : DeckNode → DeckNode) :
    (w.onDeck d f).registry =
      Function.update w.registry (.deck d) ((f (w.deck d)).listeners.map Subscriber.user) := by
  funext em
  by_cases here : em = .deck d
  · subst here
    rw [Function.update_self, registry, deck_onDeck, if_pos rfl]
  · rw [Function.update_of_ne here]
    rcases em with s | e | q | c | other | b <;> try rfl
    rw [registry, deck_onDeck, if_neg fun eq => here (by rw [eq])]
    rfl

end

end World

end StoryEngine
