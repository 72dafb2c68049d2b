import StoryEngine.Proofs.DeckBindings
import StoryEngine.Proofs.Disposal
import StoryEngine.Proofs.Offer

/-!
# What binding comes to

To bind a node is refused exactly if the node has been disposed of.  Where it is not refused, the
node is bound from then on, and all that it reads is bound with it, so it can be read at once.

There is one exception.  A card is bound by its quality set, and the set may have been disposed of
on its own.  Then the card is released and stays so, though nobody has refused anything.

* `World.boundTo_set_attachSet`, `World.Fresh.reading_set` — a set is bound with its members, and
  can be read.
* `World.HasItsSet` — the quality set of a card has not been disposed of.
* `World.boundTo_card_bindCard` — where a card is bound after it was bound.
* `World.bindNode_ok_iff` — when binding is refused.
* **`World.boundTo_bindNode`** — what binding comes to when it is not.
-/

namespace StoryEngine.World

variable {w v : World} {s : StateId}

/-! ## Reading what is bound -/

/-- **Expressions that are bound to a state that is alive** come to whether all of them hold. -/
lemma allHold_of_bound {es : List ExprId} (bound : ∀ e ∈ es, w.boundTo (.expr e) = some s)
    (alive : w.stateAlive s) : w.allHold es = .ok (es.all fun e => w.exprHolds e s) := by
  induction es with
  | nil => rfl
  | cons e rest ih =>
      have state : w.exprState e = .ok s := boundState_ok.2 ⟨bound e List.mem_cons_self, alive⟩
      rw [allHold, state, List.all_cons]
      dsimp only
      split
      · next holds =>
          rw [ih fun other mem => bound other (List.mem_cons_of_mem _ mem), holds, Bool.true_and]
      · next fails => rw [Bool.eq_false_iff.2 fails, Bool.false_and]

namespace Fresh

variable (fresh : w.Fresh) (alive : w.stateAlive s)
include fresh alive

lemma reading_expr {e : ExprId} (bound : w.boundTo (.expr e) = some s) :
    w.reading (.expr e) = .ok () := by
  rw [reading, fresh.exprResult_value (boundState_ok.2 ⟨bound, alive⟩)]
  rfl

/-- **A set that is bound with its members can be read.** -/
lemma reading_set {q : SetId} (bound : w.boundTo (.set q) = some s)
    (members : ∀ e ∈ w.members q, w.boundTo (.expr e) = some s) : w.reading (.set q) = .ok () := by
  have state : w.setState q = .ok s := boundState_ok.2 ⟨bound, alive⟩
  rw [reading, fresh.setResult_eq, state]
  dsimp only [Except.bind]
  split
  · rfl
  · rw [allHold_of_bound members alive]
    rfl

lemma reading_card {c : CardId} (bound : w.boundTo (.card c) = some s)
    (set : w.boundTo (.set (w.card c).qualities) = some s)
    (members : ∀ e ∈ w.members (w.card c).qualities, w.boundTo (.expr e) = some s) :
    w.reading (.card c) = .ok () := by
  have state : w.cardState c = .ok s := boundState_ok.2 ⟨bound, alive⟩
  rw [reading, cardResult, state]
  exact fresh.reading_set alive set members

lemma reading_deck {d : DeckId} (bound : w.boundTo (.deck d) = some s) :
    w.reading (.deck d) = .ok () := by
  have state : w.deckState d = .ok s := boundState_ok.2 ⟨bound, alive⟩
  rw [reading, fresh.availableCards_value, state]
  rfl

end Fresh

/-! ## Quality sets and cards -/

lemma boundTo_set_attachSet (q : SetId) (s : StateId) (w : World) :
    (w.attachSet q s).boundTo (.set q) = some s := by
  rw [attachSet_eq, boundTo_onSet, if_pos rfl]
  rfl

/-- **The quality set of a card is there to be bound**: it has not been disposed of. -/
def HasItsSet (w : World) (c : CardId) : Prop :=
  (w.set (w.card c).qualities).disposed = false

instance (w : World) (c : CardId) : Decidable (w.HasItsSet c) :=
  inferInstanceAs (Decidable (_ = _))

/-- A card without its quality set is released instead of being attached. -/
lemma boundTo_card_attachCard_of_lacks {c : CardId} (lacks : ¬ w.HasItsSet c) (s : StateId) :
    (w.attachCard c s).boundTo (.card c) = none := by
  have only := bindingsOnly_unbindCard c w
  have gone : ((w.unbindCard c).set ((w.unbindCard c).card c).qualities).disposed = true := by
    rw [only.qualities_eq, only.set]
    exact Bool.eq_true_of_not_eq_false lacks
  rw [attachCard, bindSet, gone]
  show ((w.unbindCard c).note _).boundTo (.card c) = none
  rw [boundTo_note, boundTo_card_unbindCard, if_pos rfl]

/-- **Where a card is bound after it was bound**: there, if it has its quality set. -/
theorem boundTo_card_bindCard {c : CardId} (usable : (w.card c).disposed = false) (s : StateId) :
    (w.bindCard c s).1.boundTo (.card c) = if w.HasItsSet c then some s else none := by
  rw [bindCard_of_usable usable]
  split
  · next has =>
      have bindable : w.Bindable c := ⟨usable, has⟩
      rw [boundTo_card_attachCard bindable, if_pos rfl]
  · next lacks => exact boundTo_card_attachCard_of_lacks lacks s

/-- Where sets and expressions are bound has nothing to do with cards. -/
lemma boundTo_onCard (c : CardId) (f : CardNode → CardNode) (w : World) {n : NodeId}
    (noCard : ∀ other, n ≠ .card other) : (w.onCard c f).boundTo n = w.boundTo n := by
  cases n with
  | card other => exact absurd rfl (noCard other)
  | _ => rfl

/-- The set of a card that is attached is bound with it, and so are the members of the set. -/
lemma boundTo_attachCard {c : CardId} (bindable : w.Bindable c) (s : StateId) :
    (w.attachCard c s).boundTo (.set (w.card c).qualities) = some s ∧
      ∀ e ∈ w.members (w.card c).qualities, (w.attachCard c s).boundTo (.expr e) = some s := by
  have only := bindingsOnly_unbindCard c w
  rw [attachCard_of_bindable bindable, only.qualities_eq]
  refine ⟨?_, fun e mem => ?_⟩
  all_goals rw [boundTo_note, boundTo_onCard _ _ _ fun _ => by simp]
  · exact boundTo_set_attachSet _ s (w.unbindCard c)
  · rw [← only.members_eq] at mem
    exact boundTo_member_attachSet mem s

/-! ## Nodes of any kind -/

/-- **Binding is refused exactly to what has been disposed of.** -/
theorem bindNode_ok_iff (n : NodeId) (s : StateId) (w : World) :
    (w.bindNode n s).2 = .ok () ↔ w.isDisposed n = false := by
  cases n with
  | expr e =>
      rw [bindNode, bindExpr, isDisposed]
      split <;> simp [*]
  | set q =>
      rw [bindNode, bindSet, isDisposed]
      split <;> simp [*]
  | card c =>
      rw [bindNode, bindCard, isDisposed]
      split <;> simp [*]
  | deck d =>
      rw [bindNode, bindDeck, isDisposed]
      split <;> simp [*]

/-- To bind a node that has not been disposed of is to attach it. -/
lemma bindNode_of_usable {n : NodeId} (usable : w.isDisposed n = false) (s : StateId) :
    (w.bindNode n s).1 =
      match n with
      | .expr e => w.attachExpr e s
      | .set q => w.attachSet q s
      | .card c => w.attachCard c s
      | .deck d => w.attachDeck d s := by
  cases n with
  | expr e =>
      rw [bindNode, bindExpr, show (w.expr e).disposed = false from usable]
      rfl
  | set q =>
      rw [bindNode, bindSet, show (w.set q).disposed = false from usable]
      rfl
  | card c =>
      rw [bindNode, bindCard_of_usable usable]
  | deck d =>
      rw [bindNode, bindDeck, show (w.deck d).disposed = false from usable]
      rfl

/-- **What binding comes to** in every run, where it is not refused.  The node is bound to the state
and can be read, unless it is a card without its quality set; such a card is bound to nothing, and
cannot be read for want of a binding. -/
theorem boundTo_bindNode {look : Supervisor} (watches : look.Watches) {depth : Nat}
    {steps : List Step} (passes : Passes look depth steps w) (alive : w.stateAlive s) {n : NodeId}
    (ok : (w.bindNode n s).2 = .ok ()) :
    ((∀ c, n = .card c → w.HasItsSet c) →
      (w.bindNode n s).1.boundTo n = some s ∧ (w.bindNode n s).1.reading n = .ok ()) ∧
    ∀ c, n = .card c → ¬ w.HasItsSet c →
      (w.bindNode n s).1.boundTo n = none ∧
        (w.bindNode n s).1.reading n = .error (.unbound n.kind) := by
  have usable := (bindNode_ok_iff n s w).1 ok
  have only := bindingsOnly_bindNode n s w
  have fresh := (onward_bindNode n s w).fresh (Fresh.invariant.of_passes watches passes)
  have alive : (w.bindNode n s).1.stateAlive s := by
    rw [stateAlive, isRooted, isRooted, only.names, only.held]
    exact alive
  rw [bindNode_of_usable usable] at fresh alive only ⊢
  cases n with
  | expr e =>
      have bound : (w.attachExpr e s).boundTo (.expr e) = some s := by
        rw [boundTo_attachExpr, if_pos rfl]
      exact ⟨fun _ => ⟨bound, fresh.reading_expr alive bound⟩, fun _ same => by cases same⟩
  | set q =>
      have bound := boundTo_set_attachSet q s w
      refine ⟨fun _ => ⟨bound, fresh.reading_set alive bound fun e mem => ?_⟩,
        fun _ same => by cases same⟩
      exact boundTo_member_attachSet (only.members_eq q ▸ mem) s
  | card c =>
      refine ⟨fun has => ?_, fun other same lacks => ?_⟩
      · have bindable : w.Bindable c := ⟨usable, has c rfl⟩
        have bound : (w.attachCard c s).boundTo (.card c) = some s := by
          rw [boundTo_card_attachCard bindable, if_pos rfl]
        obtain ⟨set, members⟩ := boundTo_attachCard bindable s
        refine ⟨bound, fresh.reading_card alive bound ?_ fun e mem => ?_⟩
        · rw [only.qualities_eq]
          exact set
        · rw [only.qualities_eq, only.members_eq] at mem
          exact members e mem
      · cases same
        have released := boundTo_card_attachCard_of_lacks lacks s
        exact ⟨released, reading_of_unbound released⟩
  | deck d =>
      have bound : (w.attachDeck d s).boundTo (.deck d) = some s := by
        rw [boundTo_deck_attachDeck, if_pos rfl]
      exact ⟨fun _ => ⟨bound, fresh.reading_deck alive bound⟩, fun _ same => by cases same⟩

/-- A card whose quality set is disposed of through a handle of its own, and then the card is
bound. -/
def bindWithoutSet : List Act :=
  [.state (.create "state"), .card (.create "card" "" ["true"] none .fresh),
    .card (.qualities "card" "set"), .node (.dispose "set")]

/-- To bind the card is not refused, and the card is not bound. -/
example :
    let w := runUnder .free fire (bindWithoutSet.map .act) .empty
    (w.bindNode (.card ⟨0⟩) ⟨0⟩).2 = .ok () ∧
      (w.bindNode (.card ⟨0⟩) ⟨0⟩).1.boundTo (.card ⟨0⟩) = none := by
  decide +kernel

end StoryEngine.World
