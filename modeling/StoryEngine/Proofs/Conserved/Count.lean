import Mathlib.Algebra.GroupWithZero.Nat
import StoryEngine.Proofs.Conserved.Accounted

/-!
# Counting who can be called

The listeners of an emitter that can still be called are counted from the other side: by who holds
on to numbers of the emitter.

* `World.subscribed`, `World.liveExprs`, `World.liveSets`, `World.liveCards`, `World.liveDecks` —
  who there is to hold numbers.
* `World.Accounted.listenerCount_eq_sum` — every listener that is counted holds a number.
* **`World.Accounted.listenerCount_state`** and its like — the listeners of states, expressions,
  quality sets and cards.
-/

namespace StoryEngine

/-! ## Lists -/

section
variable {α β : Type}

/-- To count what belongs to one of several is to add up what belongs to each. -/
lemma countP_mem [DecidableEq β] (f : α → β) (xs : List α) {bs : List β} (nodup : bs.Nodup) :
    xs.countP (fun a => f a ∈ bs) = (bs.map fun b => xs.countP fun a => f a = b).sum := by
  induction bs with
  | nil => simp
  | cons b bs ih =>
      obtain ⟨new, nodup⟩ := List.nodup_cons.1 nodup
      rw [List.map_cons, List.sum_cons, ← ih nodup]
      clear ih
      induction xs with
      | nil => rfl
      | cons a xs ih =>
          have split : xs.countP (fun a => f a ∈ b :: bs) =
              xs.countP (fun a => f a = b) + xs.countP (fun a => f a ∈ bs) := ih
          simp only [List.countP_cons, split]
          by_cases here : f a = b
          · simp only [here, new, List.mem_cons_self, decide_true, decide_false, if_true,
              Bool.false_eq_true, if_false]
            omega
          · simp only [List.mem_cons, here, false_or, decide_false, Bool.false_eq_true, if_false]
            omega

lemma sum_map_ite (p : α → Bool) (xs : List α) :
    (xs.map fun a => if p a then 1 else 0).sum = xs.countP p := by
  induction xs with
  | nil => rfl
  | cons a xs ih => rw [List.map_cons, List.sum_cons, ih, List.countP_cons, Nat.add_comm]

/-- What there is only one of is counted once, if there is one. -/
lemma countP_of_unique {p : α → Bool} {xs : List α} (nodup : xs.Nodup)
    (unique : ∀ a ∈ xs, ∀ b ∈ xs, p a → p b → a = b) :
    xs.countP p = if xs.any p then 1 else 0 := by
  induction xs with
  | nil => rfl
  | cons a xs ih =>
      obtain ⟨new, nodup⟩ := List.nodup_cons.1 nodup
      have others := ih nodup fun b mem c mem' => unique b (.tail _ mem) c (.tail _ mem')
      rw [List.countP_cons, others, List.any_cons]
      by_cases here : p a
      · have none : xs.any p = false := by
          refine List.any_eq_false.2 fun b mem there => new ?_
          rwa [unique a List.mem_cons_self b (.tail _ mem) here there]
        simp [here, none]
      · simp [here]

end

/-! ## Who holds how many numbers -/

/-- The number of numbers of an emitter, from the first on that counts. -/
def numbersOf (em : Emitter) (first : Nat) (held : Multiset (Emitter × Nat)) : Nat :=
  held.countP fun x => x.1 = em ∧ first ≤ x.2

/-- **A subscriber is registered as often as it holds a number that counts.** -/
lemma Balanced.countP_subscriber {registry : Emitter → Registry Subscriber} {holdings : Holdings}
    {since : Emitter → Nat} (b : Balanced registry holdings since) (em : Emitter) (h : Subscriber) :
    (registry em).entries.countP (fun entry => entry.2 = h) =
      numbersOf em (since em) (holdings h) := by
  have numbers : (((registry em).entries.filter fun entry => entry.2 = h).map Prod.fst).Nodup := by
    refine List.Pairwise.map _ (fun _ _ lt => Nat.ne_of_lt lt) ?_
    exact (b.ordered em).ascending.filter _
  have held : (((holdings h).filter fun x => x.1 = em ∧ since em ≤ x.2).map Prod.snd).Nodup := by
    refine Multiset.Nodup.map_on ?_ ((b.nodup h).filter _)
    intro x mem y mem' eq
    have here := (Multiset.mem_filter.1 mem).2.1
    have there := (Multiset.mem_filter.1 mem').2.1
    exact Prod.ext (here.trans there.symm) eq
  have same : (((registry em).entries.filter fun entry => entry.2 = h).map Prod.fst :
      Multiset Nat) = ((holdings h).filter fun x => x.1 = em ∧ since em ≤ x.2).map Prod.snd := by
    refine (Multiset.Nodup.ext (Multiset.coe_nodup.2 numbers) held).2 fun k => ?_
    have left : k ∈ (((registry em).entries.filter fun entry => entry.2 = h).map Prod.fst :
        Multiset Nat) ↔ (k, h) ∈ (registry em).entries := by simp
    have right : k ∈ ((holdings h).filter fun x => x.1 = em ∧ since em ≤ x.2).map Prod.snd ↔
        (em, k) ∈ holdings h ∧ since em ≤ k := by simp
    rw [left, right, b.registered]
  have sizes := congrArg Multiset.card same
  rwa [Multiset.coe_card, List.length_map, Multiset.card_map, ← List.countP_eq_length_filter,
    ← Multiset.countP_eq_card_filter] at sizes

lemma numbersOf_add (em : Emitter) (first : Nat) (held more : Multiset (Emitter × Nat)) :
    numbersOf em first (held + more) = numbersOf em first held + numbersOf em first more :=
  Multiset.countP_add _ _ _

lemma numbersOf_coe (em : Emitter) (first : Nat) (held : List (Emitter × Nat)) :
    numbersOf em first ↑held = held.countP fun x => x.1 = em ∧ first ≤ x.2 :=
  Multiset.coe_countP _ _

lemma numbersOf_singleton (em : Emitter) (first : Nat) (x : Emitter × Nat) :
    numbersOf em first {x} = if x.1 = em ∧ first ≤ x.2 then 1 else 0 := by
  rw [numbersOf, ← Multiset.cons_zero, Multiset.countP_cons, Multiset.countP_zero, zero_add]

lemma numbersOf_heldBy_state (s : StateId) (binding : Option Binding) :
    numbersOf (.state s) 0 (heldBy binding) =
      if binding.map (·.state) == some s then 1 else 0 := by
  cases binding with
  | none => rfl
  | some b =>
      refine (numbersOf_singleton _ _ _).trans ?_
      simp [Binding.holding]

lemma numbersOf_heldBy {em : Emitter} (other : ∀ s, em ≠ .state s) (first : Nat)
    (binding : Option Binding) : numbersOf em first (heldBy binding) = 0 := by
  cases binding with
  | none => rfl
  | some b =>
      refine (numbersOf_singleton _ _ _).trans (if_neg ?_)
      exact fun here => other b.state here.1.symm

lemma SetNode.numbersOf_holdings (em : Emitter) (first : Nat) (n : SetNode) :
    numbersOf em first n.holdings = numbersOf em first (heldBy n.binding) +
      n.members.countP fun m => .expr m.expr = em ∧ first ≤ m.number := by
  rw [holdings, numbersOf_add, numbersOf_coe, List.countP_map]
  rfl

lemma CardNode.numbersOf_holdings (em : Emitter) (first : Nat) (n : CardNode) :
    numbersOf em first n.holdings = if .set n.qualities = em ∧ first ≤ n.number then 1 else 0 :=
  numbersOf_singleton _ _ _

lemma DeckNode.numbersOf_holdings (em : Emitter) (first : Nat) (n : DeckNode) :
    numbersOf em first n.holdings = numbersOf em first (heldBy n.binding) +
      n.entries.countP fun entry => .card entry.card = em ∧ first ≤ entry.number := by
  rw [holdings, numbersOf_add, numbersOf_coe, List.countP_map]
  rfl

namespace World

variable {since : NodeId → Nat} {w : World}

/-! ## Who there is -/

/-- The listeners whose subscription a name stands for. -/
def subscribed (w : World) : List ListenerId :=
  ((List.range w.listeners.size).map ListenerId.mk).filter fun l =>
    w.names.any fun entry => entry.2.subscription? == some l

/-- The expressions that are alive. -/
def liveExprs (w : World) : List ExprId :=
  ((List.range w.exprs.size).map ExprId.mk).filter w.exprAlive

/-- The quality sets that are alive. -/
def liveSets (w : World) : List SetId :=
  ((List.range w.sets.size).map SetId.mk).filter w.setAlive

/-- The cards that are alive. -/
def liveCards (w : World) : List CardId :=
  ((List.range w.cards.size).map CardId.mk).filter w.cardAlive

/-- The decks that are alive. -/
def liveDecks (w : World) : List DeckId :=
  ((List.range w.decks.size).map DeckId.mk).filter w.deckAlive

/-- Everyone who can be called. -/
def subscribers (w : World) : List Subscriber :=
  w.subscribed.map .user ++ w.liveExprs.map (fun e => .node (.expr e)) ++
    w.liveSets.map (fun q => .node (.set q)) ++ w.liveCards.map (fun c => .node (.card c)) ++
      w.liveDecks.map fun d => .node (.deck d)

lemma nodup_ids {α : Type} {mk : Nat → α} (inj : mk.Injective) (p : α → Bool) (n : Nat) :
    (((List.range n).map mk).filter p).Nodup :=
  (List.nodup_range.map inj).filter p

lemma nodup_subscribers (w : World) : w.subscribers.Nodup := by
  have nodup : ∀ {α : Type} {f : α → Subscriber} {xs : List α}, f.Injective → xs.Nodup →
      (xs.map f).Nodup := fun inj nodup => nodup.map inj
  have disjoint : ∀ {α : Type} {f : α → Subscriber} {xs : List α} {others : List Subscriber},
      (∀ x ∈ xs, f x ∉ others) → others.Disjoint (xs.map f) := by
    intro α f xs others out h left right
    obtain ⟨x, mem, rfl⟩ := List.mem_map.1 right
    exact out x mem left
  refine List.nodup_append'.2 ⟨List.nodup_append'.2 ⟨List.nodup_append'.2 ⟨List.nodup_append'.2
    ⟨?_, ?_, ?_⟩, ?_, ?_⟩, ?_, ?_⟩, ?_, ?_⟩
  · exact nodup (fun _ _ => Subscriber.user.inj) (nodup_ids (fun _ _ => ListenerId.mk.inj) _ _)
  · exact nodup (fun _ _ eq => NodeId.expr.inj (Subscriber.node.inj eq))
      (nodup_ids (fun _ _ => ExprId.mk.inj) _ _)
  · exact disjoint fun _ _ mem => by simp at mem
  · exact nodup (fun _ _ eq => NodeId.set.inj (Subscriber.node.inj eq))
      (nodup_ids (fun _ _ => SetId.mk.inj) _ _)
  · exact disjoint fun _ _ mem => by simp at mem
  · exact nodup (fun _ _ eq => NodeId.card.inj (Subscriber.node.inj eq))
      (nodup_ids (fun _ _ => CardId.mk.inj) _ _)
  · exact disjoint fun _ _ mem => by simp at mem
  · exact nodup (fun _ _ eq => NodeId.deck.inj (Subscriber.node.inj eq))
      (nodup_ids (fun _ _ => DeckId.mk.inj) _ _)
  · exact disjoint fun _ _ mem => by simp at mem

/-- **Only those who are registered are counted.** -/
lemma listenerCount_eq (w : World) (em : Emitter) :
    w.listenerCount em = (w.registered em).length := by
  cases em with
  | state s =>
      have same : ∀ l, w.listenerAlive (StateListener.subscriber l) = w.stateListenerAlive l := by
        rintro (_ | _) <;> rfl
      rw [registered_map rfl same, List.length_map]
      rfl
  | expr e =>
      have same : ∀ l, w.listenerAlive (ExprListener.subscriber l) = w.exprListenerAlive l := by
        rintro (_ | _) <;> rfl
      rw [registered_map rfl same, List.length_map]
      rfl
  | set q =>
      have same : ∀ l, w.listenerAlive (SetListener.subscriber l) = w.setListenerAlive l := by
        rintro (_ | _) <;> rfl
      rw [registered_map rfl same, List.length_map]
      rfl
  | card c =>
      have same : ∀ l, w.listenerAlive (CardListener.subscriber l) = w.cardListenerAlive l := by
        rintro (_ | _) <;> rfl
      rw [registered_map rfl same, List.length_map]
      rfl
  | deck d =>
      have same : ∀ l, w.listenerAlive (Subscriber.user l) = true := fun _ => rfl
      rw [registered_map rfl same, List.length_map, List.filter_true]
      rfl
  | board b =>
      have same : ∀ l, w.listenerAlive (Subscriber.user l) = true := fun _ => rfl
      rw [registered_map rfl same, List.length_map, List.filter_true]
      rfl

/-! ## Everyone who is registered holds a number -/

lemma mem_ids {α : Type} {mk : Nat → α} {place : α → Nat} (mk_place : ∀ a, mk (place a) = a)
    (place_mk : ∀ i, place (mk i) = i) {n : Nat} {p : α → Bool} {a : α} :
    a ∈ ((List.range n).map mk).filter p ↔ place a < n ∧ p a := by
  rw [List.mem_filter]
  refine and_congr ⟨fun mem => ?_, fun bound => ?_⟩ Iff.rfl
  · obtain ⟨i, bound, rfl⟩ := List.mem_map.1 mem
    rw [place_mk]
    exact List.mem_range.1 bound
  · exact List.mem_map.2 ⟨place a, List.mem_range.2 bound, mk_place a⟩

lemma mem_subscribed {l : ListenerId} :
    l ∈ w.subscribed ↔ l.place < w.listeners.size ∧ 0 < w.timesNamed l := by
  refine (mem_ids (fun _ => rfl) fun _ => rfl).trans (and_congr Iff.rfl ?_)
  rw [timesNamed, List.countP_pos_iff, List.any_eq_true]

lemma mem_liveExprs {e : ExprId} :
    e ∈ w.liveExprs ↔ e.place < w.exprs.size ∧ w.Alive (.expr e) :=
  (mem_ids (fun _ => rfl) fun _ => rfl).trans (and_congr Iff.rfl exprAlive_iff)

lemma mem_liveSets {q : SetId} : q ∈ w.liveSets ↔ q.place < w.sets.size ∧ w.Alive (.set q) :=
  (mem_ids (fun _ => rfl) fun _ => rfl).trans (and_congr Iff.rfl setAlive_iff)

lemma mem_liveCards {c : CardId} : c ∈ w.liveCards ↔ c.place < w.cards.size ∧ w.Alive (.card c) :=
  (mem_ids (fun _ => rfl) fun _ => rfl).trans (and_congr Iff.rfl cardAlive_iff)

lemma mem_liveDecks {d : DeckId} : d ∈ w.liveDecks ↔ d.place < w.decks.size ∧ w.Alive (.deck d) :=
  (mem_ids (fun _ => rfl) fun _ => rfl).trans (and_congr Iff.rfl deckAlive_iff)

/-- Nobody but those there are holds anything. -/
lemma Accounted.mem_subscribers (h : w.Accounted since) {subscriber : Subscriber}
    {x : Emitter × Nat} (holds : x ∈ w.holdings subscriber) :
    subscriber ∈ w.subscribers ↔ w.listenerAlive subscriber := by
  rcases subscriber with l | e | q | c | d
  · have named : 0 < w.timesNamed l := by
      refine Nat.pos_of_ne_zero fun none => ?_
      rw [World.holdings, none] at holds
      exact Multiset.notMem_zero _ holds
    obtain ⟨⟨name, o⟩, mem, found⟩ := List.countP_pos_iff.1 named
    have bound : l.place < w.listeners.size := by
      cases o with
      | subscription l' =>
          obtain rfl : l' = l := by simpa [Object.subscription?] using found
          exact h.named mem
      | _ => simp [Object.subscription?] at found
    simp [subscribers, mem_subscribed, bound, named, listenerAlive]
  · have bound : e.place < w.exprs.size := by
      by_contra out
      rw [World.holdings, expr, Table.get_of_size_le (Nat.le_of_not_lt out)] at holds
      exact Multiset.notMem_zero _ holds
    simp [subscribers, mem_liveExprs, bound, listenerAlive, nodeAlive, exprAlive_iff]
  · have bound : q.place < w.sets.size := by
      by_contra out
      rw [World.holdings, set, Table.get_of_size_le (Nat.le_of_not_lt out)] at holds
      exact Multiset.notMem_zero _ holds
    simp [subscribers, mem_liveSets, bound, listenerAlive, nodeAlive, setAlive_iff]
  · have bound : c.place < w.cards.size := by
      by_contra out
      rw [World.holdings, if_neg out] at holds
      exact Multiset.notMem_zero _ holds
    simp [subscribers, mem_liveCards, bound, listenerAlive, nodeAlive, cardAlive_iff]
  · have bound : d.place < w.decks.size := by
      by_contra out
      rw [World.holdings, deck, Table.get_of_size_le (Nat.le_of_not_lt out)] at holds
      exact Multiset.notMem_zero _ holds
    simp [subscribers, mem_liveDecks, bound, listenerAlive, nodeAlive, deckAlive_iff]

/-- **The listeners of an emitter are counted by who holds numbers of it.** -/
theorem Accounted.listenerCount_eq_sum (h : w.Accounted since) (em : Emitter) :
    w.listenerCount em =
      (w.subscribers.map fun subscriber =>
        numbersOf em (countedFrom since em) (w.holdings subscriber)).sum := by
  have account : Balanced w.registry w.holdings (countedFrom since) := by
    have account := h.account
    rwa [Conserved, add_zero] at account
  have listed : (w.registered em).length =
      (w.registry em).entries.countP fun entry => entry.2 ∈ w.subscribers := by
    rw [registered, ← List.countP_eq_length_filter]
    refine List.countP_congr fun entry mem => ?_
    rw [decide_eq_true_iff, h.mem_subscribers (account.registered.1 mem).1]
  rw [listenerCount_eq, listed, countP_mem _ _ w.nodup_subscribers]
  simp only [account.countP_subscriber]

/-! ## How many of each kind -/

/-- **The subscriptions of listeners** to an emitter that a name stands for, of those made since the
emitter gave out the first number that counts. -/
def subscriptions (w : World) (em : Emitter) (first : Nat) : Nat :=
  w.subscribed.countP fun l => (w.listener l).emitter == em && first ≤ (w.listener l).number

/-- A listener that a name stands for holds one number. -/
lemma Accounted.numbersOf_user (h : w.Accounted since) {l : ListenerId} (mem : l ∈ w.subscribed)
    (em : Emitter) (first : Nat) :
    numbersOf em first (w.holdings (.user l)) =
      if (w.listener l).emitter == em && decide (first ≤ (w.listener l).number) then 1 else 0 := by
  have once : w.timesNamed l = 1 := by
    refine Nat.le_antisymm ?_ (mem_subscribed.1 mem).2
    have nodup := h.account.nodup (.user l)
    rw [add_zero] at nodup
    have count := Multiset.nodup_iff_count_le_one.1 nodup (w.listener l).holding
    rwa [holdings, Multiset.count_replicate_self] at count
  rw [holdings, once, Multiset.replicate_one, numbersOf_singleton]
  exact if_congr (by simp [Listener.holding]) rfl rfl

/-- What each of those that there are holds, kind by kind. -/
lemma Accounted.listenerCount_eq_kinds (h : w.Accounted since) (em : Emitter) :
    w.listenerCount em = w.subscriptions em (countedFrom since em) +
      (w.liveExprs.map fun e => numbersOf em (countedFrom since em) (w.expr e).holdings).sum +
      (w.liveSets.map fun q => numbersOf em (countedFrom since em) (w.set q).holdings).sum +
      (w.liveCards.map fun c => numbersOf em (countedFrom since em) (w.card c).holdings).sum +
      (w.liveDecks.map fun d => numbersOf em (countedFrom since em) (w.deck d).holdings).sum := by
  have users : (w.subscribed.map fun l =>
      numbersOf em (countedFrom since em) (w.holdings (.user l))).sum =
      w.subscriptions em (countedFrom since em) := by
    rw [subscriptions, ← sum_map_ite]
    exact congrArg List.sum (List.map_congr_left fun l mem => h.numbersOf_user mem em _)
  have cards : ∀ c ∈ w.liveCards, w.holdings (.node (.card c)) = (w.card c).holdings :=
    fun c mem => if_pos (mem_liveCards.1 mem).1
  rw [h.listenerCount_eq_sum, subscribers]
  simp only [List.map_append, List.sum_append, List.map_map, Function.comp_def]
  rw [users, List.map_congr_left fun c mem => congrArg (numbersOf em _) (cards c mem)]
  rfl

/-- **The listeners of a state** are the subscribed listeners and the nodes that are bound to it. -/
theorem Accounted.listenerCount_state (h : w.Accounted since) (s : StateId) :
    w.listenerCount (.state s) = w.subscriptions (.state s) 0 +
      w.liveExprs.countP (fun e => w.boundTo (.expr e) == some s) +
      w.liveSets.countP (fun q => w.boundTo (.set q) == some s) +
      w.liveDecks.countP (fun d => w.boundTo (.deck d) == some s) := by
  rw [h.listenerCount_eq_kinds]
  simp [countedFrom, ExprNode.holdings, SetNode.numbersOf_holdings, CardNode.numbersOf_holdings,
    DeckNode.numbersOf_holdings, numbersOf_heldBy_state, ← sum_map_ite, boundTo]

/-- **The listeners of an expression** are the subscribed listeners and the quality set, if there is
one, that has the expression as a member. -/
theorem Accounted.listenerCount_expr (h : w.Accounted since) (e : ExprId) :
    w.listenerCount (.expr e) = w.subscriptions (.expr e) (since (.expr e)) +
      if w.liveSets.any fun q => (w.members q).contains e then 1 else 0 := by
  have sets : ∀ q ∈ w.liveSets, numbersOf (.expr e) (since (.expr e)) (w.set q).holdings =
      if (w.members q).contains e then 1 else 0 := by
    intro q mem
    have alive := (mem_liveSets.1 mem).2
    have counted : ∀ m ∈ (w.set q).members,
        (decide (Emitter.expr m.expr = .expr e ∧ since (.expr e) ≤ m.number) = true ↔
          m.expr == e) := by
      intro m isMember
      have memberCurrent := h.memberCurrent alive isMember
      simp only [Emitter.expr.injEq, decide_eq_true_eq, beq_iff_eq]
      exact ⟨And.left, fun here => ⟨here, here ▸ memberCurrent⟩⟩
    have count : (w.set q).members.countP (·.expr == e) = (w.members q).count e := by
      rw [members, List.count, List.countP_map]
      rfl
    rw [SetNode.numbersOf_holdings, numbersOf_heldBy (by simp), zero_add,
      List.countP_congr counted, count, (h.distinct q).count]
    exact if_congr List.contains_iff_mem.symm rfl rfl
  have unique : w.liveSets.countP (fun q => (w.members q).contains e) =
      if w.liveSets.any fun q => (w.members q).contains e then 1 else 0 := by
    refine countP_of_unique (nodup_ids (fun _ _ => SetId.mk.inj) _ _) fun q _ q' _ mem mem' => ?_
    exact h.oneSet (List.contains_iff_mem.1 mem) (List.contains_iff_mem.1 mem')
  rw [h.listenerCount_eq_kinds, countedFrom, List.map_congr_left sets, sum_map_ite, unique]
  simp [ExprNode.holdings, CardNode.numbersOf_holdings, DeckNode.numbersOf_holdings,
    numbersOf_heldBy]

/-- **The listeners of a quality set** are the subscribed listeners and the card, if there is one,
that has the set and subscribed to it since the set was disposed of. -/
theorem Accounted.listenerCount_set (h : w.Accounted since) (q : SetId) :
    w.listenerCount (.set q) = w.subscriptions (.set q) (since (.set q)) +
      if w.liveCards.any fun c => (w.card c).qualities == q && since (.set q) ≤ (w.card c).number
        then 1 else 0 := by
  have unique : w.liveCards.countP
      (fun c => (w.card c).qualities == q && since (.set q) ≤ (w.card c).number) =
      if w.liveCards.any fun c => (w.card c).qualities == q && since (.set q) ≤ (w.card c).number
        then 1 else 0 := by
    refine countP_of_unique (nodup_ids (fun _ _ => CardId.mk.inj) _ _)
      fun c mem c' mem' here there => ?_
    refine h.oneCard (mem_liveCards.1 mem).2 (mem_liveCards.1 mem').2 ?_
    simp only [Bool.and_eq_true, beq_iff_eq] at here there
    rw [here.1, there.1]
  rw [h.listenerCount_eq_kinds, countedFrom, ← unique, ← sum_map_ite]
  simp [ExprNode.holdings, SetNode.numbersOf_holdings, CardNode.numbersOf_holdings,
    DeckNode.numbersOf_holdings, numbersOf_heldBy, beq_eq_decide]

/-- **The listeners of a card** are the subscribed listeners and the decks, each as often as it has
a place for the card. -/
theorem Accounted.listenerCount_card (h : w.Accounted since) (c : CardId) :
    w.listenerCount (.card c) = w.subscriptions (.card c) (since (.card c)) +
      (w.liveDecks.flatMap fun d => (w.deck d).entries).countP fun entry =>
        entry.card == c && since (.card c) ≤ entry.number := by
  rw [h.listenerCount_eq_kinds, countedFrom, List.countP_flatMap]
  simp [ExprNode.holdings, SetNode.numbersOf_holdings, CardNode.numbersOf_holdings,
    DeckNode.numbersOf_holdings, numbersOf_heldBy, Function.comp_def, beq_eq_decide]

end World

end StoryEngine
