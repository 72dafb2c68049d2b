import StoryEngine.Proofs.Conservation
import StoryEngine.Proofs.StructuralPulse

/-!
# Places

A deck subscribes to a card once for each place that the card has there, and no gate drops a
structural pulse.  So a listener of the deck is called as often as the card is in it.  That this is
all, no more and no less, is a matter of who is registered where, which is known of worlds that
transactions lead to.

* `Transaction.usable`, `Transacted.since_card` — all numbers count that a card has given out,
  unless it was disposed of.
* `World.Accounted.countP_deck`, `World.Accounted.countP_card` — a deck is registered with a card
  once for each place, and a card with its quality set once.
* `World.ListensTo` — a listener of a deck.
* **`World.ListensTo.cardPushCalls`**, **`World.ListensTo.setPushCalls`** — its calls when a card or
  its quality set pushes.
* `World.Accounted.exprEntries_eq` — who listens to a member of a quality set.
-/

namespace StoryEngine

open World

/-! ## Cards that were not disposed of -/

lemma World.Later.usable {w v : World} (later : w.Later v) {c : CardId}
    (usable : (v.card c).disposed = false) : (w.card c).disposed = false := by
  by_contra gone
  rw [(later.card c).disposed (by simpa using gone)] at usable
  cases usable

/-- **A card that can be used after a transaction** could be used before it, and was not disposed of
in it. -/
lemma Transaction.usable {w v : World} {gone : List NodeId} (t : Transaction .keeping w gone v)
    {c : CardId} (usable : (v.card c).disposed = false) :
    (w.card c).disposed = false ∧ .card c ∉ gone := by
  -- cards keep their tenure when subscriptions begin and end
  have tenure : ∀ {w v : World}, Spares [] w v → (v.card c).disposed = false →
      (w.card c).disposed = false := fun spared usable =>
    (congrArg (·.2.2) (spared.tenure_eq c)).symm.trans usable
  have onward : ∀ {w v : World}, w.Onward v → (v.card c).disposed = false →
      (w.card c).disposed = false := fun onward => onward.toLater.usable
  cases t with
  | still still => exact ⟨tenure still.spares usable, List.not_mem_nil⟩
  | hold held offered => exact ⟨usable, List.not_mem_nil⟩
  | store name o offered held kept =>
      have before : ((w.put name o).card c).disposed = false :=
        tenure (spares_dropSubscription _ _) usable
      exact ⟨before, List.not_mem_nil⟩
  | forget name =>
      have before : ((w.erase name).card c).disposed = false :=
        tenure (spares_dropSubscription _ _) usable
      exact ⟨before, List.not_mem_nil⟩
  | subscribe emitter name program times alive =>
      refine ⟨?_, List.not_mem_nil⟩
      have before := tenure (spares_dropSubscription _ _) usable
      exact (later_newListener emitter name program times w).usable before
  | clearListeners emitter clears => exact clears.elim
  | newExpr cond state => exact ⟨onward (onward_newExpr cond state w) usable, List.not_mem_nil⟩
  | newSet conds state => exact ⟨onward (onward_newSet conds state w) usable, List.not_mem_nil⟩
  | newCard hash content conds state =>
      exact ⟨onward (onward_newCard hash content conds state w) usable, List.not_mem_nil⟩
  | newDeck config cards state alive =>
      exact ⟨onward (onward_newDeck config cards state w) usable, List.not_mem_nil⟩
  | bind n s alive => exact ⟨onward (onward_bindNode n s w) usable, List.not_mem_nil⟩
  | unbind n alive => exact ⟨onward (onward_unbindNode n w) usable, List.not_mem_nil⟩
  | dispose n alive free =>
      refine ⟨onward (onward_disposeNode n w) usable, fun mem => ?_⟩
      have spared := (spares_disposeNode n w).tenure c
      rw [if_pos mem] at spared
      have disposed : (((w.disposeNode n).card c).disposed : Bool) = true := congrArg (·.2.2) spared
      rw [disposed] at usable
      cases usable
  | insertQuality q cond =>
      exact ⟨onward (onward_insertQuality q cond w) usable, List.not_mem_nil⟩
  | dropMember q m mem => exact ⟨onward (onward_dropMember q m w) usable, by simp⟩
  | replaceQualities d conds alive _ =>
      exact ⟨onward (onward_replaceQualities d conds w) usable, by simp [setAndMembers]⟩
  | editCard d f alive same =>
      refine ⟨tenure (spares_onCard d fun n => ?_) usable, List.not_mem_nil⟩
      exact congrArg (fun ties => (ties.1, ties.2.1, ties.2.2.2)) (same n)
  | replaceCards d cards alive =>
      exact ⟨onward (onward_replaceCards d cards w) usable, List.not_mem_nil⟩
  | insertCard d other alive =>
      exact ⟨onward (onward_insertCard d other w) usable, List.not_mem_nil⟩
  | takeCard d other left kept parts =>
      exact ⟨onward (onward_takeCard d other left kept w) usable, List.not_mem_nil⟩
  | replaceCard d other index old alive found =>
      exact ⟨onward (onward_replaceCard d other index old w) usable, List.not_mem_nil⟩
  | reorder d => exact ⟨usable, List.not_mem_nil⟩

/-- **All numbers count that a card has given out** which was not disposed of. -/
lemma Transacted.since_card {since : NodeId → Nat} {w : World}
    (transacted : Transacted .keeping since w) {c : CardId} (usable : (w.card c).disposed = false) :
    since (.card c) = 0 := by
  induction transacted with
  | empty => rfl
  | next _ t ih =>
      obtain ⟨before, kept⟩ := t.usable usable
      rw [raised, if_neg kept]
      exact ih before

/-- What is picked out of a list of lists, if all that there is to pick is the same. -/
lemma filter_flatMap_eq {α β : Type} {callsOf : α → List β} {p : β → Bool} {mine : α → Bool}
    {called : List β} {xs : List α}
    (each : ∀ x ∈ xs, (callsOf x).filter p = if mine x then called else []) :
    (xs.flatMap callsOf).filter p = (List.replicate (xs.countP mine) called).flatten := by
  induction xs with
  | nil => rfl
  | cons x rest ih =>
      rw [List.flatMap_cons, List.filter_append, each x List.mem_cons_self,
        ih fun y mem => each y (.tail _ mem), List.countP_cons]
      split
      · rw [List.replicate_succ, List.flatten_cons]
      · rfl

namespace World

variable {w v : World} {since : NodeId → Nat} {react : Reaction}

/-! ## Who is registered where -/

namespace Accounted

lemma balanced (h : w.Accounted since) : Balanced w.registry w.holdings (countedFrom since) := by
  have account := h.account
  rwa [Conserved, add_zero] at account

/-- **Who listens is there.** -/
lemma subscribersExist (h : w.Accounted since) : w.SubscribersExist where
  card {q k c} mem := by
    have registered : (k, Subscriber.node (.card c)) ∈ (w.registry (.set q)).entries :=
      List.mem_map.2 ⟨_, mem, rfl⟩
    have held := (h.balanced.registered.1 registered).1
    by_contra out
    rw [holdings, if_neg out] at held
    exact Multiset.notMem_zero _ held
  deck {c k d} mem := by
    have registered : (k, Subscriber.node (.deck d)) ∈ (w.registry (.card c)).entries :=
      List.mem_map.2 ⟨_, mem, rfl⟩
    have held := (h.balanced.registered.1 registered).1
    by_contra out
    rw [holdings, deck, Table.get_of_size_le (Nat.le_of_not_lt out)] at held
    exact Multiset.notMem_zero _ held

/-- A subscribed listener is registered with one emitter only. -/
lemma emitter_of_registered (h : w.Accounted since) {em : Emitter} {k : Nat} {l : ListenerId}
    (registered : (k, Subscriber.user l) ∈ (w.registry em).entries) :
    (w.listener l).emitter = em := by
  have held := (h.balanced.registered.1 registered).1
  exact congrArg Prod.fst (Multiset.eq_of_mem_replicate held).symm

/-- It is registered there once. -/
lemma countP_user (h : w.Accounted since) {em : Emitter} {k : Nat} {l : ListenerId}
    (registered : (k, Subscriber.user l) ∈ (w.registry em).entries) :
    (w.registry em).entries.countP (fun entry => entry.2 = .user l) = 1 := by
  refine Nat.le_antisymm ?_ (List.countP_pos_iff.2 ⟨_, registered, by simp⟩)
  rw [h.balanced.countP_subscriber]
  have nodup := h.balanced.nodup (.user l)
  have once := Multiset.nodup_iff_count_le_one.1 nodup (w.listener l).holding
  rw [holdings, Multiset.count_replicate_self] at once
  refine Nat.le_trans (Multiset.countP_le_card _ _) ?_
  rwa [holdings, Multiset.card_replicate]

/-- **A deck is registered with a card once for each place** that the card has in it, if all numbers
of the card count. -/
lemma countP_deck (h : w.Accounted since) {c : CardId} (all : since (.card c) = 0) (d : DeckId) :
    (w.registry (.card c)).entries.countP (fun entry => entry.2 = .node (.deck d)) =
      (w.deck d).cards.count c := by
  rw [h.balanced.countP_subscriber, holdings, DeckNode.numbersOf_holdings,
    numbersOf_heldBy (by simp),
    zero_add, DeckNode.cards, List.count, List.countP_map]
  refine List.countP_congr fun entry _ => ?_
  simp [countedFrom, all]

/-- **A card is registered with its quality set once**, unless it was disposed of. -/
lemma countP_card (h : w.Accounted since) {c : CardId} (alive : w.Alive (.card c))
    (usable : (w.card c).disposed = false) :
    (w.registry (.set (w.card c).qualities)).entries.countP
      (fun entry => entry.2 = .node (.card c)) = 1 := by
  rw [h.balanced.countP_subscriber, holdings, if_pos (h.bounded alive), CardNode.numbersOf_holdings]
  exact if_pos ⟨rfl, (h.current alive).1 usable⟩

/-- A deck alive is called by a push of a card once for each place. -/
lemma countP_cardEntries (h : w.Accounted since) {c : CardId} (all : since (.card c) = 0)
    {d : DeckId} (alive : w.Alive (.deck d)) :
    (w.cardEntries c).countP (fun entry => entry.2 = .owner d) = (w.deck d).cards.count c := by
  have listenerAlive : w.cardListenerAlive (.owner d) = true := deckAlive_iff.2 alive
  rw [← h.countP_deck all, registry, Registry.map, List.countP_map, cardEntries, List.countP_filter]
  refine List.countP_congr fun entry _ => ?_
  obtain ⟨k, l | other⟩ := entry
  · simp [CardListener.subscriber]
  · by_cases here : other = d <;> simp [CardListener.subscriber, here, listenerAlive]

/-- A card alive is called by a push of its quality set once, unless it was disposed of. -/
lemma countP_setEntries (h : w.Accounted since) {c : CardId} (alive : w.Alive (.card c))
    (usable : (w.card c).disposed = false) :
    (w.setEntries (w.card c).qualities).countP (fun entry => entry.2 = .owner c) = 1 := by
  have listenerAlive : w.setListenerAlive (.owner c) = true := cardAlive_iff.2 alive
  rw [← h.countP_card alive usable, registry, Registry.map, List.countP_map, setEntries,
    List.countP_filter]
  refine List.countP_congr fun entry _ => ?_
  obtain ⟨k, l | other⟩ := entry
  · simp [SetListener.subscriber]
  · by_cases here : other = c <;> simp [SetListener.subscriber, here, listenerAlive]

/-- The card that is called by a push of the quality set of a card is the card itself. -/
lemma owner_of_mem (h : w.Accounted since) {c other : CardId} (alive : w.Alive (.card c)) {k : Nat}
    (mem : (k, .owner other) ∈ w.setEntries (w.card c).qualities) : c = other := by
  obtain ⟨listed, listenerAlive⟩ := List.mem_filter.1 mem
  have alive' : w.Alive (.card other) := cardAlive_iff.1 listenerAlive
  have registered : (k, Subscriber.node (.card other)) ∈
      (w.registry (.set (w.card c).qualities)).entries := List.mem_map.2 ⟨_, listed, rfl⟩
  have held := (h.balanced.registered.1 registered).1
  rw [holdings, if_pos (h.bounded alive')] at held
  have same := Emitter.set.inj (congrArg Prod.fst (Multiset.mem_singleton.1 held))
  exact h.oneCard alive alive' same

end Accounted

/-! ## The calls of a listener of a deck -/

section
variable {l : ListenerId} {d : DeckId} {cards : List CardId}

/-- **A listener of a deck.** -/
def ListensTo (w : World) (l : ListenerId) (d : DeckId) : Prop :=
  l ∈ (w.deckEntries d).map Prod.snd

lemma ListensTo.registered (listens : w.ListensTo l d) :
    ∃ k, (k, Subscriber.user l) ∈ (w.registry (.deck d)).entries := by
  obtain ⟨entry, mem, rfl⟩ := List.mem_map.1 listens
  exact ⟨entry.1, List.mem_map.2 ⟨entry, mem, rfl⟩⟩

lemma ListensTo.emitter (listens : w.ListensTo l d) (h : w.Accounted since) :
    (w.listener l).emitter = .deck d := by
  obtain ⟨k, registered⟩ := listens.registered
  exact h.emitter_of_registered registered

/-- Who listens to something else is not a listener of a deck. -/
lemma ListensTo.ne (listens : w.ListensTo l d) (h : w.Accounted since) {em : Emitter} {k : Nat}
    {l' : ListenerId} (registered : (k, Subscriber.user l') ∈ (w.registry em).entries)
    (elsewhere : em ≠ .deck d) : l' ≠ l := by
  rintro rfl
  exact elsewhere ((h.emitter_of_registered registered).symm.trans (listens.emitter h))

/-- **A push of a deck calls each of its listeners once**, with the cards on offer. -/
lemma ListensTo.deckPushCalls (listens : w.ListensTo l d) (h : w.Accounted since)
    (offer : (w.availableCards d).2 = .ok cards) :
    (w.deckPushCalls d).filter (·.1 = l) = [(l, .cards cards)] := by
  have once : (w.deckEntries d).countP (fun entry => entry.2 = l) = 1 := by
    obtain ⟨k, registered⟩ := listens.registered
    have count := h.countP_user registered
    rw [registry, Registry.map, List.countP_map] at count
    rw [← count]
    exact List.countP_congr fun entry _ => by simp
  have each : ∀ entry ∈ w.deckEntries d,
      [(entry.2, Payload.cards cards)].filter (·.1 = l) =
        if decide (entry.2 = l) then [(l, .cards cards)] else [] := by
    intro entry _
    by_cases mine : entry.2 = l <;> simp [mine]
  rw [World.deckPushCalls, offer]
  dsimp only
  rw [List.map_eq_flatMap, filter_flatMap_eq each, once]
  rfl

/-- A push of a deck calls nobody else. -/
lemma ListensTo.deckPushCalls_other (listens : w.ListensTo l d) (h : w.Accounted since)
    {other : DeckId} (ne : d ≠ other) : (w.deckPushCalls other).filter (·.1 = l) = [] := by
  refine List.filter_eq_nil_iff.2 fun call mem isMine => ne ?_
  have there : w.ListensTo call.1 other := by
    rw [World.deckPushCalls] at mem
    split at mem
    · obtain ⟨entry, isEntry, rfl⟩ := List.mem_map.1 mem
      exact List.mem_map_of_mem isEntry
    · cases mem
  have emitters := (listens.emitter h).symm.trans (of_decide_eq_true isMine ▸ there.emitter h)
  exact Emitter.deck.inj emitters

/-- **A push of a card calls a listener of a deck** once for each place that the card has in the
deck. -/
lemma ListensTo.cardPushCalls (listens : w.ListensTo l d) (h : w.Accounted since)
    (alive : w.Alive (.deck d)) {c : CardId} (all : since (.card c) = 0) {value : Bool}
    (result : (w.cardResult c).2 = .ok value) (offer : (w.availableCards d).2 = .ok cards) :
    (w.cardPushCalls c).filter (·.1 = l) =
      List.replicate ((w.deck d).cards.count c) (l, .cards cards) := by
  have each : ∀ entry ∈ w.cardEntries c, (w.cardTurn value entry.2).filter (·.1 = l) =
      if decide (entry.2 = .owner d) then [(l, .cards cards)] else [] := by
    rintro ⟨k, l' | d'⟩ mem
    · have registered : (k, Subscriber.user l') ∈ (w.registry (.card c)).entries :=
        List.mem_map.2 ⟨_, (List.mem_filter.1 mem).1, rfl⟩
      simp [cardTurn, listens.ne h registered nofun]
    · by_cases here : d' = d
      · subst here
        simpa [cardTurn] using listens.deckPushCalls h offer
      · simpa [cardTurn, here] using listens.deckPushCalls_other h (Ne.symm here)
  rw [World.cardPushCalls, result]
  dsimp only
  rw [filter_flatMap_eq each, h.countP_cardEntries all alive, List.flatten_replicate_singleton]

/-- **A push of a quality set calls a listener of a deck** as one of its card does. -/
lemma ListensTo.setPushCalls (listens : w.ListensTo l d) (h : w.Accounted since) {c : CardId}
    (alive : w.Alive (.card c)) (usable : (w.card c).disposed = false) {value : Bool}
    (result : (w.setResult (w.card c).qualities).2 = .ok value) :
    (w.setPushCalls (w.card c).qualities).filter (·.1 = l) =
      (w.cardPushCalls c).filter (·.1 = l) := by
  have each : ∀ entry ∈ w.setEntries (w.card c).qualities,
      (w.setTurn value entry.2).filter (·.1 = l) =
        if decide (entry.2 = .owner c) then (w.cardPushCalls c).filter (·.1 = l) else [] := by
    rintro ⟨k, l' | c'⟩ mem
    · have registered :
        (k, Subscriber.user l') ∈ (w.registry (.set (w.card c).qualities)).entries :=
        List.mem_map.2 ⟨_, (List.mem_filter.1 mem).1, rfl⟩
      simp [setTurn, listens.ne h registered nofun]
    · obtain rfl := h.owner_of_mem alive mem
      simp [setTurn]
  rw [World.setPushCalls, result]
  dsimp only
  rw [filter_flatMap_eq each, h.countP_setEntries alive usable]
  exact List.flatten_singleton

/-- Listeners of an expression are not called by a deck. -/
lemma ListensTo.users (listens : w.ListensTo l d) (h : w.Accounted since) {e : ExprId}
    {users : List (Nat × ListenerId)} (listed : ∀ entry ∈ users, userEntry entry ∈ w.exprEntries e)
    (value : Bool) : (userCalls users value).filter (fun call => call.1 = l) = [] := by
  refine List.filter_eq_nil_iff.2 fun call mem isMine => ?_
  obtain ⟨entry, isUser, rfl⟩ := List.mem_map.1 mem
  have registered : (entry.1, Subscriber.user entry.2) ∈ (w.registry (.expr e)).entries :=
    List.mem_map.2 ⟨_, (List.mem_filter.1 (listed entry isUser)).1, rfl⟩
  exact listens.ne h registered nofun (of_decide_eq_true isMine)

end

/-! ## Who listens to an expression -/

lemma exists_map_userEntry (entries : List (Nat × ExprListener))
    (users : ∀ entry ∈ entries, ∃ l, entry.2 = .user l) :
    ∃ listed : List (Nat × ListenerId), entries = listed.map userEntry := by
  induction entries with
  | nil => exact ⟨[], rfl⟩
  | cons entry rest ih =>
      obtain ⟨l, isUser⟩ := users entry List.mem_cons_self
      obtain ⟨listed, rfl⟩ := ih fun other mem => users other (.tail _ mem)
      exact ⟨(entry.1, l) :: listed, congrArg (· :: _) (Prod.ext rfl isUser)⟩

/-- **Who listens to a member of a quality set**: the set, once, and besides it subscribed
listeners. -/
lemma Accounted.exprEntries_eq (h : w.Accounted since) {q : SetId} (alive : w.Alive (.set q))
    {m : Member} (mem : m ∈ (w.set q).members) :
    ∃ before after : List (Nat × ListenerId), w.exprEntries m.expr =
      before.map userEntry ++ (m.number, .owner q) :: after.map userEntry := by
  have heldBy_state : ∀ {k binding}, (Emitter.expr m.expr, k) ∉ heldBy binding := by
    rintro k (_ | b) held
    · exact Multiset.notMem_zero _ held
    · cases Multiset.mem_singleton.1 held
  have itself : (m.number, ExprListener.owner q) ∈ w.exprEntries m.expr := by
    have held : (Emitter.expr m.expr, m.number) ∈ w.holdings (.node (.set q)) :=
      Multiset.mem_add.2 (.inr (Multiset.mem_coe.2 (List.mem_map.2 ⟨m, mem, rfl⟩)))
    obtain ⟨⟨k, l | q'⟩, listed, same⟩ :=
      List.mem_map.1 (h.balanced.registered.2 ⟨held, h.memberCurrent alive mem⟩)
    · cases (Prod.mk.inj same).2
    · obtain ⟨rfl, isNode⟩ := Prod.mk.inj same
      obtain rfl : q' = q := NodeId.set.inj (Subscriber.node.inj isNode)
      exact List.mem_filter.2 ⟨listed, setAlive_iff.2 alive⟩
  -- no other set listens to it, and this one no second time
  have only : ∀ {k q'}, (k, ExprListener.owner q') ∈ w.exprEntries m.expr → k = m.number := by
    intro k q' listed
    have registered : (k, Subscriber.node (.set q')) ∈ (w.registry (.expr m.expr)).entries :=
      List.mem_map.2 ⟨_, (List.mem_filter.1 listed).1, rfl⟩
    have held := (h.balanced.registered.1 registered).1
    obtain ⟨m', isMember, same⟩ := List.mem_map.1 (Multiset.mem_coe.1
      ((Multiset.mem_add.1 held).resolve_left heldBy_state))
    have same := Prod.mk.inj same
    have expr : m'.expr = m.expr := Emitter.expr.inj same.1
    have owned : m.expr ∈ w.members q' := expr ▸ List.mem_map_of_mem isMember
    obtain rfl := h.oneSet owned (List.mem_map_of_mem mem)
    rw [← same.2, List.inj_on_of_nodup_map (h.distinct q') isMember mem expr]
  have ascending : (w.exprEntries m.expr).Pairwise fun entry entry' => entry.1 < entry'.1 :=
    (List.pairwise_map.1 (h.balanced.ordered (.expr m.expr)).ascending).filter _
  obtain ⟨before, after, entries⟩ := List.append_of_mem itself
  rw [entries] at ascending only ⊢
  obtain ⟨-, later, earlier⟩ := List.pairwise_append.1 ascending
  have users : ∀ entry ∈ before ++ after, ∃ l, entry.2 = .user l := by
    rintro ⟨k, l | q'⟩ mem
    · exact ⟨l, rfl⟩
    · rcases List.mem_append.1 mem with mem | mem
      · exact absurd (only (List.mem_append_left _ mem))
          (Nat.ne_of_lt (earlier _ mem _ List.mem_cons_self))
      · exact absurd (only (List.mem_append_right _ (.tail _ mem)))
          (Nat.ne_of_gt ((List.pairwise_cons.1 later).1 _ mem))
  obtain ⟨before', rfl⟩ := exists_map_userEntry before fun entry mem =>
    users entry (List.mem_append_left _ mem)
  obtain ⟨after', rfl⟩ := exists_map_userEntry after fun entry mem =>
    users entry (List.mem_append_right _ mem)
  exact ⟨before', after', rfl⟩

end World

end StoryEngine
