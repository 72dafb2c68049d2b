import StoryEngine.Proofs.CallsNobody
import StoryEngine.Proofs.Disposal
import StoryEngine.Proofs.Places

/-!
# Notifications of edits

When the qualities of a card are edited, a structural pulse goes out at once: from the quality set,
from the card, or from an expression of the set.  A listener of a deck is called once for each place
that the card has in the deck, and each time with what is on offer after the edit.

* `World.QualityEdit` — the edits: a condition more or less, other conditions, or another condition
  in place of one.
* `World.Edited` — a world in which a card has been edited, and listeners have yet to be notified.
* `World.Editable` — what is known of a card that is edited.
* `World.Editable.add`, `World.Editable.remove`, `World.Editable.change`, `World.Editable.replace` —
  what each edit comes to before listeners are notified of it.
* `World.NotifiedPerPlace` — a listener of a deck has been called once for each place of a card.
* `World.QualityEdit.notified` — it is so after every edit.
* **`World.payloadsOf_of_meets`** — the same wherever a run passes through.
-/

namespace StoryEngine

namespace World

variable {w v : World} {since : NodeId → Nat} {react : Reaction}

/-! ## Edits of a card -/

/-- **An edit of the qualities of a card that takes effect**, with the world after it: the card gets
another condition or loses one, it gets other conditions altogether, or one of its expressions gets
another condition. -/
inductive QualityEdit (react : Reaction) (c : CardId) (w : World) : World → Prop
  | add {cond : String} {v : World} (done : w.addCardQuality react c cond = (v, .ok true)) :
      QualityEdit react c w v
  | remove {cond : String} {v : World}
      (done : w.removeCardQuality react c cond = (v, .ok true)) : QualityEdit react c w v
  | replace {conds : List String} {v : World} (done : w.setQualities react c conds = (v, .ok ())) :
      QualityEdit react c w v
  | change {e : ExprId} (cond : String) (mem : e ∈ w.members (w.card c).qualities) :
      QualityEdit react c w (w.changeExpr react e cond)

/-- **A world in which a card has been edited**, and listeners have yet to be notified. -/
structure Edited (c : CardId) (w u : World) : Prop where
  calls : u.calls = w.calls
  decks : u.decks = w.decks
  bound : u.boundTo (.card c) = w.boundTo (.card c)
  usable : (u.card c).disposed = false
  names : u.names = w.names
  rooted : ∀ x, w.isRooted x → u.isRooted x
  stateAlive : ∀ s, u.stateAlive s = w.stateAlive s
  coherent : u.Coherent u.Alive fun _ => False
  accounted : ∃ since, u.Accounted since ∧ since (.card c) = 0

section
variable {u : World} {c : CardId} {d : DeckId} {l : ListenerId}

/-- **A listener of a deck, and a card of the deck**, where both the deck and the card are bound to
states that are alive. -/
structure ListensToCard (w : World) (l : ListenerId) (d : DeckId) (c : CardId) : Prop where
  listens : w.ListensTo l d
  alive : w.Alive (.deck d)
  mem : c ∈ (w.deck d).cards
  deckBound : ∃ s, w.boundTo (.deck d) = some s ∧ w.stateAlive s
  cardBound : ∃ s, w.boundTo (.card c) = some s ∧ w.stateAlive s

lemma Edited.alive (h : w.Edited c u) (alive : w.Alive (.deck d)) : u.Alive (.deck d) := by
  rw [← deckAlive_iff, deckAlive] at alive ⊢
  exact h.rooted _ alive

/-- **The calls of a listener of a deck after an edit**, by pushes of the card and of its quality
set. -/
lemma Edited.pushCalls (h : w.Edited c u) (listening : w.ListensToCard l d c) :
    ∃ offer, (u.availableCards d).2 = .ok offer ∧
      (u.cardPushCalls c).filter (·.1 = l) =
        List.replicate ((w.deck d).cards.count c) (l, .cards offer) ∧
      (u.setPushCalls (u.card c).qualities).filter (·.1 = l) =
        List.replicate ((w.deck d).cards.count c) (l, .cards offer) := by
  obtain ⟨listens, alive, mem, ⟨s, bound, stateAlive⟩, s', cardBound, stateAlive'⟩ := listening
  obtain ⟨since, accounted, all⟩ := h.accounted
  have deck : u.deck d = w.deck d := by rw [World.deck, World.deck, h.decks]
  have listens : u.ListensTo l d := by
    rwa [ListensTo, deckEntries, deck]
  have deckAlive := h.alive alive
  have cardAlive : u.Alive (.card c) := .card (deck ▸ mem) deckAlive
  have setAlive : u.Alive (.set (u.card c).qualities) :=
    .set (h.coherent.bounded cardAlive) cardAlive
  have state : u.deckState d = .ok s := by
    refine boundState_ok.2 ⟨?_, (h.stateAlive s).trans stateAlive⟩
    rw [deck]
    exact bound
  obtain ⟨offer, offers⟩ : ∃ offer, (u.availableCards d).2 = .ok offer := by
    rw [h.coherent.toFresh.availableCards_value, state]
    exact ⟨_, rfl⟩
  have here : u.boundTo (.card c) = some s' := h.bound.trans cardBound
  have there : u.stateAlive s' := (h.stateAlive s').trans stateAlive'
  have value := h.coherent.setResult_value setAlive id (h.coherent.card cardAlive here there) there
  have result : (u.cardResult c).2 = .ok (u.setHolds (u.card c).qualities s') := by
    have own : u.cardState c = .ok s' := boundState_ok.2 ⟨here, there⟩
    rw [cardResult, own]
    exact value
  have notified := listens.cardPushCalls accounted deckAlive all result offers
  rw [deck] at notified
  exact ⟨offer, offers, notified,
    (listens.setPushCalls accounted cardAlive h.usable value).trans notified⟩

/-! ### What each edit comes to before listeners are notified of it -/

/-- A card that gets another quality set is bound where it was. -/
lemma replaceQualities_card (c : CardId) (conds : List String) (w : World) :
    ((w.replaceQualities c conds).1.card c).binding = (w.card c).binding ∧
      ((w.replaceQualities c conds).1.card c).disposed = (w.card c).disposed := by
  rw [replaceQualities_eq, exchangeSet_eq, (sameCards_onSet _ _ _).card_eq,
    (sameCards_disposeSet _ _).card_eq, card_turnTo, if_pos rfl, card_withNewSet]
  exact ⟨rfl, rfl⟩

/-- Where cards and decks stay as they are, most of what has to be known of an edit is known. -/
lemma SameCards.edited {since : NodeId → Nat} (same : w.SameCards u) (trace : u.trace = w.trace)
    (usable : (w.card c).disposed = false) (coherent : u.Coherent u.Alive fun _ => False)
    (accounted : u.Accounted since) (all : since (.card c) = 0) : w.Edited c u where
  calls := by rw [calls, calls, trace]
  decks := same.decks
  bound := by rw [boundTo, boundTo, same.card_eq]
  usable := by rw [same.card_eq, usable]
  names := same.names
  rooted x rooted := by rwa [isRooted, same.names, same.held]
  stateAlive := same.stateAlive_eq
  coherent := coherent
  accounted := ⟨since, accounted, all⟩

/-- To hold on to something besides makes no difference. -/
lemma Edited.unhold {x : Handle} (noState : NoState [x]) (h : (w.hold [x]).Edited c u) :
    w.Edited c u :=
  { h with
    rooted := fun y rooted => h.rooted y (isRooted_hold.2 (.inr rooted))
    stateAlive := fun s => (h.stateAlive s).trans (noState.stateAlive s) }

/-- **What is known of a world in which a card is edited.** -/
structure Editable (c : CardId) (since : NodeId → Nat) (w : World) : Prop where
  settled : w.Numbered ∧ w.Coherent w.Alive fun _ => False
  accounted : w.Accounted since
  alive : w.Alive (.card c)
  usable : (w.card c).disposed = false
  all : since (.card c) = 0

namespace Editable

lemma setAlive (h : w.Editable c since) : w.Alive (.set (w.card c).qualities) :=
  .set (h.settled.2.bounded h.alive) h.alive

lemma hold (h : w.Editable c since) : (w.hold [.set (w.card c).qualities]).Editable c since where
  settled := holds_hold Preserved.coherent h.settled (by simpa using h.setAlive)
  accounted := by
    refine h.accounted.withHeld fun x mem => ?_
    rcases List.mem_append.1 mem with mem | mem
    · exact offers_of_alive (List.mem_singleton.1 mem ▸ h.setAlive)
    · exact offers_of_held mem
  alive := (alive_hold (by simpa using h.setAlive)).2 h.alive
  usable := h.usable
  all := h.all

lemma add (h : w.Editable c since) {cond : String}
    (usable : (w.set (w.card c).qualities).disposed = false)
    (lacks : w.hasQuality (w.card c).qualities cond = false) :
    w.Edited c ((w.insertQuality (w.card c).qualities cond).1.invalidateSet
      (w.card c).qualities) := by
  have engineStep : EngineStep Rule.owned w _ :=
    .addQuality (w.card c).qualities cond (setAlive_iff.2 h.setAlive) usable lacks
  have only := cachesOnly_invalidateSet (w.card c).qualities
    (w.insertQuality (w.card c).qualities cond).1
  refine SameCards.edited (sameCards_addQuality _ cond w)
    (insertQuality_trace _ cond w) h.usable (Preserved.coherent.engineStep h.settled engineStep).2
    ((h.accounted.insertQuality _ cond).still only.still) h.all

lemma remove (h : w.Editable c since) {cond : String} {m : Member}
    (found : w.memberWith? (w.card c).qualities cond = some m) :
    w.Edited c (w.dropMember (w.card c).qualities m) := by
  have engineStep : EngineStep Rule.owned w _ :=
    .dropMember (w.card c).qualities cond m (setAlive_iff.2 h.setAlive) found
  refine SameCards.edited (sameCards_dropMember _ m w) (dropMember_trace _ m w) h.usable
    (Preserved.coherent.engineStep h.settled engineStep).2
    (h.accounted.dropMember (List.mem_of_find?_eq_some found)) ?_
  rw [raised, if_neg (by simp)]
  exact h.all

lemma change (h : w.Editable c since) {e : ExprId} (cond : String)
    (mem : e ∈ w.members (w.card c).qualities) :
    w.Edited c ((w.rewriteExpr e cond).invalidateSet (w.card c).qualities) := by
  have only := cachesOnly_invalidateSet (w.card c).qualities (w.rewriteExpr e cond)
  obtain ⟨-, awaiting⟩ := Preserved.coherent.rewrite e cond h.settled
  have coherent : ((w.rewriteExpr e cond).invalidateSet (w.card c).qualities).Coherent
      ((w.rewriteExpr e cond).invalidateSet (w.card c).qualities).Alive fun _ => False := by
    refine ((awaiting.invalidateSet (w.card c).qualities).read only).mono (fun _ => id) ?_
    rintro q ⟨mem', elsewhere⟩
    exact elsewhere (h.accounted.oneSet mem mem')
  refine SameCards.edited ?_ rfl h.usable coherent
    ((h.accounted.still (still_rewriteExpr e cond w)).still only.still) h.all
  exact ⟨rfl, rfl, rfl, rfl⟩

lemma replace (h : w.Editable c since) (conds : List String) :
    w.Edited c (w.replaceQualities c conds).1 := by
  have engineStep : EngineStep Rule.owned w _ :=
    .replaceQualities c conds (cardAlive_iff.2 h.alive) h.usable
  have onward := onward_replaceQualities c conds w
  obtain ⟨binding, disposed⟩ := replaceQualities_card c conds w
  exact {
    calls := by rw [calls, calls, replaceQualities_trace]
    decks := replaceQualities_decks c conds w
    bound := binding
    usable := disposed.trans h.usable
    names := onward.names
    rooted := fun x rooted => by rwa [onward.isRooted_eq]
    stateAlive := fun s => by
      rw [World.stateAlive, World.stateAlive, onward.isRooted_eq, onward.isRooted_eq]
    coherent := (Preserved.coherent.engineStep h.settled engineStep).2
    accounted := ⟨_, h.accounted.replaceQualities h.alive h.usable conds, by
      rw [raised, if_neg (by simp [setAndMembers])]
      exact h.all⟩ }

end Editable

/-! ### The notifications of an edit -/

/-- **The payloads that a listener was called with**, in order. -/
def payloadsOf (w : World) (l : ListenerId) : List Payload :=
  (w.calls.filter (·.1 = l)).map Prod.snd

/-- **A listener of a deck has been called once for each place** that a card has in the deck, and
every time with what is on offer by then. -/
def NotifiedPerPlace (w : World) (l : ListenerId) (d : DeckId) (c : CardId) (v : World) : Prop :=
  ∃ offer, (v.availableCards d).2 = .ok offer ∧
    v.payloadsOf l = w.payloadsOf l ++ List.replicate ((w.deck d).cards.count c) (.cards offer)

/-- **Once listeners have been notified of an edit**, the listener has been called by a push of the
card, or of the quality set of the card, and what was held on to meanwhile may have been let go. -/
lemma Edited.notified (h : w.Edited c u) (listening : w.ListensToCard l d c) {called : List Call}
    (onlyCalls : OnlyCalls called u v) (held : List Handle)
    (alive : ∀ s, (v.withRoots v.names held).stateAlive s = w.stateAlive s)
    (received : called.filter (·.1 = l) = (u.cardPushCalls c).filter (·.1 = l) ∨
      called.filter (·.1 = l) = (u.setPushCalls (u.card c).qualities).filter (·.1 = l)) :
    w.NotifiedPerPlace l d c (v.withRoots v.names held) := by
  obtain ⟨offer, offers, fromCard, fromSet⟩ := h.pushCalls listening
  have same : ∀ s, (v.withRoots v.names held).stateAlive s = v.stateAlive s := by
    intro s
    rw [alive, onlyCalls.only.stateAlive_eq, h.stateAlive]
  refine ⟨offer, ?_, ?_⟩
  · rw [(sameNodes_withRoots same).availableCards_eq onlyCalls.fresh,
      onlyCalls.availableCards_eq h.coherent.toFresh, offers]
  · have notified : called.filter (·.1 = l) =
        List.replicate ((w.deck d).cards.count c) (l, .cards offer) := by
      rcases received with received | received
      · rw [received, fromCard]
      · rw [received, fromSet]
    have calls : (v.withRoots v.names held).calls = w.calls ++ called := by
      rw [← h.calls, ← onlyCalls.calls]
      rfl
    rw [payloadsOf, calls, List.filter_append, notified, List.map_append, List.map_replicate]
    rfl

/-- The same where nothing was held on to. -/
lemma Edited.notified_plain (h : w.Edited c u) (listening : w.ListensToCard l d c)
    {called : List Call} (onlyCalls : OnlyCalls called u v)
    (received : called.filter (·.1 = l) = (u.cardPushCalls c).filter (·.1 = l) ∨
      called.filter (·.1 = l) = (u.setPushCalls (u.card c).qualities).filter (·.1 = l)) :
    w.NotifiedPerPlace l d c v :=
  h.notified listening onlyCalls v.held
    (fun s => (onlyCalls.only.stateAlive_eq s).trans (h.stateAlive s)) received

/-- The same where the quality set was held on to. -/
lemma Edited.notified_letGo (h : w.Edited c u) (listening : w.ListensToCard l d c)
    {called : List Call} (onlyCalls : OnlyCalls called u v)
    (received : called.filter (·.1 = l) = (u.cardPushCalls c).filter (·.1 = l) ∨
      called.filter (·.1 = l) = (u.setPushCalls (u.card c).qualities).filter (·.1 = l)) :
    w.NotifiedPerPlace l d c { v with held := w.held } := by
  refine h.notified listening onlyCalls w.held (fun s => ?_) received
  have same : ∀ x, (v.withRoots v.names w.held).isRooted x = w.isRooted x := by
    intro x
    rw [isRooted, isRooted, withRoots, onlyCalls.only.names, h.names]
  rw [World.stateAlive, World.stateAlive, same, same]

lemma Edited.subscribersExist (h : w.Edited c u) : u.SubscribersExist := by
  obtain ⟨since, accounted, -⟩ := h.accounted
  exact accounted.subscribersExist

/-- **The quality set of the card pushes**, while it is held on to. -/
lemma Edited.notified_set {q : SetId} (h : (w.hold [.set q]).Edited c u)
    (here : (u.card c).qualities = q) (readOnly : ReadOnly react)
    (listening : w.ListensToCard l d c) :
    w.NotifiedPerPlace l d c { u.pushSet react q none with held := w.held } := by
  have edited := h.unhold (by simp [NoState])
  have onlyCalls := OnlyCalls.pushSet readOnly edited.coherent.toFresh edited.subscribersExist q
  exact edited.notified_letGo listening onlyCalls (.inr (by rw [here]))

lemma alive_rewriteExpr {x : Handle} (e : ExprId) (cond : String) (alive : w.Alive x) :
    (w.rewriteExpr e cond).Alive x := by
  refine alive.mono (fun _ rooted => ?_) (fun _ _ mem deck => ?_) (fun _ bound card => ?_)
    fun _ _ mem set => ?_
  · exact .root rooted
  · exact .card mem deck
  · exact .set bound card
  · exact .expr mem set

/-- **A member of the quality set of the card pushes**, after it got another condition.  What its
own listeners are called with is nothing to a listener of a deck. -/
lemma Editable.pushExpr (h : w.Editable c since) (cond : String) {m : Member}
    (mem : m ∈ (w.set (w.card c).qualities).members) (readOnly : ReadOnly react)
    (listening : w.ListensToCard l d c) :
    ∃ called, OnlyCalls called ((w.rewriteExpr m.expr cond).invalidateSet (w.card c).qualities)
        (w.changeExpr react m.expr cond) ∧
      called.filter (·.1 = l) =
        (((w.rewriteExpr m.expr cond).invalidateSet (w.card c).qualities).setPushCalls
          (w.card c).qualities).filter (·.1 = l) := by
  have alive := alive_rewriteExpr m.expr cond h.alive
  obtain ⟨-, awaiting⟩ := Preserved.coherent.rewrite m.expr cond h.settled
  have accounted := h.accounted.still (still_rewriteExpr m.expr cond w)
  have setAlive := alive_rewriteExpr m.expr cond h.setAlive
  obtain ⟨s, bound, stateAlive⟩ := listening.cardBound
  have memBound := awaiting.bound setAlive (awaiting.card alive bound stateAlive) stateAlive
    (List.mem_map_of_mem mem)
  have result := awaiting.toFresh.exprResult_value (boundState_ok.2 ⟨memBound, stateAlive⟩)
  have listens : (w.rewriteExpr m.expr cond).ListensTo l d := listening.listens
  obtain ⟨before, after, entries⟩ := accounted.exprEntries_eq setAlive mem
  refine ⟨_, .pushExpr readOnly awaiting.toFresh accounted.subscribersExist
    (awaiting.quality alive) entries result, ?_⟩
  have early : ∀ entry ∈ before, userEntry entry ∈ (w.rewriteExpr m.expr cond).exprEntries m.expr :=
    fun entry mem => entries ▸ List.mem_append_left _ (List.mem_map_of_mem mem)
  have late : ∀ entry ∈ after, userEntry entry ∈ (w.rewriteExpr m.expr cond).exprEntries m.expr :=
    fun entry mem => entries ▸ List.mem_append_right _ (.tail _ (List.mem_map_of_mem mem))
  rw [List.filter_append, List.filter_append, listens.users accounted early,
    listens.users accounted late, List.nil_append, List.append_nil]
  rfl

/-- What it takes to add a condition, and what it comes to. -/
lemma addQuality_done {q : SetId} {cond : String}
    (done : w.addQuality react q cond = (v, .ok true)) :
    (w.set q).disposed = false ∧ w.hasQuality q cond = false ∧
      ((w.insertQuality q cond).1.invalidateSet q).pushSet react q none = v := by
  unfold addQuality at done
  split at done
  · cases done
  · next usable =>
      rcases inserted : w.insertQuality q cond with ⟨u, fresh⟩
      rw [inserted] at done
      cases fresh with
      | false => cases done
      | true =>
          refine ⟨by simpa using usable, ?_, congrArg Prod.fst done⟩
          by_contra has
          rw [insertQuality, if_pos (by simpa using has)] at inserted
          cases inserted

/-- What it takes to remove a condition, and what it comes to. -/
lemma removeQuality_done {q : SetId} {cond : String}
    (done : w.removeQuality react q cond = (v, true)) :
    ∃ m, w.memberWith? q cond = some m ∧ (w.dropMember q m).pushSet react q none = v := by
  unfold removeQuality at done
  split at done
  · cases done
  · next m found => exact ⟨m, found, congrArg Prod.fst done⟩

/-- What it comes to when a card gets other conditions. -/
lemma setQualities_done {conds : List String} (done : w.setQualities react c conds = (v, .ok ())) :
    (w.replaceQualities c conds).1.pushCard react c none = v := by
  unfold setQualities at done
  split at done
  · cases done
  · split at done
    · cases done
    · next u replaced =>
        rw [replaced]
        exact congrArg Prod.fst done

/-- **An edit calls a listener of a deck once for each place** that the card has there. -/
theorem QualityEdit.notified (edit : QualityEdit react c w v) (h : w.Editable c since)
    (readOnly : ReadOnly react) (listening : w.ListensToCard l d c) :
    w.NotifiedPerPlace l d c v := by
  cases edit with
  | @add cond _ done =>
      rw [addCardQuality, if_neg (by simp [h.usable])] at done
      rcases inner : (w.hold [.set (w.card c).qualities]).addQuality react (w.card c).qualities cond
        with ⟨v', outcome⟩
      rw [holdingFor, inner] at done
      obtain ⟨rfl, rfl⟩ := Prod.mk.inj done
      obtain ⟨usable, lacks, rfl⟩ := addQuality_done inner
      have same := (sameCards_addQuality (w.card c).qualities cond
        (w.hold [.set (w.card c).qualities])).card_eq c
      exact (h.hold.add usable lacks).notified_set (congrArg (·.qualities) same) readOnly listening
  | @remove cond _ done =>
      rw [removeCardQuality, if_neg (by simp [h.usable])] at done
      rcases inner : (w.hold [.set (w.card c).qualities]).removeQuality react (w.card c).qualities
        cond with ⟨v', removed⟩
      rw [holdingFor, inner] at done
      obtain ⟨rfl, outcome⟩ := Prod.mk.inj done
      obtain rfl : removed = true := Except.ok.inj outcome
      obtain ⟨m, found, rfl⟩ := removeQuality_done inner
      have same := (sameCards_dropMember (w.card c).qualities m
        (w.hold [.set (w.card c).qualities])).card_eq c
      exact (h.hold.remove found).notified_set (congrArg (·.qualities) same) readOnly listening
  | @replace conds _ done =>
      obtain rfl := setQualities_done done
      have edited := h.replace conds
      have onlyCalls :=
        OnlyCalls.pushCard readOnly edited.coherent.toFresh edited.subscribersExist c
      exact edited.notified_plain listening onlyCalls (.inl rfl)
  | @change e cond mem =>
      obtain ⟨m, isMember, rfl⟩ := List.mem_map.1 mem
      obtain ⟨called, onlyCalls, received⟩ := h.pushExpr cond isMember readOnly listening
      exact (h.change cond mem).notified_plain listening onlyCalls (.inr received)

/-- **What is known of a card wherever a run passes through**, if the card belongs to a deck alive
and can be bound. -/
lemma editable_of_meets {look : Supervisor} {depth : Nat} {steps : List Step} {step : Step}
    (owned : look.Obeys Rule.owned.allows) (keeping : look.Obeys Licence.keeping.allows)
    (meets : Meets look depth steps step w) (listening : w.ListensToCard l d c) :
    ∃ since, w.Editable c since := by
  have passes : Passes look depth steps w := .inl ⟨step, meets⟩
  have watches : look.Watches := fun step w w' passed => (keeping step w w' passed).1
  obtain ⟨since, reachable⟩ := Upheld.of_passes (upheld_reachable _) ⟨_, .empty⟩ keeping passes
  have transacted := reachable.transacted
  have usable : (w.card c).disposed = false := by
    obtain ⟨s, bound, -⟩ := listening.cardBound
    by_contra gone
    rw [Bool.not_eq_false] at gone
    rcases Reached.atRest (.of_passes watches passes) (.card c) gone with
      unbound | ⟨e, q, isExpr, -⟩
    · rw [unbound] at bound
      cases bound
    · cases isExpr
  exact ⟨since, Preserved.coherent.of_meets ⟨.empty, .empty⟩ owned meets, transacted.accounted,
    .card listening.mem listening.alive, usable, transacted.since_card usable⟩

/-- **A listener of a deck is notified of an edit of a card once for each place** that the card has
in the deck, and every time what is on offer after the edit.  This is so wherever a run passes
through in which nodes that have an owner are left to their owner and no emitter is cleared, if the
listeners do no more than read. -/
theorem payloadsOf_of_meets {look : Supervisor} {depth : Nat} {steps : List Step} {step : Step}
    (owned : look.Obeys Rule.owned.allows) (keeping : look.Obeys Licence.keeping.allows)
    (meets : Meets look depth steps step w) (readOnly : ReadOnly react)
    (listening : w.ListensToCard l d c)
    (edit : QualityEdit react c w v) :
    ∃ offer, (v.availableCards d).2 = .ok offer ∧ v.payloadsOf l =
      w.payloadsOf l ++ List.replicate ((w.deck d).cards.count c) (.cards offer) := by
  obtain ⟨since, editable⟩ := editable_of_meets owned keeping meets listening
  exact edit.notified editable readOnly listening

/-- A card is in a deck twice, and loses its only condition. -/
def losesCondition : List Step :=
  [.act (.state (.create "state")), .act (.card (.create "card" "" ["false"] none .fresh)),
    .act (.deck (.create "deck" ["card", "card"] (some "state") .none)),
    .subscribe "deck" "listener" [] 1,
    .act (.card (.removeQuality "card" "false"))]

/-- The listener is called twice for one edit. -/
example :
    (runUnder .free fire losesCondition .empty).payloadsOf ⟨0⟩ =
      [.cards [⟨0⟩, ⟨0⟩], .cards [⟨0⟩, ⟨0⟩]] := by
  decide +kernel

end

end World

end StoryEngine
