import StoryEngine.Proofs.Offer

/-!
# Structural pulses

The pulse of an edit has no revision of a state, so every gate admits it: each node that it reaches
notifies all its listeners, every time.  As long as the listeners do no more than read, all their
calls can be given in advance, from the world as it is when the push begins.

* `ReadOnly` — listeners who do no more than read.
* `World.deckPushCalls`, `World.cardPushCalls`, `World.setPushCalls` — the calls that are made when
  a node pushes.
* `World.SubscribersExist` — who listens to a quality set or a card is there.
* `World.SameNodes` — worlds in which the same is read, whatever is named or held on to.
* **`World.OnlyCalls.pushDeck`**, **`World.OnlyCalls.pushCard`**, **`World.OnlyCalls.pushSet`** —
  these calls are made, and nothing else happens.
* **`World.OnlyCalls.pushExpr`** — the same for an expression that belongs to a quality set.
-/

namespace StoryEngine

open World in
/-- **Listeners who do no more than read** when they are called. -/
def ReadOnly (react : Reaction) : Prop :=
  ∀ l payload w, w.Fresh → OnlyCalls [(l, payload)] w (react l payload w)

open World in
/-- Listeners without a program do nothing. -/
lemma readOnly_fire : ReadOnly fire := by
  intro l payload w fresh
  refine .of_sets fresh (cachesOnly_record _ w) (fresh.record _) rfl ?_
  exact calls_fire l payload w

/-- A change of an object that there is, which leaves it as it is. -/
lemma Table.modify_self {α : Type} [Inhabited α] (t : Table α) {i : Nat} (bound : i < t.size) :
    t.modify i (fun a => a) = t := by
  have same : ∀ (cells : List α) (i : Nat), i < cells.length →
      write cells i (cells.getD i default) = cells := by
    intro cells
    induction cells with
    | nil => nofun
    | cons x rest ih =>
        rintro (_ | i) bound
        · rfl
        · exact congrArg (x :: ·) (ih i (Nat.lt_of_succ_lt_succ bound))
  exact congrArg Table.mk (same t.cells i bound)

namespace World

variable {w v u : World} {called more : List Call} {react : Reaction}

/-! ## Who is called stays the same -/

lemma CachesOnly.deckAlive_eq (h : w.CachesOnly v) (d : DeckId) : v.deckAlive d = w.deckAlive d :=
  h.isRooted_eq _

lemma CachesOnly.cardAlive_eq (h : w.CachesOnly v) (c : CardId) :
    v.cardAlive c = w.cardAlive c := by
  rw [Bool.eq_iff_iff, cardAlive_iff, cardAlive_iff, h.alive]

lemma CachesOnly.cardListenerAlive_eq (h : w.CachesOnly v) (l : CardListener) :
    v.cardListenerAlive l = w.cardListenerAlive l := by
  cases l with
  | user l => rfl
  | owner d => exact h.deckAlive_eq d

lemma CachesOnly.setListenerAlive_eq (h : w.CachesOnly v) (l : SetListener) :
    v.setListenerAlive l = w.setListenerAlive l := by
  cases l with
  | user l => rfl
  | owner c => exact h.cardAlive_eq c

lemma CachesOnly.deckEntries_eq (h : w.CachesOnly v) (d : DeckId) :
    v.deckEntries d = w.deckEntries d := by
  rw [deckEntries, deckEntries, h.deck_eq]

lemma CachesOnly.cardEntries_eq (h : w.CachesOnly v) (c : CardId) :
    v.cardEntries c = w.cardEntries c := by
  rw [cardEntries, cardEntries, h.card_eq]
  simp only [h.cardListenerAlive_eq]

lemma CachesOnly.setEntries_eq (h : w.CachesOnly v) (q : SetId) :
    v.setEntries q = w.setEntries q := by
  rw [setEntries, setEntries, h.set q]
  simp only [h.setListenerAlive_eq]

/-- **Who listens is there.** -/
structure SubscribersExist (w : World) : Prop where
  card : ∀ {q k c}, (k, .owner c) ∈ (w.set q).listeners.entries → c.place < w.cards.size
  deck : ∀ {c k d}, (k, .owner d) ∈ (w.card c).listeners.entries → d.place < w.decks.size

lemma CachesOnly.subscribersExist (h : w.CachesOnly v) (exist : w.SubscribersExist) :
  v.SubscribersExist where
  card {q k c} mem := by
    rw [h.set q] at mem
    rw [h.cards]
    exact exist.card mem
  deck {c k d} mem := by
    rw [h.card_eq] at mem
    rw [h.decks]
    exact exist.deck mem

/-! ## Rounds -/

/-- **Everyone has a turn**, and the calls made in the turns add up. -/
lemma foldl_turns {α : Type} {Made : List Call → World → World → Prop}
    (trans : ∀ {called more : List Call} {v u : World},
      Made called w v → Made more v u → Made (called ++ more) w u)
    (isActive : World → Nat × α → Bool) (call : α → World → World) {callsOf : Nat × α → List Call}
    {es : List (Nat × α)} (start : Made [] w w)
    (turn : ∀ entry ∈ es, ∀ {called v}, Made called w v →
      isActive v entry ∧ Made (callsOf entry) v (call entry.2 v)) :
    Made (es.flatMap callsOf) w
      (es.foldl (fun w entry => if isActive w entry then call entry.2 w else w) w) := by
  have turns : ∀ (rest : List (Nat × α)) (called : List Call) (v : World), rest ⊆ es →
      Made called w v → Made (called ++ rest.flatMap callsOf) w
        (rest.foldl (fun w entry => if isActive w entry then call entry.2 w else w) v) := by
    intro rest
    induction rest with
    | nil =>
        intro called v _ h
        rw [List.flatMap_nil, List.append_nil]
        exact h
    | cons entry rest ih =>
        intro called v mem h
        obtain ⟨active, callsOf⟩ := turn entry (mem List.mem_cons_self) h
        rw [List.foldl_cons, if_pos active, List.flatMap_cons, ← List.append_assoc]
        exact ih _ _ (fun _ there => mem (.tail _ there)) (trans h callsOf)
  exact turns es [] w (List.Subset.refl _) start

/-- **Everyone has a turn**, and does no more in it than make some calls. -/
lemma OnlyCalls.foldl {α : Type} (isActive : World → Nat × α → Bool) (call : α → World → World)
    {callsOf : Nat × α → List Call} {es : List (Nat × α)} (fresh : w.Fresh)
    (turn : ∀ entry ∈ es, ∀ {called v}, OnlyCalls called w v →
      isActive v entry ∧ OnlyCalls (callsOf entry) v (call entry.2 v)) :
    OnlyCalls (es.flatMap callsOf) w
      (es.foldl (fun w entry => if isActive w entry then call entry.2 w else w) w) :=
  foldl_turns .trans isActive call (.refl fresh) turn

/-- **A round** in which everyone who listens does no more than make some calls. -/
lemma OnlyCalls.round {α : Type} (entries : World → List (Nat × α))
    {isActive : World → Nat × α → Bool} {call : α → World → World} {callsOf : Nat × α → List Call}
    (fresh : w.Fresh)
    (turn : ∀ entry ∈ entries w, ∀ {called v}, OnlyCalls called w v →
      isActive v entry ∧ OnlyCalls (callsOf entry) v (call entry.2 v)) :
    OnlyCalls ((entries w).flatMap callsOf) w (w.round entries isActive call) :=
  .foldl isActive call fresh turn

lemma has_of_mem {α : Type} {r : Registry α} {entry : Nat × α} (mem : entry ∈ r.entries) :
    r.has entry.1 :=
  List.any_eq_true.2 ⟨entry, mem, beq_self_eq_true _⟩

/-! ## Holding on -/

/-- **Worlds with the same states and nodes**, in which the same states are alive.  Who the
listeners are, what is named and what is held on to makes no difference to reading. -/
structure SameNodes (w v : World) : Prop where
  stores : v.stores = w.stores
  exprs : v.exprs = w.exprs
  sets : v.sets = w.sets
  cards : v.cards = w.cards
  decks : v.decks = w.decks
  alive : ∀ s, v.stateAlive s = w.stateAlive s

namespace SameNodes

variable (h : w.SameNodes v)
include h

lemma store_eq (s : StateId) : v.store s = w.store s := by rw [World.store, World.store, h.stores]

lemma expr_eq (e : ExprId) : v.expr e = w.expr e := by rw [World.expr, World.expr, h.exprs]

lemma set_eq (q : SetId) : v.set q = w.set q := by rw [World.set, World.set, h.sets]

lemma card_eq (c : CardId) : v.card c = w.card c := by rw [World.card, World.card, h.cards]

lemma deck_eq (d : DeckId) : v.deck d = w.deck d := by rw [World.deck, World.deck, h.decks]

lemma fresh (fresh : w.Fresh) : v.Fresh :=
  fresh.alike h.store_eq h.expr_eq

lemma boundState_eq (kind : NodeKind) (o : Option StateId) :
    v.boundState kind o = w.boundState kind o := by
  cases o with
  | none => rfl
  | some s => rw [boundState, boundState, h.alive]

lemma exprHolds_eq (e : ExprId) (s : StateId) : v.exprHolds e s = w.exprHolds e s := by
  rw [exprHolds, exprHolds, h.expr_eq, h.store_eq]

lemma members_eq (q : SetId) : v.members q = w.members q := by rw [members, members, h.set_eq]

lemma allHold_eq (es : List ExprId) : v.allHold es = w.allHold es := by
  induction es with
  | nil => rfl
  | cons e rest ih =>
      rw [allHold, allHold, exprState, exprState, h.expr_eq, h.boundState_eq]
      simp only [h.exprHolds_eq, ih]

lemma setResult_eq (fresh : w.Fresh) (q : SetId) : (v.setResult q).2 = (w.setResult q).2 := by
  rw [(h.fresh fresh).setResult_eq, fresh.setResult_eq, setState, setState, h.set_eq,
    h.boundState_eq]
  simp only [h.store_eq, h.members_eq, h.allHold_eq]

lemma cardResult_eq (fresh : w.Fresh) (c : CardId) : (v.cardResult c).2 = (w.cardResult c).2 := by
  rw [cardResult, cardResult, cardState, cardState, h.card_eq, h.boundState_eq]
  split
  · rfl
  · exact h.setResult_eq fresh _

lemma availableCards_eq (fresh : w.Fresh) (d : DeckId) :
    (v.availableCards d).2 = (w.availableCards d).2 := by
  have holds : ∀ q s, v.setHolds q s = w.setHolds q s := fun q s =>
    setHolds_congr (h.members_eq q) fun e _ => h.exprHolds_eq e s
  have reads : ∀ s c, v.deckReads s c = w.deckReads s c := fun s c => by
    rw [deckReads, deckReads, h.cardResult_eq fresh, h.card_eq, holds]
  rw [(h.fresh fresh).availableCards_value, fresh.availableCards_value, deckState, deckState,
    h.deck_eq, h.boundState_eq]
  simp only [h.card_eq, reads]

end SameNodes

/-- To hold on to other objects makes no difference, as long as the same states are alive. -/
lemma sameNodes_withRoots {names : List (String × Object)} {held : List Handle}
    (same : ∀ s, (w.withRoots names held).stateAlive s = w.stateAlive s) :
    w.SameNodes (w.withRoots names held) :=
  ⟨rfl, rfl, rfl, rfl, rfl, same⟩

lemma sameNodes_hold {hs : List Handle} (same : ∀ s, (w.hold hs).stateAlive s = w.stateAlive s) :
    w.SameNodes (w.hold hs) :=
  ⟨rfl, rfl, rfl, rfl, rfl, same⟩

/-- Whether an object is held on to does not depend on others. -/
lemma isRooted_hold_of_notMem {hs : List Handle} {x : Handle} (other : x ∉ hs) :
    (w.hold hs).isRooted x = w.isRooted x := by
  rw [Bool.eq_iff_iff, isRooted_hold]
  exact or_iff_right other

/-- **Objects that are no states**, nor open batches. -/
def NoState (hs : List Handle) : Prop :=
  ∀ s, Handle.state s ∉ hs ∧ Handle.batch s ∉ hs

lemma NoState.stateAlive {hs : List Handle} (noState : NoState hs) (s : StateId) :
    (w.hold hs).stateAlive s = w.stateAlive s := by
  rw [World.stateAlive, World.stateAlive, isRooted_hold_of_notMem (noState s).1,
    isRooted_hold_of_notMem (noState s).2]

lemma NoState.sameNodes {hs : List Handle} (noState : NoState hs) : w.SameNodes (w.hold hs) :=
  sameNodes_hold noState.stateAlive

/-- **What was held on to is let go**, by which no state comes to its end. -/
lemma OnlyCalls.letGo {hs : List Handle} (same : ∀ s, (w.hold hs).stateAlive s = w.stateAlive s)
    (fresh : w.Fresh) (h : OnlyCalls called (w.hold hs) v) : OnlyCalls called w { v with held :=
    w.held } := by
  have alive : ∀ s, (v.withRoots v.names w.held).stateAlive s = v.stateAlive s := by
    intro s
    have before : (v.withRoots v.names w.held).stateAlive s = w.stateAlive s := by
      have same : ∀ x, (v.withRoots v.names w.held).isRooted x = w.isRooted x := fun x => by
        rw [isRooted, isRooted, withRoots, h.only.names]
        rfl
      rw [World.stateAlive, World.stateAlive, same, same]
    rw [before, h.only.stateAlive_eq, same]
  refine ⟨{ h.only with held := rfl }, h.fresh.withRoots _ _, fun q => ?_, h.calls⟩
  have after : (({ v with held := w.held } : World).setResult q).2 = (v.setResult q).2 :=
    (sameNodes_withRoots alive).setResult_eq h.fresh q
  have before : ((w.hold hs).setResult q).2 = (w.setResult q).2 :=
    (sameNodes_hold same).setResult_eq fresh q
  rw [after, h.results, before]

/-- **An operation during which some objects are held on to.** -/
lemma OnlyCalls.holding {hs : List Handle} (noState : NoState hs) (fresh : w.Fresh)
    {op : World → World} (body : OnlyCalls called (w.hold hs) (op (w.hold hs))) :
    OnlyCalls called w (w.holding hs op) :=
  body.letGo noState.stateAlive fresh

/-! ## Decks -/

/-- **The calls that a push of a deck makes**: of all its listeners, with the cards on offer.  If
these cannot be determined there are none. -/
def deckPushCalls (w : World) (d : DeckId) : List Call :=
  match (w.availableCards d).2 with
  | .ok cards => (w.deckEntries d).map fun entry => (entry.2, .cards cards)
  | .error _ => []

lemma OnlyCalls.availableCards_eq (h : OnlyCalls called w v) (fresh : w.Fresh) (d : DeckId) :
    (v.availableCards d).2 = (w.availableCards d).2 := by
  have state : v.deckState d = w.deckState d := by
    rw [deckState, deckState, h.only.boundState_eq, h.only.deck_eq]
  rw [h.fresh.availableCards_value, fresh.availableCards_value, state]
  simp only [h.only.deck_eq, h.only.card_eq, h.deckReads_eq]

lemma OnlyCalls.deckPushCalls_eq (h : OnlyCalls called w v) (fresh : w.Fresh) (d : DeckId) :
    v.deckPushCalls d = w.deckPushCalls d := by
  rw [deckPushCalls, deckPushCalls, h.availableCards_eq fresh, h.only.deckEntries_eq]

lemma deckPushCalls_hold {hs : List Handle} (noState : NoState hs) (fresh : w.Fresh) (d : DeckId) :
    (w.hold hs).deckPushCalls d = w.deckPushCalls d := by
  have cards : ((w.hold hs).availableCards d).2 = (w.availableCards d).2 :=
    noState.sameNodes.availableCards_eq fresh d
  rw [deckPushCalls, deckPushCalls, cards]
  rfl

/-- A deck that is bound to nothing, or to which nobody listens, does not push. -/
lemma deckPushCalls_of_nobody (fresh : w.Fresh) {d : DeckId}
    (nobody : ((w.deckEntries d).isEmpty || (w.deck d).binding.isNone) = true) :
    w.deckPushCalls d = [] := by
  rw [deckPushCalls]
  rcases Bool.or_eq_true_iff.1 nobody with none | unbound
  · rw [List.isEmpty_iff.1 none]
    split <;> rfl
  · rw [fresh.availableCards_value, deckState, Option.isNone_iff_eq_none.1 unbound]
    rfl

lemma OnlyCalls.notifyDeck (readOnly : ReadOnly react) (fresh : w.Fresh) (d : DeckId)
    (cause : Option Nat) (cards : List CardId) :
    OnlyCalls ((w.deckEntries d).map fun entry => (entry.2, .cards cards)) w
      (w.notifyDeck react d cause cards) := by
  have announced : OnlyCalls [] w (w.announce (.deck d) cause (.cards cards)) := .record fresh rfl
  have turns : OnlyCalls ((w.deckEntries d).flatMap fun entry => [(entry.2, .cards cards)])
      (w.announce (.deck d) cause (.cards cards)) (w.notifyDeck react d cause cards) := by
    refine .round (·.deckEntries d) announced.fresh fun entry mem called v h => ⟨?_, ?_⟩
    · rw [deckActive, h.only.deck_eq]
      exact has_of_mem mem
    · exact readOnly _ _ v h.fresh
  rw [← List.map_eq_flatMap] at turns
  exact announced.trans turns

/-- **A deck pushes.** -/
theorem OnlyCalls.pushDeck (readOnly : ReadOnly react) (fresh : w.Fresh) (d : DeckId)
    (cause : Option Nat) :
    OnlyCalls (w.deckPushCalls d) w (w.pushDeck react d cause) := by
  have read := OnlyCalls.availableCards fresh d
  rw [World.pushDeck]
  split
  · next nobody =>
      rw [deckPushCalls_of_nobody fresh nobody]
      exact .refl fresh
  · rw [deckPushCalls]
    rcases done : w.availableCards d with ⟨v, fault | cards⟩
    all_goals
      rw [done] at read
      dsimp only at read ⊢
    · exact read.trans (.note read.fresh _)
    · rw [← read.only.deckEntries_eq]
      have noState : NoState (cards.map .card) := by simp [NoState]
      have held : (v.hold (cards.map .card)).Fresh := read.fresh.withRoots _ _
      exact read.trans (.holding noState read.fresh (.notifyDeck readOnly held d cause cards))

/-- **A structural pulse reaches a deck.** -/
lemma OnlyCalls.deckOnChange (readOnly : ReadOnly react) (fresh : w.Fresh) {d : DeckId}
    (exist : d.place < w.decks.size) :
    OnlyCalls (w.deckPushCalls d) w (w.deckOnChange react d none) := by
  have same : (w.onDeck d fun n => { n with gate := n.gate.after none }) = w := by
    have table : w.decks.modify d.place (fun n => n) = w.decks := Table.modify_self _ exist
    exact congrArg (fun decks => { w with decks }) table
  have notified : w.deckOnChange react d none = w.pushDeck react d none := by
    rw [World.deckOnChange, same]
    rfl
  rw [notified]
  exact .pushDeck readOnly fresh d none

/-! ## Cards -/

/-- The calls that a listener of a card makes when its turn comes. -/
def cardTurn (w : World) (value : Bool) : CardListener → List Call
  | .user l => [(l, .truth value)]
  | .owner d => w.deckPushCalls d

/-- **The calls that a push of a card makes**: of all its listeners, with its result, and those that
its decks make in turn.  If there is no result there are none. -/
def cardPushCalls (w : World) (c : CardId) : List Call :=
  match (w.cardResult c).2 with
  | .ok value => (w.cardEntries c).flatMap fun entry => w.cardTurn value entry.2
  | .error _ => []

/-- A card that is bound to nothing, or to which nobody listens, does not push. -/
lemma cardPushCalls_of_nobody {c : CardId}
    (nobody : ((w.cardEntries c).isEmpty || (w.card c).binding.isNone) = true) :
    w.cardPushCalls c = [] := by
  rw [cardPushCalls]
  rcases Bool.or_eq_true_iff.1 nobody with none | unbound
  · rw [List.isEmpty_iff.1 none]
    split <;> rfl
  · rw [cardResult, cardState, Option.isNone_iff_eq_none.1 unbound]
    rfl

lemma OnlyCalls.cardTurn_eq (h : OnlyCalls called w v) (fresh : w.Fresh) (value : Bool)
    (l : CardListener) :
    v.cardTurn value l = w.cardTurn value l := by
  cases l with
  | user l => rfl
  | owner d => exact h.deckPushCalls_eq fresh d

lemma OnlyCalls.cardPushCalls_eq (h : OnlyCalls called w v) (fresh : w.Fresh) (c : CardId) :
    v.cardPushCalls c = w.cardPushCalls c := by
  rw [cardPushCalls, cardPushCalls, h.cardResult_eq, h.only.cardEntries_eq]
  simp only [h.cardTurn_eq fresh]

lemma OnlyCalls.callCard (readOnly : ReadOnly react) (fresh : w.Fresh) (exist : w.SubscribersExist)
    {c : CardId} {entry : Nat × CardListener} (mem : entry ∈ w.cardEntries c) (value : Bool) :
    OnlyCalls (w.cardTurn value entry.2) w (callCard react value none entry.2 w) := by
  obtain ⟨k, l | d⟩ := entry
  · exact readOnly l _ w fresh
  · have noState : NoState [.deck d] := by simp [NoState]
    have there : d.place < w.decks.size := exist.deck (List.mem_filter.1 mem).1
    have notified :=
      OnlyCalls.deckOnChange readOnly (fresh.withRoots w.names ([.deck d] ++ w.held)) there
    replace notified : OnlyCalls ((w.hold [.deck d]).deckPushCalls d) (w.hold [.deck d])
      ((w.hold [.deck d]).deckOnChange react d none) := notified
    rw [deckPushCalls_hold noState fresh] at notified
    exact notified.holding noState fresh

/-- **A card pushes.** -/
theorem OnlyCalls.pushCard (readOnly : ReadOnly react) (fresh : w.Fresh)
    (exist : w.SubscribersExist) (c : CardId) :
    OnlyCalls (w.cardPushCalls c) w (w.pushCard react c none) := by
  have read := OnlyCalls.cardResult fresh c
  rw [World.pushCard]
  split
  · next nobody =>
      rw [cardPushCalls_of_nobody nobody]
      exact .refl fresh
  · rw [cardPushCalls]
    rcases done : w.cardResult c with ⟨v, fault | value⟩
    all_goals
      rw [done] at read
      dsimp only at read ⊢
    · exact read.trans (.note read.fresh _)
    · have announced : OnlyCalls [] w (v.announce (.card c) none (.truth value)) :=
        read.trans (.record read.fresh rfl)
      have present := announced.only.subscribersExist exist
      rw [← announced.only.cardEntries_eq]
      simp only [← announced.cardTurn_eq fresh]
      refine announced.trans
        (.round (·.cardEntries c) announced.fresh fun entry mem called u h => ?_)
      constructor
      · rw [cardActive, h.only.card_eq, h.only.cardListenerAlive_eq, Bool.and_eq_true]
        exact ⟨has_of_mem (List.mem_filter.1 mem).1, (List.mem_filter.1 mem).2⟩
      · rw [← h.only.cardEntries_eq] at mem
        rw [← h.cardTurn_eq announced.fresh]
        exact .callCard readOnly h.fresh (h.only.subscribersExist present) mem value

/-- **A structural pulse reaches a card.** -/
lemma OnlyCalls.cardOnChange (readOnly : ReadOnly react) (fresh : w.Fresh)
    (exist : w.SubscribersExist) {c : CardId}
    (there : c.place < w.cards.size) :
    OnlyCalls (w.cardPushCalls c) w (w.cardOnChange react c none) := by
  have same : (w.onCard c fun n => { n with gate := n.gate.after none }) = w := by
    have table : w.cards.modify c.place (fun n => n) = w.cards := Table.modify_self _ there
    exact congrArg (fun cards => { w with cards }) table
  have notified : w.cardOnChange react c none = w.pushCard react c none := by
    rw [World.cardOnChange, same]
    rfl
  rw [notified]
  exact .pushCard readOnly fresh exist c

/-- The calls that a push of a card makes do not depend on what is held on to, but for states and
decks. -/
lemma cardPushCalls_hold {hs : List Handle} (noState : NoState hs)
    (noDeck : ∀ d, Handle.deck d ∉ hs)
    (fresh : w.Fresh) (c : CardId) : (w.hold hs).cardPushCalls c = w.cardPushCalls c := by
  have result : ((w.hold hs).cardResult c).2 = (w.cardResult c).2 :=
    noState.sameNodes.cardResult_eq fresh c
  have listenerAlive : ∀ l, (w.hold hs).cardListenerAlive l = w.cardListenerAlive l := by
    rintro (l | d)
    · rfl
    · exact isRooted_hold_of_notMem (noDeck d)
  have entries : (w.hold hs).cardEntries c = w.cardEntries c := by
    rw [cardEntries, cardEntries]
    simp only [listenerAlive]
    rfl
  have turn : ∀ value l, (w.hold hs).cardTurn value l = w.cardTurn value l := by
    rintro value (l | d)
    · rfl
    · exact deckPushCalls_hold noState fresh d
  rw [cardPushCalls, cardPushCalls, result, entries]
  simp only [turn]

/-! ## Quality sets -/

/-- The calls that a listener of a quality set makes when its turn comes. -/
def setTurn (w : World) (value : Bool) : SetListener → List Call
  | .user l => [(l, .truth value)]
  | .owner c => w.cardPushCalls c

/-- **The calls that a push of a quality set makes**: of all its listeners, with its result, and
those that its card makes in turn.  If there is no result there are none. -/
def setPushCalls (w : World) (q : SetId) : List Call :=
  match (w.setResult q).2 with
  | .ok value => (w.setEntries q).flatMap fun entry => w.setTurn value entry.2
  | .error _ => []

/-- A quality set that is bound to nothing, or to which nobody listens, does not push. -/
lemma setPushCalls_of_nobody {q : SetId}
    (nobody : ((w.setEntries q).isEmpty || (w.set q).binding.isNone) = true) :
    w.setPushCalls q = [] := by
  rw [setPushCalls]
  rcases Bool.or_eq_true_iff.1 nobody with none | unbound
  · rw [List.isEmpty_iff.1 none]
    split <;> rfl
  · rw [setResult, setState, Option.isNone_iff_eq_none.1 unbound]
    rfl

lemma OnlyCalls.setTurn_eq (h : OnlyCalls called w v) (fresh : w.Fresh) (value : Bool)
    (l : SetListener) :
    v.setTurn value l = w.setTurn value l := by
  cases l with
  | user l => rfl
  | owner c => exact h.cardPushCalls_eq fresh c

lemma OnlyCalls.setPushCalls_eq (h : OnlyCalls called w v) (fresh : w.Fresh) (q : SetId) :
    v.setPushCalls q = w.setPushCalls q := by
  rw [setPushCalls, setPushCalls, h.results, h.only.setEntries_eq]
  simp only [h.setTurn_eq fresh]

lemma OnlyCalls.callSet (readOnly : ReadOnly react) (fresh : w.Fresh) (exist : w.SubscribersExist)
    {q : SetId} {entry : Nat × SetListener} (mem : entry ∈ w.setEntries q) (value : Bool) :
    OnlyCalls (w.setTurn value entry.2) w (callSet react value none entry.2 w) := by
  obtain ⟨k, l | c⟩ := entry
  · exact readOnly l _ w fresh
  · have noState : NoState [.card c] := by simp [NoState]
    have there : c.place < w.cards.size := exist.card (List.mem_filter.1 mem).1
    have held : (w.hold [.card c]).Fresh := fresh.withRoots _ _
    have present : (w.hold [.card c]).SubscribersExist := ⟨exist.card, exist.deck⟩
    have notified : OnlyCalls ((w.hold [.card c]).cardPushCalls c) (w.hold [.card c])
        ((w.hold [.card c]).cardOnChange react c none) := .cardOnChange readOnly held present there
    rw [cardPushCalls_hold noState (by simp) fresh] at notified
    exact notified.holding noState fresh

/-- **A quality set pushes.** -/
theorem OnlyCalls.pushSet (readOnly : ReadOnly react) (fresh : w.Fresh) (exist : w.SubscribersExist)
    (q : SetId) :
    OnlyCalls (w.setPushCalls q) w (w.pushSet react q none) := by
  have read := OnlyCalls.setResult fresh q
  rw [World.pushSet]
  split
  · next nobody =>
      rw [setPushCalls_of_nobody nobody]
      exact .refl fresh
  · rw [setPushCalls]
    rcases done : w.setResult q with ⟨v, fault | value⟩
    all_goals
      rw [done] at read
      dsimp only at read ⊢
    · exact read.trans (.note read.fresh _)
    · have announced : OnlyCalls [] w (v.announce (.set q) none (.truth value)) :=
        read.trans (.record read.fresh rfl)
      have present := announced.only.subscribersExist exist
      rw [← announced.only.setEntries_eq]
      simp only [← announced.setTurn_eq fresh]
      refine announced.trans
        (.round (·.setEntries q) announced.fresh fun entry mem called u h => ?_)
      constructor
      · rw [setActive, h.only.set q, h.only.setListenerAlive_eq, Bool.and_eq_true]
        exact ⟨has_of_mem (List.mem_filter.1 mem).1, (List.mem_filter.1 mem).2⟩
      · rw [← h.only.setEntries_eq] at mem
        rw [← h.setTurn_eq announced.fresh]
        exact .callSet readOnly h.fresh (h.only.subscribersExist present) mem value

/-- The calls that a push of a quality set makes do not depend on which sets and expressions are
held on to. -/
lemma setPushCalls_hold {q : SetId} (fresh : w.Fresh) :
    (w.hold [.set q]).setPushCalls q = w.setPushCalls q := by
  have noState : NoState [.set q] := by simp [NoState]
  have result : ((w.hold [.set q]).setResult q).2 = (w.setResult q).2 :=
    noState.sameNodes.setResult_eq fresh q
  have decks : ∀ d, (w.hold [.set q]).deckAlive d = w.deckAlive d := fun d =>
    isRooted_hold_of_notMem (by simp)
  have listenerAlive : ∀ l, (w.hold [.set q]).setListenerAlive l = w.setListenerAlive l := by
    rintro (l | c)
    · rfl
    · have root : (w.hold [.set q]).isRooted (.card c) = w.isRooted (.card c) :=
        isRooted_hold_of_notMem (by simp)
      rw [setListenerAlive, setListenerAlive, cardAlive, cardAlive, root]
      simp only [decks]
      rfl
  have entries : (w.hold [.set q]).setEntries q = w.setEntries q := by
    rw [setEntries, setEntries]
    simp only [listenerAlive]
    rfl
  have turn : ∀ value l, (w.hold [.set q]).setTurn value l = w.setTurn value l := by
    rintro value (l | c)
    · rfl
    · exact cardPushCalls_hold noState (by simp) fresh c
  rw [setPushCalls, setPushCalls, result, entries]
  simp only [turn]

/-! ## Expressions -/

/-- **To forget the result of a quality set** makes no difference to what calls are made. -/
lemma OnlyCalls.invalidateSet (h : OnlyCalls called w v) (fresh : w.Fresh) {q : SetId}
    (exist : q.place < w.sets.size) : OnlyCalls called (w.invalidateSet q) (v.invalidateSet q) := by
  have here := cachesOnly_invalidateSet q w
  have there := cachesOnly_invalidateSet q v
  have only : (w.invalidateSet q).CachesOnly (v.invalidateSet q) := by
    refine { h.only with sets := ?_, set := fun other => ?_ }
    · have before : (w.invalidateSet q).sets.size = w.sets.size := Table.size_modify _ _ exist
      exact Nat.le_trans (Nat.le_of_eq before) (Nat.le_trans h.only.sets there.sets)
    · rw [there.set other, here.set other, h.only.set other]
  have fresh' : (w.invalidateSet q).Fresh := fresh.alike (fun _ => rfl) fun _ => rfl
  have after : (v.invalidateSet q).Fresh := h.fresh.alike (fun _ => rfl) fun _ => rfl
  refine ⟨only, after, fun other => ?_, h.calls⟩
  by_cases same : q = other
  · subst same
    have forgotten : ∀ (u : World) revision, ((u.invalidateSet q).set q).cache.get? revision = none
        := by
      intro u revision
      rw [World.invalidateSet, set_onSet, if_pos rfl]
      exact Cache.get?_invalidate _ _
    rw [after.setResult_eq, fresh'.setResult_eq]
    simp only [forgotten, only.setState_eq, only.members_eq, only.allHold_eq]
  · have cache : ∀ u : World, ((u.invalidateSet q).set other).cache = (u.set other).cache := by
      intro u
      rw [World.invalidateSet, set_onSet, if_neg same]
    have results := h.results other
    rw [h.fresh.setResult_eq, fresh.setResult_eq] at results
    rw [after.setResult_eq, fresh'.setResult_eq]
    simp only [cache, there.setState_eq, there.members_eq, there.allHold_eq, there.store_eq,
      here.setState_eq, here.members_eq, here.allHold_eq, here.store_eq, results]

/-- **A structural pulse reaches a quality set**, which invalidates its cache. -/
lemma OnlyCalls.setOnChange (readOnly : ReadOnly react) (fresh : w.Fresh)
    (exist : w.SubscribersExist) (q : SetId) :
    OnlyCalls ((w.invalidateSet q).setPushCalls q) (w.invalidateSet q)
      (w.setOnChange react q none) := by
  have forgotten : (w.invalidateSet q).Fresh := fresh.alike (fun _ => rfl) fun _ => rfl
  have present := (cachesOnly_invalidateSet q w).subscribersExist exist
  have same : ((w.invalidateSet q).onSet q fun n => { n with gate := n.gate.after none }) =
      w.invalidateSet q := by
    have table : (w.sets.modify q.place fun n => { n with cache := n.cache.invalidate }).modify
        q.place (fun n => n) = w.sets.modify q.place fun n =>
          { n with cache := n.cache.invalidate } := Table.modify_modify _ _ _ _
    exact congrArg (fun sets => { w with sets }) table
  have notified : w.setOnChange react q none = (w.invalidateSet q).pushSet react q none := by
    rw [World.setOnChange, same]
    rfl
  rw [notified]
  exact .pushSet readOnly forgotten present q

/-- A subscribed listener of an expression. -/
def userEntry (entry : Nat × ListenerId) : Nat × ExprListener :=
  (entry.1, .user entry.2)

/-- The calls of subscribed listeners of an expression. -/
def userCalls (users : List (Nat × ListenerId)) (value : Bool) : List Call :=
  users.map fun entry => (entry.2, .truth value)

/-- Subscribed listeners of an expression are called. -/
lemma OnlyCalls.callUsers (readOnly : ReadOnly react) (fresh : w.Fresh) {e : ExprId}
    {users : List (Nat × ListenerId)} (listed : ∀ entry ∈ users, userEntry entry ∈ w.exprEntries e)
    (value : Bool) :
    OnlyCalls (userCalls users value) w
      ((users.map userEntry).foldl (fun w entry =>
        if exprActive e w entry then callExpr react value none entry.2 w else w) w) := by
  rw [List.foldl_map, userCalls, List.map_eq_flatMap]
  refine .foldl (fun w entry => exprActive e w (userEntry entry)) (fun l => react l (.truth value))
    fresh fun entry mem called v h => ⟨?_, ?_⟩
  · have listed := listed entry mem
    rw [← h.only.exprEntries_eq] at listed
    exact Bool.and_eq_true_iff.2 ⟨has_of_mem (List.mem_filter.1 listed).1, rfl⟩
  · exact readOnly _ _ v h.fresh

/-- The quality set that an expression belongs to is called. -/
lemma OnlyCalls.callOwner (readOnly : ReadOnly react) (fresh : w.Fresh) (exist : w.SubscribersExist)
    (q : SetId) (value : Bool) :
    OnlyCalls ((w.invalidateSet q).setPushCalls q) (w.invalidateSet q)
      (callExpr react value none (.owner q) w) := by
  have noState : NoState [.set q] := by simp [NoState]
  have forgotten : (w.invalidateSet q).Fresh := fresh.alike (fun _ => rfl) fun _ => rfl
  have held : (w.hold [.set q]).Fresh := fresh.withRoots _ _
  have present : (w.hold [.set q]).SubscribersExist := ⟨exist.card, exist.deck⟩
  have notified : OnlyCalls (((w.invalidateSet q).hold [.set q]).setPushCalls q)
      ((w.invalidateSet q).hold [.set q]) ((w.hold [.set q]).setOnChange react q none) :=
    .setOnChange readOnly held present q
  rw [setPushCalls_hold forgotten] at notified
  exact notified.letGo noState.stateAlive forgotten

/-- **An expression pushes**, which belongs to a quality set.  When its turn comes the set
invalidates its cache and pushes; other listeners are called before and after. -/
theorem OnlyCalls.pushExpr (readOnly : ReadOnly react) (fresh : w.Fresh)
    (exist : w.SubscribersExist) {e : ExprId}
    {q : SetId} (there : q.place < w.sets.size) {k : Nat} {before after : List (Nat × ListenerId)}
    (entries : w.exprEntries e = before.map userEntry ++ (k, .owner q) :: after.map userEntry)
    {value : Bool} (result : (w.exprResult e).2 = .ok value) :
    OnlyCalls
      (userCalls before value ++ ((w.invalidateSet q).setPushCalls q ++ userCalls after value))
      (w.invalidateSet q) (w.pushExpr react e none) := by
  have read := OnlyCalls.exprResult fresh e
  have bound : ¬ ((w.exprEntries e).isEmpty || (w.expr e).binding.isNone) = true := by
    intro nobody
    rcases Bool.or_eq_true_iff.1 nobody with none | unbound
    · simp [entries] at none
    · rw [World.exprResult, exprState, Option.isNone_iff_eq_none.1 unbound] at result
      cases result
  rw [World.pushExpr, if_neg bound]
  rcases done : w.exprResult e with ⟨v, outcome⟩
  rw [done] at read result
  obtain rfl : outcome = .ok value := result
  have announced : OnlyCalls [] w (v.announce (.expr e) none (.truth value)) :=
    read.trans (.record read.fresh rfl)
  have listed := (announced.only.exprEntries_eq e).trans entries
  dsimp only
  rw [notifyExpr, World.round, listed, List.foldl_append, List.foldl_cons]
  generalize v.announce (.expr e) none (.truth value) = u at *
  -- until the turn of the set comes, nothing but calls has happened
  have first : OnlyCalls (userCalls before value) u _ := .callUsers readOnly announced.fresh
    (fun entry mem => listed ▸ List.mem_append_left _ (List.mem_map_of_mem mem)) value
  have still := (first.only.exprEntries_eq e).trans listed
  have came := (announced.trans first).invalidateSet fresh there
  generalize (before.map userEntry).foldl _ u = u' at first still came ⊢
  have active : exprActive e u' (k, .owner q) := by
    have mem : (k, ExprListener.owner q) ∈ u'.exprEntries e :=
      still ▸ List.mem_append_right _ List.mem_cons_self
    exact Bool.and_eq_true_iff.2 ⟨has_of_mem (List.mem_filter.1 mem).1, (List.mem_filter.1 mem).2⟩
  rw [if_pos active]
  -- the set invalidates its cache, and from then on both worlds read alike
  have present := first.only.subscribersExist (announced.only.subscribersExist exist)
  have notified := OnlyCalls.callOwner readOnly first.fresh present q value
  have forgotten : (w.invalidateSet q).Fresh := fresh.alike (fun _ => rfl) fun _ => rfl
  rw [came.setPushCalls_eq forgotten] at notified
  generalize callExpr react value none (.owner q) u' = u'' at notified ⊢
  have now : u''.exprEntries e = u'.exprEntries e :=
    (notified.only.exprEntries_eq e).trans ((cachesOnly_invalidateSet q u').exprEntries_eq e)
  have rest : OnlyCalls (userCalls after value) u'' _ := .callUsers readOnly notified.fresh
    (fun entry mem => by
      rw [now, still]
      exact List.mem_append_right _ (.tail _ (List.mem_map_of_mem mem))) value
  exact came.trans (notified.trans rest)

end World

end StoryEngine
