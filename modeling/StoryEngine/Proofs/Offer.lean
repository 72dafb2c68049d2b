import StoryEngine.Proofs.Freshness
import StoryEngine.Proofs.Reading

/-!
# The cards that a deck offers

A deck asks its cards one after the other, and each card that is asked may compute results, cache
them and leave notes.  None of this makes a difference to the cards asked after it, and nobody is
notified.  So the answer is a plain selection of the deck's cards, in their order and as often as
they stand in it.

A card that can be read is asked for its own result, at the state that the card is bound to; only
one that cannot be read is checked against the state of the deck.  A card that another deck has
bound elsewhere therefore answers for that other state.

* `World.allHold` — what reading expressions one after the other comes to.
* `World.calls` — which listeners were called, and with which payloads.
* **`World.OnlyCalls`** — nothing happens but that some listeners are called; every quality set
  reads alike.  To read calls nobody.
* `World.deckReads` — the answer of a card that a deck asks.
* **`World.availableCards_of_passes`** — what a deck offers, in every run.
* **`World.availableCards_of_meets`** — the same where nodes that have an owner are left to it: each
  card answers for the state that it is bound to.
* **`World.mem_availableCards_iff`** — when a deck offers a card exactly if it answers that the card
  is available.
-/

namespace StoryEngine.World

variable {w v u : World}

/-! ## Results one after the other -/

/-- **What reading expressions one after the other comes to**: the first that does not hold, or is
bound to no state that is alive, settles it. -/
def allHold (w : World) : List ExprId → Except NodeFault Bool
  | [] => .ok true
  | e :: rest =>
    match w.exprState e with
    | .error fault => .error fault
    | .ok s => if w.exprHolds e s then allHold w rest else .ok false

lemma CachesOnly.boundState_eq (h : w.CachesOnly v) (kind : NodeKind) (o : Option StateId) :
    v.boundState kind o = w.boundState kind o := by
  cases o with
  | none => rfl
  | some s => rw [boundState, boundState, h.stateAlive_eq]

lemma CachesOnly.exprState_eq (h : w.CachesOnly v) (e : ExprId) :
    v.exprState e = w.exprState e := by
  rw [exprState, exprState, h.boundState_eq, h.expr e]

lemma CachesOnly.setState_eq (h : w.CachesOnly v) (q : SetId) : v.setState q = w.setState q := by
  rw [setState, setState, h.boundState_eq, h.set q]

lemma CachesOnly.cardState_eq (h : w.CachesOnly v) (c : CardId) :
    v.cardState c = w.cardState c := by
  rw [cardState, cardState, h.boundState_eq, h.card_eq c]

lemma CachesOnly.allHold_eq (h : w.CachesOnly v) (es : List ExprId) :
    v.allHold es = w.allHold es := by
  induction es with
  | nil => rfl
  | cons e rest ih => simp only [allHold, h.exprState_eq, h.exprHolds_eq, ih]

lemma Fresh.allResults_eq (fresh : w.Fresh) (es : List ExprId) :
    (w.allResults es).2 = w.allHold es := by
  induction es generalizing w with
  | nil => rfl
  | cons e rest ih =>
      have only := cachesOnly_exprResult e w
      have next := (onward_exprResult e w).fresh fresh
      rw [allResults, allHold]
      rcases state : w.exprState e with fault | s
      · have failed := (exprResult_eq_error w e fault).2 state
        rcases read : w.exprResult e with ⟨v, outcome⟩
        rw [read] at failed
        obtain rfl : outcome = .error fault := failed
        rfl
      · have value := fresh.exprResult_value state
        rcases read : w.exprResult e with ⟨v, outcome⟩
        rw [read] at value only next
        obtain rfl : outcome = .ok (w.exprHolds e s) := value
        dsimp only at only next ⊢
        rcases w.exprHolds e s with _ | _
        · rfl
        · exact (ih next).trans (only.allHold_eq rest)

/-- **The result of a quality set**: what it has cached for the revision of its state, or else what
its members come to. -/
lemma Fresh.setResult_eq (fresh : w.Fresh) (q : SetId) :
    (w.setResult q).2 = (w.setState q).bind fun s =>
      match (w.set q).cache.get? (w.store s).revision with
      | some value => .ok value
      | none => w.allHold (w.members q) := by
  rw [setResult]
  rcases w.setState q with fault | s
  · rfl
  · dsimp only [Except.bind]
    rcases (w.set q).cache.get? (w.store s).revision with _ | value
    · rw [← fresh.allResults_eq]
      rcases w.allResults (w.members q) with ⟨v, fault | value⟩
      all_goals rfl
    · rfl

/-! ## Reading makes no difference to what is read next -/

end World

/-- A call of a listener, with its payload. -/
abbrev Call :=
  ListenerId × Payload

/-- The call that an event is, if it is one. -/
def Event.call? : Event → Option Call
  | .fired l payload _ => some (l, payload)
  | _ => none

namespace World

variable {w v u : World} {called more : List Call}

/-- **The calls that were made in a world**, the earliest first. -/
def calls (w : World) : List Call :=
  (w.trace.filterMap Event.call?).reverse

lemma calls_record {event : Event} (noCall : event.call? = none) (w : World) :
    (w.record event).calls = w.calls := by
  rw [calls, record, List.filterMap_cons_none noCall]
  rfl

lemma calls_fire (l : ListenerId) (payload : Payload) (w : World) :
    (w.fire l payload).calls = w.calls ++ [(l, payload)] :=
  List.reverse_cons

/-- **Nothing happens but that some listeners are called.**  There may be other results in caches
afterwards, but every quality set reads alike. -/
structure OnlyCalls (called : List Call) (w v : World) : Prop where
  only : w.CachesOnly v
  fresh : v.Fresh
  results : ∀ q, (v.setResult q).2 = (w.setResult q).2
  calls : v.calls = w.calls ++ called

lemma OnlyCalls.refl (fresh : w.Fresh) : OnlyCalls [] w w :=
  ⟨.refl w, fresh, fun _ => rfl, (List.append_nil _).symm⟩

lemma OnlyCalls.trans (h : OnlyCalls called w v) (h' : OnlyCalls more v u) :
    OnlyCalls (called ++ more) w u := by
  refine ⟨h.only.trans h'.only, h'.fresh, fun q => (h'.results q).trans (h.results q), ?_⟩
  rw [h'.calls, h.calls, List.append_assoc]

/-- Where all quality sets have the same cached results, they read alike. -/
lemma OnlyCalls.of_sets (fresh : w.Fresh) (only : w.CachesOnly v) (fresh' : v.Fresh)
    (sets : v.sets = w.sets) (calls : v.calls = w.calls ++ called) : OnlyCalls called w v := by
  refine ⟨only, fresh', fun q => ?_, calls⟩
  have cache : (v.set q).cache = (w.set q).cache := by rw [World.set, World.set, sets]
  simp only [fresh.setResult_eq, fresh'.setResult_eq, only.setState_eq, only.store_eq,
    only.members_eq, only.allHold_eq, cache]

lemma OnlyCalls.record (fresh : w.Fresh) {event : Event} (noCall : event.call? = none) :
    OnlyCalls [] w (w.record event) := by
  refine .of_sets fresh (cachesOnly_record event w) (fresh.record _) rfl ?_
  rw [calls_record noCall, List.append_nil]

lemma OnlyCalls.note (fresh : w.Fresh) (n : Note) : OnlyCalls [] w (w.note n) :=
  .record fresh rfl

lemma OnlyCalls.checkAgainst (fresh : w.Fresh) (e : Expression) (s : StateId) :
    OnlyCalls [] w (w.checkAgainst e s).1 := by
  rw [World.checkAgainst]
  split
  · exact .refl fresh
  · exact .note fresh _

lemma exprResult_sets_calls (e : ExprId) (w : World) :
    (w.exprResult e).1.sets = w.sets ∧ (w.exprResult e).1.calls = w.calls := by
  have checked : ∀ s, (w.exprCheck e s).1.sets = w.sets ∧
      (w.exprCheck e s).1.calls = w.calls := by
    intro s
    rw [exprCheck, World.checkAgainst]
    split
    · exact ⟨rfl, rfl⟩
    · exact ⟨rfl, calls_record rfl w⟩
  unfold exprResult
  split
  · exact ⟨rfl, rfl⟩
  · dsimp only
    split
    · exact ⟨rfl, rfl⟩
    · exact checked _

lemma allResults_sets_calls (es : List ExprId) (w : World) :
    (w.allResults es).1.sets = w.sets ∧ (w.allResults es).1.calls = w.calls := by
  induction es generalizing w with
  | nil => exact ⟨rfl, rfl⟩
  | cons e rest ih =>
      obtain ⟨sets, calls⟩ := exprResult_sets_calls e w
      rw [allResults]
      rcases read : w.exprResult e with ⟨v, fault | _ | _⟩
      all_goals rw [read] at sets calls
      · exact ⟨sets, calls⟩
      · exact ⟨sets, calls⟩
      · exact ⟨(ih v).1.trans sets, (ih v).2.trans calls⟩

lemma OnlyCalls.exprResult (fresh : w.Fresh) (e : ExprId) : OnlyCalls [] w (w.exprResult e).1 := by
  obtain ⟨sets, calls⟩ := exprResult_sets_calls e w
  refine .of_sets fresh (cachesOnly_exprResult e w) ((onward_exprResult e w).fresh fresh) sets ?_
  rw [calls, List.append_nil]

lemma OnlyCalls.allChecks (fresh : w.Fresh) (s : StateId) (es : List ExprId) :
    OnlyCalls [] w (w.allChecks s es).1 := by
  induction es generalizing w with
  | nil => exact .refl fresh
  | cons e rest ih =>
      have first := OnlyCalls.checkAgainst fresh (w.expr e).expression s
      rw [World.allChecks, exprCheck]
      rcases check : w.checkAgainst (w.expr e).expression s with ⟨v, _ | _⟩
      all_goals rw [check] at first
      · exact first
      · exact first.trans (ih first.fresh)

/-- A result that is kept is the one that is read from then on. -/
lemma OnlyCalls.keep (fresh : w.Fresh) {q : SetId} {s : StateId} {value : Bool}
    (state : w.setState q = .ok s) (missing : (w.set q).cache.get? (w.store s).revision = none)
    (members : w.allHold (w.members q) = .ok value) :
    OnlyCalls [] w (w.onSet q fun n =>
      { n with cache := n.cache.store value (w.store s).revision }) := by
  have only : w.CachesOnly (w.onSet q fun n =>
      { n with cache := n.cache.store value (w.store s).revision }) :=
    cachesOnly_onSet w q fun _ => rfl
  have fresh' : (w.onSet q fun n =>
      { n with cache := n.cache.store value (w.store s).revision }).Fresh :=
    fresh.alike (fun _ => rfl) fun _ => rfl
  refine ⟨only, fresh', fun other => ?_, (List.append_nil _).symm⟩
  simp only [fresh.setResult_eq, fresh'.setResult_eq, only.setState_eq, only.store_eq,
    only.members_eq, only.allHold_eq, set_onSet]
  by_cases here : q = other
  · subst here
    rw [state, if_pos rfl]
    dsimp only [Except.bind]
    rw [missing, members]
    rcases (w.set q).cache with _ | _ | _ <;> simp [Cache.store, Cache.get?]
  · rw [if_neg here]

/-- **To read a quality set leaves every quality set reading alike.** -/
lemma OnlyCalls.setResult (fresh : w.Fresh) (q : SetId) : OnlyCalls [] w (w.setResult q).1 := by
  rw [World.setResult]
  rcases state : w.setState q with fault | s
  · exact .refl fresh
  · dsimp only
    rcases cached : (w.set q).cache.get? (w.store s).revision with _ | value
    · have value := fresh.allResults_eq (w.members q)
      have only := cachesOnly_allResults (w.members q) w
      obtain ⟨sets, calls⟩ := allResults_sets_calls (w.members q) w
      have read : OnlyCalls [] w (w.allResults (w.members q)).1 :=
        .of_sets fresh only ((onward_allResults _ w).fresh fresh) sets
          (calls.trans (List.append_nil _).symm)
      rcases done : w.allResults (w.members q) with ⟨v, fault | result⟩
      all_goals rw [done] at value only read sets
      · exact read
      · dsimp only at sets value only read ⊢
        rw [← only.store_eq s]
        refine read.trans (.keep read.fresh ?_ ?_ ?_)
        · rw [only.setState_eq, state]
        · rw [World.set, sets, only.store_eq]
          exact cached
        · rw [only.allHold_eq, only.members_eq, ← value]
    · exact .refl fresh

lemma OnlyCalls.cardResult (fresh : w.Fresh) (c : CardId) : OnlyCalls [] w (w.cardResult c).1 := by
  rw [World.cardResult]
  rcases w.cardState c with fault | s
  · exact .refl fresh
  · exact .setResult fresh _

/-- Cards read alike where their quality sets do. -/
lemma OnlyCalls.cardResult_eq (h : OnlyCalls called w v) (c : CardId) :
    (v.cardResult c).2 = (w.cardResult c).2 := by
  rw [World.cardResult, World.cardResult, h.only.cardState_eq, h.only.card_eq]
  rcases w.cardState c with fault | s
  · rfl
  · exact h.results _

/-! ## What a deck offers -/

/-- **The answer of a card that a deck bound to a state asks**: its own result if it can be read,
and otherwise whether its conditions hold in the state of the deck. -/
def deckReads (w : World) (s : StateId) (c : CardId) : Bool :=
  match (w.cardResult c).2 with
  | .ok value => value
  | .error _ => w.setHolds (w.card c).qualities s

lemma OnlyCalls.deckReads_eq (h : OnlyCalls called w v) (s : StateId) (c : CardId) :
    v.deckReads s c = w.deckReads s c := by
  rw [deckReads, deckReads, h.cardResult_eq, h.only.card_eq, h.only.setHolds_eq]

lemma isOffered_value (c : CardId) (s : StateId) (w : World) :
    (w.isOffered c s).2 = w.deckReads s c := by
  have only := cachesOnly_cardResult c w
  rw [isOffered, deckReads]
  rcases read : w.cardResult c with ⟨v, fault | value⟩
  · rw [read] at only
    have noted := only.trans (cachesOnly_note (.cardChecked (v.card c).hash fault) v)
    dsimp only
    rw [cardCheck, setCheck_value, noted.card_eq, noted.setHolds_eq]
  · rfl

lemma OnlyCalls.isOffered (fresh : w.Fresh) (c : CardId) (s : StateId) :
    OnlyCalls [] w (w.isOffered c s).1 := by
  have read := OnlyCalls.cardResult fresh c
  rw [World.isOffered]
  rcases done : w.cardResult c with ⟨v, fault | value⟩
  all_goals rw [done] at read
  · have noted := read.trans (.note read.fresh (.cardChecked (v.card c).hash fault))
    exact noted.trans (.allChecks noted.fresh s _)
  · exact read

/-- **What is offered of some cards** is a selection of them, each by its own answer. -/
lemma Fresh.offered_value (fresh : w.Fresh) (s : StateId) (cards : List CardId) :
    (w.offered s cards).2 =
      cards.filter fun c => !(w.card c).disposed && w.deckReads s c := by
  induction cards generalizing w with
  | nil => rfl
  | cons c rest ih =>
      rw [offered, List.filter_cons]
      split
      · next disposed => simp only [disposed, Bool.not_true, Bool.false_and, ih fresh]; rfl
      · next usable =>
          have first := OnlyCalls.isOffered fresh c s
          have value := isOffered_value c s w
          have others := ih first.fresh
          simp only [first.only.card_eq, first.deckReads_eq] at others
          simp only [value, others, Bool.eq_false_iff.2 usable, Bool.not_false, Bool.true_and]

lemma OnlyCalls.offered (fresh : w.Fresh) (s : StateId) (cards : List CardId) :
    OnlyCalls [] w (w.offered s cards).1 := by
  induction cards generalizing w with
  | nil => exact .refl fresh
  | cons c rest ih =>
      rw [World.offered]
      split
      · exact ih fresh
      · have first := OnlyCalls.isOffered fresh c s
        exact first.trans (ih first.fresh)

lemma OnlyCalls.availableCards (fresh : w.Fresh) (d : DeckId) :
    OnlyCalls [] w (w.availableCards d).1 := by
  rw [World.availableCards]
  rcases w.deckState d with fault | s
  · exact .refl fresh
  · exact .offered fresh s _

/-- **What a deck offers**, or why it cannot be determined. -/
lemma Fresh.availableCards_value (fresh : w.Fresh) (d : DeckId) :
    (w.availableCards d).2 = (w.deckState d).map fun s =>
      (w.deck d).cards.filter fun c => !(w.card c).disposed && w.deckReads s c := by
  rw [availableCards]
  rcases w.deckState d with fault | s
  · rfl
  · exact congrArg Except.ok (fresh.offered_value s _)

/-- **Whether a card would be on offer** at the state of a deck, or why it cannot be determined. -/
lemma isCardAvailable_value (d : DeckId) (c : CardId) (w : World) :
    (w.isCardAvailable d c).2 =
      (w.deckState d).map fun s => w.setHolds (w.card c).qualities s := by
  rw [isCardAvailable]
  rcases w.deckState d with fault | s
  · rfl
  · exact congrArg Except.ok (setCheck_value _ s w)

/-! ## Runs -/

/-- **What a deck offers in any run.**  It offers its cards in their order, as often as they stand
in it, less those that have been disposed of and those whose answer is no.  There is a fault
instead exactly if it is not bound to a state that is alive. -/
theorem availableCards_of_passes {look : Supervisor} (watches : look.Watches) {depth : Nat}
    {steps : List Step} {w : World} (passes : Passes look depth steps w) (d : DeckId) :
    (w.availableCards d).2 = (w.deckState d).map fun s =>
      (w.deck d).cards.filter fun c => !(w.card c).disposed && w.deckReads s c :=
  (Fresh.invariant.of_passes watches passes).availableCards_value d

/-- The state that a card answers for when a deck bound to a state asks it: that which the card
itself is bound to, if it is alive. -/
def answersFor (w : World) (s : StateId) (c : CardId) : StateId :=
  match w.cardState c with
  | .ok own => own
  | .error _ => s

/-- A card answers as its conditions hold in the state that it answers for. -/
lemma Coherent.deckReads_eq {stale : SetId → Prop} (h : w.Coherent w.Alive stale)
    (settled : ∀ q, ¬ stale q) {c : CardId} (alive : w.Alive (.card c)) (s : StateId) :
    w.deckReads s c = w.setHolds (w.card c).qualities (w.answersFor s c) := by
  rw [deckReads, answersFor, cardResult]
  rcases state : w.cardState c with fault | own
  · rfl
  · obtain ⟨bound, stateAlive⟩ := boundState_ok.1 state
    have owned : w.Alive (.set (w.card c).qualities) := .set (h.bounded alive) alive
    have value := h.setResult_value owned (settled _) (h.card alive bound stateAlive) stateAlive
    rw [value]

section
variable {look : Supervisor} {depth : Nat} {steps : List Step} {step : Step}

/-- **What a deck offers where nodes are left to their owners**: each card answers for the state
that it is bound to, and for the state of the deck if it is bound to none that is alive. -/
theorem availableCards_of_meets (obeys : look.Obeys Rule.owned.allows)
    (meets : Meets look depth steps step w) {d : DeckId} (alive : w.Alive (.deck d)) {s : StateId}
    (bound : w.boundTo (.deck d) = some s) (stateAlive : w.stateAlive s) :
    (w.availableCards d).2 = .ok ((w.deck d).cards.filter fun c =>
      !(w.card c).disposed && w.setHolds (w.card c).qualities (w.answersFor s c)) := by
  obtain ⟨-, coherent⟩ := Preserved.coherent.of_meets ⟨.empty, .empty⟩ obeys meets
  have state : w.deckState d = .ok s := boundState_ok.2 ⟨bound, stateAlive⟩
  rw [coherent.toFresh.availableCards_value, state]
  refine congrArg Except.ok (List.filter_congr fun c mem => ?_)
  rw [coherent.deckReads_eq (fun _ => id) (.card mem alive)]

/-- **When a deck offers a card exactly if it answers that the card is available.**  It does so for
a card of it that is usable exactly if the conditions of the card hold alike in the state of the
deck and in the one that the card answers for.  So it does for all cards that are bound where the
deck is, or nowhere. -/
theorem mem_availableCards_iff (obeys : look.Obeys Rule.owned.allows)
    (meets : Meets look depth steps step w) {d : DeckId} (alive : w.Alive (.deck d)) {s : StateId}
    (bound : w.boundTo (.deck d) = some s) (stateAlive : w.stateAlive s) {c : CardId}
    (mem : c ∈ (w.deck d).cards) (usable : (w.card c).disposed = false) :
    (∃ cards, (w.availableCards d).2 = .ok cards ∧
      (c ∈ cards ↔ (w.isCardAvailable d c).2 = .ok true)) ↔
        w.setHolds (w.card c).qualities (w.answersFor s c) =
          w.setHolds (w.card c).qualities s := by
  have state : w.deckState d = .ok s := boundState_ok.2 ⟨bound, stateAlive⟩
  have cards := availableCards_of_meets obeys meets alive bound stateAlive
  rw [cards, isCardAvailable_value, state]
  simp only [Except.ok.injEq, exists_eq_left', List.mem_filter, mem, usable, Bool.not_false,
    Bool.true_and, true_and, Except.map]
  exact Bool.eq_iff_iff.symm

/-- Two decks at two states share a card, which the second deck has bound to its own. -/
def sharedCard : List Act :=
  [.state (.create "here"), .state (.create "there"),
    .state (.set "there" "open" (.scalar (.bool true))),
    .card (.create "card" "" ["$open"] none .fresh),
    .deck (.create "deck" ["card"] (some "here") .none),
    .deck (.create "other" ["card"] (some "there") .none)]

/-- The deck offers the card, which answers for the state of the other deck, and answers that the
card is not available. -/
example :
    let w := runUnder .free fire (sharedCard.map .act) .empty
    w.boundTo (.deck ⟨0⟩) = some ⟨0⟩ ∧ (w.availableCards ⟨0⟩).2 = .ok [⟨0⟩] ∧
      (w.isCardAvailable ⟨0⟩ ⟨0⟩).2 = .ok false := by
  decide +kernel

end

end StoryEngine.World
