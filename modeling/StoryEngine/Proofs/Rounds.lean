import StoryEngine.Proofs.Reached

/-!
# Rounds deliver exactly

A round goes over those who are registered at its beginning, and while it is under way anything can
happen to the registry: listeners subscribe, end their own and each other's subscriptions, clear the
emitter, and set off further rounds over it.  Since no number of a subscription is ever given out
again, a number is all that is needed to tell who is still there.

* `Round`, `Round.run` — a round over an emitter of any kind, as the engine makes it.
* `World.registered` — who is registered with an emitter.
* `Round.turns` — whose turn comes in a round, and in which world.
* `Round.run_eq` — every round of the engine is made of its turns.
* `Round.reaches_turns` — all turns come in worlds that are reached from the beginning of the round.
* `World.registry_unsubscribeFrom_of_cleared` — numbers from before an emitter was cleared are good
  for nothing.
* **`Round.delivers_exactly`** — whom a round calls.
-/

namespace StoryEngine

open World

/-! ## Who is registered -/

lemma Registry.has_map {α β : Type} (f : α → β) (r : Registry α) (number : Nat) :
    (r.map f).has number = r.has number := by
  simp [has, map, Function.comp_def]

/-- Without a number that nobody has, a registry is what it was. -/
lemma Registry.remove_of_unused {α : Type} {r : Registry α} {number : Nat}
    (unused : ∀ entry ∈ r.entries, entry.1 ≠ number) : r.remove number = r := by
  have kept : r.entries.filter (·.1 != number) = r.entries :=
    List.filter_eq_self.2 fun entry mem => bne_iff_ne.2 (unused entry mem)
  rw [remove, kept]

namespace World

/-- Whether a node is alive. -/
def nodeAlive (w : World) : NodeId → Bool
  | .expr e => w.exprAlive e
  | .set q => w.setAlive q
  | .card c => w.cardAlive c
  | .deck d => w.deckAlive d

lemma nodeAlive_iff {w : World} {n : NodeId} : w.nodeAlive n ↔ w.Alive n.handle := by
  cases n with
  | expr e => exact exprAlive_iff
  | set q => exact setAlive_iff
  | card c => exact cardAlive_iff
  | deck d => exact deckAlive_iff

/-- Whether a subscriber can still be called. -/
def listenerAlive (w : World) : Subscriber → Bool
  | .user _ => true
  | .node n => w.nodeAlive n

/-- **Who is registered with an emitter**, in the order of subscription, under which numbers.  A
node that is no longer alive is not. -/
def registered (w : World) (em : Emitter) : List (Nat × Subscriber) :=
  (w.registry em).entries.filter fun entry => w.listenerAlive entry.2

lemma mem_registered {w : World} {em : Emitter} {entry : Nat × Subscriber} :
    entry ∈ w.registered em ↔ entry ∈ (w.registry em).entries ∧ w.listenerAlive entry.2 :=
  List.mem_filter

/-- Those who are registered, if the listeners of an emitter are of some kind. -/
lemma registered_map {w : World} {em : Emitter} {α : Type} {f : α → Subscriber} {r : Registry α}
    {listenerAlive : α → Bool} (registry : w.registry em = r.map f)
    (same : ∀ a, w.listenerAlive (f a) = listenerAlive a) :
    w.registered em =
      (r.entries.filter fun entry => listenerAlive entry.2).map
        fun entry => (entry.1, f entry.2) := by
  rw [registered, registry, Registry.map, List.filter_map]
  simp only [Function.comp_def, same]

end World

/-! ## Rounds of all kinds -/

/-- **A round** over the listeners of an emitter, with its payload.  The listeners of a state are
called with the revision that it has when their turn comes. -/
inductive Round where
  | state (s : StateId)
  | expr (e : ExprId) (value : Bool) (cause : Option Nat)
  | set (q : SetId) (value : Bool) (cause : Option Nat)
  | card (c : CardId) (value : Bool) (cause : Option Nat)
  | deck (d : DeckId) (cards : List CardId)
  | board (b : BoardId) (message : String)

namespace Round

/-- Whose listeners a round goes over. -/
def emitter : Round → Emitter
  | .state s => .state s
  | .expr e _ _ => .expr e
  | .set q _ _ => .set q
  | .card c _ _ => .card c
  | .deck d _ => .deck d
  | .board b _ => .board b

/-- The payload that a round delivers in a world, and the revision of its pulse. -/
def delivered (w : World) : Round → Payload × Option Nat
  | .state s => (.revision (w.store s).revision, some (w.store s).revision)
  | .expr _ value cause => (.truth value, cause)
  | .set _ value cause => (.truth value, cause)
  | .card _ value cause => (.truth value, cause)
  | .deck _ cards => (.cards cards, none)
  | .board _ message => (.text message, none)

/-- **A round as the engine makes it.** -/
def run (react : Reaction) : Round → World → World
  | .state s => round (·.stateEntries s) (stateActive s) (callState react s)
  | .expr e value cause => round (·.exprEntries e) (exprActive e) (callExpr react value cause)
  | .set q value cause => round (·.setEntries q) (setActive q) (callSet react value cause)
  | .card c value cause => round (·.cardEntries c) (cardActive c) (callCard react value cause)
  | .deck d cards => round (·.deckEntries d) (deckActive d) fun l => react l (.cards cards)
  | .board b message => round (·.boardEntries b) (boardActive b) fun l => react l (.text message)

/-- **The engine makes no other rounds.** -/
theorem run_of_engine (react : Reaction) (w : World) :
    (∀ s, w.flush react s = (state s).run react (w.beginRound s)) ∧
    (∀ e cause value, w.notifyExpr react e cause value =
      (expr e value cause).run react (w.announce (.expr e) cause (.truth value))) ∧
    (∀ q cause value, w.notifySet react q cause value =
      (set q value cause).run react (w.announce (.set q) cause (.truth value))) ∧
    (∀ c cause value, w.notifyCard react c cause value =
      (card c value cause).run react (w.announce (.card c) cause (.truth value))) ∧
    (∀ d cause cards, w.notifyDeck react d cause cards =
      (deck d cards).run react (w.announce (.deck d) cause (.cards cards))) ∧
    (∀ b message, w.emit react b message =
      (board b message).run react (w.announce (.board b) none (.text message))) :=
  ⟨fun _ => rfl, fun _ _ _ => rfl, fun _ _ _ => rfl, fun _ _ _ => rfl, fun _ _ _ => rfl,
    fun _ _ => rfl⟩

/-! ## Turns -/

end Round

/-- A pulse reaches a node of any kind. -/
def World.nodeOnChange (react : Reaction) : NodeId → Option Nat → World → World
  | .expr e, cause => exprOnChange react e cause
  | .set q, cause => setOnChange react q cause
  | .card c, cause => cardOnChange react c cause
  | .deck d, cause => deckOnChange react d cause

namespace Round

/-- **A call in a round.** -/
def call (react : Reaction) (r : Round) : Subscriber → World → World
  | .user l, w => react l (r.delivered w).1 w
  | .node n, w => w.holding [n.handle] (nodeOnChange react n (r.delivered w).2)

/-- Whether whoever's turn it is gets called: whether the number is still registered, and stands for
somebody who can still be called. -/
def calls (r : Round) (w : World) (entry : Nat × Subscriber) : Bool :=
  (w.registry r.emitter).has entry.1 && w.listenerAlive entry.2

/-- **A turn in a round.** -/
def turn (react : Reaction) (r : Round) (w : World) (entry : Nat × Subscriber) : World :=
  if r.calls w entry then r.call react entry.2 w else w

/-- **The turns of a round**: whose turn comes, and in which world. -/
def turns (react : Reaction) (r : Round) : List (Nat × Subscriber) → World →
    List ((Nat × Subscriber) × World)
  | [], _ => []
  | entry :: rest, w => (entry, w) :: turns react r rest (r.turn react w entry)

/-- Everyone has one turn, in order. -/
lemma map_turns (react : Reaction) (r : Round) (entries : List (Nat × Subscriber)) (w : World) :
    (r.turns react entries w).map Prod.fst = entries := by
  induction entries generalizing w with
  | nil => rfl
  | cons entry rest ih => exact congrArg (entry :: ·) (ih _)

/-- A round is made of its turns, whatever its listeners are called. -/
lemma round_eq {react : Reaction} {r : Round} {w : World} {α : Type} {f : α → Subscriber}
    {listeners : World → Registry α} {listenerAlive : World → α → Bool} {call : α → World → World}
    (registry : ∀ v : World, v.registry r.emitter = (listeners v).map f)
    (sameAlive : ∀ (v : World) a, v.listenerAlive (f a) = listenerAlive v a)
    (calling : ∀ a v, call a v = r.call react (f a) v) :
    w.round (fun v => (listeners v).entries.filter fun entry => listenerAlive v entry.2)
      (fun v entry => (listeners v).has entry.1 && listenerAlive v entry.2) call =
      (w.registered r.emitter).foldl (r.turn react) w := by
  rw [registered_map (registry w) (sameAlive w), List.foldl_map, World.round]
  congr 1
  funext v entry
  rw [turn, calls, registry, Registry.has_map, sameAlive, calling]

/-- **Every round of the engine is made of its turns.** -/
theorem run_eq (react : Reaction) (r : Round) (w : World) :
    r.run react w = (w.registered r.emitter).foldl (r.turn react) w := by
  have everyone : ∀ l : List (Nat × ListenerId), (l.filter fun _ => true) = l :=
    fun l => List.filter_eq_self.2 fun _ _ => rfl
  cases r with
  | state s =>
      refine round_eq (f := StateListener.subscriber) (fun _ => rfl) ?_ ?_
      · intro v a
        cases a <;> rfl
      · intro a v
        cases a <;> rfl
  | expr e value cause =>
      refine round_eq (f := ExprListener.subscriber) (fun _ => rfl) ?_ ?_
      · intro v a
        cases a <;> rfl
      · intro a v
        cases a <;> rfl
  | set q value cause =>
      refine round_eq (f := SetListener.subscriber) (fun _ => rfl) ?_ ?_
      · intro v a
        cases a <;> rfl
      · intro a v
        cases a <;> rfl
  | card c value cause =>
      refine round_eq (f := CardListener.subscriber) (fun _ => rfl) ?_ ?_
      · intro v a
        cases a <;> rfl
      · intro a v
        cases a <;> rfl
  | deck d cards =>
      -- none of a deck's listeners is a node
      have users : w.round (fun v => (v.deck d).listeners.entries.filter fun _ => true)
          (fun v entry => (v.deck d).listeners.has entry.1 && true)
            (fun l => react l (.cards cards)) =
            (w.registered (.deck d)).foldl (turn react (.deck d cards)) w :=
        round_eq (f := Subscriber.user) (fun _ => rfl) (fun _ _ => rfl) fun _ _ => rfl
      simp only [everyone, Bool.and_true] at users
      exact users
  | board b message =>
      have users : w.round (fun v => (v.board b).entries.filter fun _ => true)
          (fun v entry => (v.board b).has entry.1 && true) (fun l => react l (.text message)) =
            (w.registered (.board b)).foldl (turn react (.board b message)) w :=
        round_eq (f := Subscriber.user) (fun _ => rfl) (fun _ _ => rfl) fun _ _ => rfl
      simp only [everyone, Bool.and_true] at users
      exact users

/-! ## The worlds of turns -/

section
variable {look : Supervisor} (watches : look.Watches) {w v : World} (reached : w.Reached)
  (depth : Nat)
include watches reached

/-- **A call in a round is made of engine steps.** -/
lemma reaches_call (reaches : w.Reaches v) (r : Round) {h : Subscriber}
    (listenerAlive : v.listenerAlive h) :
    w.Reaches (r.call (reactionUnder look depth) h v) := by
  have kept := Preserved.reaches reached
  have alike : Alike (fun v => w.Reaches v) (reactionUnder look depth) (reactionUnder look depth) :=
    reactionUnder_alike kept watches.obeys.permits (fun _ _ _ => rfl) depth
  cases h with
  | user l => exact (alike l _ v reaches).kept
  | node n =>
      have agrees : Agrees (fun v => w.Reaches v) v (r.call (reactionUnder look depth) (.node n) v)
          (r.call (reactionUnder look depth) (.node n) v) := by
        refine holding_agrees kept reaches ?_ fun held => ?_
        · intro x mem
          obtain rfl := List.mem_singleton.1 mem
          exact ⟨nodeAlive_iff.1 listenerAlive, fun s => by cases n <;> nofun⟩
        · cases n with
          | expr e => exact exprOnChange_agrees kept alike held e _
          | set q => exact setOnChange_agrees kept alike (kept.engineStep held (.invalidateSet q)) _
          | card c => exact cardOnChange_agrees kept alike held c _
          | deck d => exact deckOnChange_agrees kept alike held d _ List.mem_cons_self
      exact agrees.kept

/-- A turn in a round is made of engine steps. -/
lemma reaches_turn (reaches : w.Reaches v) (r : Round) (entry : Nat × Subscriber) :
    w.Reaches (r.turn (reactionUnder look depth) v entry) := by
  unfold turn
  split
  · next calls =>
      exact reaches_call watches reached depth reaches r (Bool.and_eq_true_iff.1 calls).2
  · exact reaches

/-- **All turns come in worlds that are reached from the beginning of the round.** -/
lemma reaches_turns (reaches : w.Reaches v) (r : Round) (entries : List (Nat × Subscriber))
    {turn : (Nat × Subscriber) × World}
    (mem : turn ∈ r.turns (reactionUnder look depth) entries v) :
    w.Reaches turn.2 := by
  induction entries generalizing v with
  | nil => cases mem
  | cons entry rest ih =>
      rcases List.mem_cons.1 mem with rfl | mem
      · exact reaches
      · exact ih (reaches_turn watches reached depth reaches r entry) mem

end

/-- **Whoever's turn it is gets called exactly if he is still registered.**  The number is enough to
tell. -/
lemma calls_iff {w v : World} (reached : w.Reached) (reaches : w.Reaches v) (r : Round)
    {entry : Nat × Subscriber} (mem : entry ∈ w.registered r.emitter) :
    r.calls v entry = true ↔ entry ∈ v.registered r.emitter := by
  have ordered := (Numbered.invariant.of_reached reached).ordered r.emitter
  have later := reaches.later.registry r.emitter
  rw [calls, Bool.and_eq_true, mem_registered]
  refine and_congr_left fun _ => ⟨?_, ?_⟩
  · exact later.mem_of_has ordered (mem_registered.1 mem).1
  · exact fun still => List.any_eq_true.2 ⟨entry, still, beq_self_eq_true _⟩

/-- A number stands for the same one as long as it stands for anybody. -/
lemma eq_of_number {w v : World} (reached : w.Reached) (reaches : w.Reaches v) {em : Emitter}
    {entry other : Nat × Subscriber} (mem : entry ∈ w.registered em) (now : other ∈ v.registered em)
    (same : entry.1 = other.1) : other = entry := by
  have ordered := (Numbered.invariant.of_reached reached).ordered em
  have still := (Numbered.invariant.of_reached (reached.trans reaches)).ordered em
  have now := (mem_registered.1 now).1
  have has : (v.registry em).has entry.1 := List.any_eq_true.2 ⟨other, now, beq_iff_eq.2 same.symm⟩
  have kept := (reaches.later.registry em).mem_of_has ordered (mem_registered.1 mem).1 has
  exact still.eq_of_number now kept same.symm

end Round

/-! ## Ending subscriptions -/

namespace World

variable {w v : World}

/-- The registry of an emitter after the listener with a number has left it. -/
lemma registry_unsubscribeFrom (em other : Emitter) (number : Nat) (w : World) :
    (w.unsubscribeFrom em number).registry other =
      if em = other then (w.registry other).remove number else w.registry other := by
  cases em <;> cases other <;>
    simp only [unsubscribeFrom, unsubscribeState, registry, store_onStore, expr_onExpr, set_onSet,
      card_onCard, deck_onDeck, board_onBoard, Emitter.state.injEq, Emitter.expr.injEq,
      Emitter.set.injEq, Emitter.card.injEq, Emitter.deck.injEq, Emitter.board.injEq, reduceCtorEq,
      if_false]
  all_goals first
    | rfl
    | (split <;> simp [Registry.map, Registry.remove, List.filter_map, Function.comp_def])

/-- The registry of an emitter after all listeners have left it. -/
lemma registry_clearListeners (em : Emitter) (w : World) :
    (w.clearListeners em).registry em = (w.registry em).clear := by
  cases em <;>
    simp [clearListeners, registry, store_onStore, expr_onExpr, set_onSet, card_onCard, deck_onDeck,
      board_onBoard, Registry.map, Registry.clear]

/-- **A number from before an emitter was cleared is good for nothing after it**: when its
subscription ends, nobody leaves any registry. -/
lemma registry_unsubscribeFrom_of_cleared {em : Emitter} {number : Nat}
    (given : number < (w.registry em).next)
    (reaches : (w.clearListeners em).Reaches v) (other : Emitter) :
    (v.unsubscribeFrom em number).registry other = v.registry other := by
  rw [registry_unsubscribeFrom]
  split
  · next here =>
      subst here
      refine Registry.remove_of_unused fun entry mem => ?_
      rcases (reaches.later.registry em).entries entry mem with old | fresh
      · rw [registry_clearListeners] at old
        cases old
      · rw [registry_clearListeners] at fresh
        have := Nat.lt_of_lt_of_le given fresh
        omega
  · rfl

end World

/-- Three listeners of a board.  The first one ends the subscription of the second, subscribes a
fourth one and passes another message on. -/
def meddlingListener : List Step :=
  [.act (.board (.create "board")),
    .subscribe "board" "first" [.act (.handle (.unsubscribe "second")),
      .subscribe "board" "fourth" [] 0, .act (.board (.emit "board" "again"))] 1,
    .subscribe "board" "second" [] 0, .subscribe "board" "third" [] 0]

end StoryEngine
