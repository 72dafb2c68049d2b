import StoryEngine.Proofs.Balance

/-!
# No subscription is lost

While the engine works on nodes it has some subscriptions in hand: those that were made and not yet
put in their place, and those that were taken from their place and have not ended yet.  Together
with what is held in the world, they are what is registered.

* **`World.Conserved`** — the account of a world, with what is in hand.
* `World.Conserves` — work that keeps the account, whatever else is in hand.
* `World.Clears` — such work that gives out no numbers and in which some nodes are disposed of.
* `World.conserves_subscribeState`, `World.clears_unsubscribeFrom`, `World.clears_onExpr` and their
  like — the steps that all work is made of.
-/

namespace StoryEngine

/-! ## Registries seen uniformly -/

namespace Registry

variable {α β : Type} (f : α → β) (r : Registry α)

lemma map_subscribe (a : α) : (r.subscribe a).map f = (r.map f).subscribe (f a) := by
  simp [map, subscribe]

end Registry

/-! ## From which number on numbers count -/

/-- From which number on the numbers of an emitter count, if it is known for nodes.  Nothing but
nodes is ever disposed of. -/
def countedFrom (since : NodeId → Nat) : Emitter → Nat
  | .expr e => since (.expr e)
  | .set q => since (.set q)
  | .card c => since (.card c)
  | .deck d => since (.deck d)
  | .state _ | .board _ => 0

namespace World

/-- **Some nodes are disposed of**: from now on only the numbers count that they have not given out
yet. -/
def raised (w : World) (gone : List NodeId) (since : NodeId → Nat) : NodeId → Nat :=
  fun n => if n ∈ gone then (w.registry n.emitter).next else since n

variable {w v u : World}

lemma raised_nil (since : NodeId → Nat) : w.raised [] since = since := by
  funext n
  exact if_neg List.not_mem_nil

lemma raised_append {gone gone' : List NodeId} {since : NodeId → Nat}
    (next : ∀ n ∈ gone', (v.registry n.emitter).next = (w.registry n.emitter).next) :
    v.raised gone' (w.raised gone since) = w.raised (gone ++ gone') since := by
  funext n
  simp only [raised, List.mem_append]
  by_cases late : n ∈ gone'
  · simp [late, next n late]
  · simp [late]

lemma raised_congr {gone gone' : List NodeId} (same : ∀ n, n ∈ gone ↔ n ∈ gone')
    (since : NodeId → Nat) : w.raised gone since = w.raised gone' since := by
  funext n
  simp only [raised, same]

/-! ## Accounts -/

/-- **The account of a world** is in balance, with what is in hand. -/
def Conserved (hand : Holdings) (since : NodeId → Nat) (w : World) : Prop :=
  Balanced w.registry (w.holdings + hand) (countedFrom since)

/-- **Work that keeps the account**: what is `taken` in hand before is `left` in hand after it. -/
structure Conserves (taken left : Holdings) (w v : World) : Prop where
  kept : ∀ {hand since}, w.Conserved (hand + taken) since → v.Conserved (hand + left) since

/-- **Work that keeps the account, gives out no numbers and disposes of some nodes.** -/
structure Clears (gone : List NodeId) (taken left : Holdings) (w v : World) : Prop where
  next : ∀ em, (v.registry em).next = (w.registry em).next
  kept : ∀ {hand since}, w.Conserved (hand + taken) since →
    v.Conserved (hand + left) (w.raised gone since)

variable {taken left rest : Holdings} {gone gone' : List NodeId}

lemma Conserves.refl (w : World) : Conserves taken taken w w := ⟨id⟩

lemma Conserves.trans (h : Conserves taken rest w v) (h' : Conserves rest left v u) :
    Conserves taken left w u :=
  ⟨fun c => h'.kept (h.kept c)⟩

/-- Whatever else is in hand stays there. -/
lemma Conserves.frame (h : Conserves taken left w v) :
    Conserves (rest + taken) (rest + left) w v := by
  refine ⟨fun c => ?_⟩
  rw [← add_assoc] at c ⊢
  exact h.kept c

lemma Conserves.frame_zero (h : Conserves 0 0 w v) : Conserves rest rest w v := by
  have framed : Conserves (rest + 0) (rest + 0) w v := h.frame
  rwa [add_zero] at framed

lemma Conserves.foldl {β : Type} {step : World → β → World} {bs : List β}
    (h : ∀ w, ∀ b ∈ bs, Conserves 0 0 w (step w b)) (w : World) :
    Conserves 0 0 w (bs.foldl step w) := by
  induction bs generalizing w with
  | nil => exact .refl w
  | cons b bs ih =>
      exact (h w b List.mem_cons_self).trans (ih (fun w b' mem => h w b' (.tail _ mem)) _)

lemma Clears.conserves (h : Clears [] taken left w v) : Conserves taken left w v := by
  refine ⟨fun c => ?_⟩
  have kept := h.kept c
  rwa [raised_nil] at kept

lemma Clears.refl (w : World) : Clears [] taken taken w w := by
  refine ⟨fun _ => rfl, fun c => ?_⟩
  rwa [raised_nil]

lemma Clears.trans (h : Clears gone taken rest w v) (h' : Clears gone' rest left v u) :
    Clears (gone ++ gone') taken left w u := by
  refine ⟨fun em => (h'.next em).trans (h.next em), fun c => ?_⟩
  rw [← raised_append fun n _ => h.next n.emitter]
  exact h'.kept (h.kept c)

/-- First some work in which nothing is disposed of. -/
lemma Clears.before (h : Clears [] taken rest w v) (h' : Clears gone rest left v u) :
    Clears gone taken left w u :=
  h.trans h'

/-- Then some work in which nothing is disposed of. -/
lemma Clears.after (h : Clears gone taken rest w v) (h' : Clears [] rest left v u) :
    Clears gone taken left w u := by
  have both := h.trans h'
  rwa [List.append_nil] at both

lemma Clears.frame (h : Clears gone taken left w v) :
    Clears gone (rest + taken) (rest + left) w v := by
  refine ⟨h.next, fun c => ?_⟩
  rw [← add_assoc] at c ⊢
  exact h.kept c

lemma Clears.frame_zero (h : Clears gone 0 0 w v) : Clears gone rest rest w v := by
  have framed : Clears gone (rest + 0) (rest + 0) w v := h.frame
  rwa [add_zero] at framed

lemma Clears.congr (h : Clears gone taken left w v) (same : ∀ n, n ∈ gone ↔ n ∈ gone') :
    Clears gone' taken left w v := by
  refine ⟨h.next, fun c => ?_⟩
  rw [← raised_congr same]
  exact h.kept c

lemma Clears.foldl {β : Type} {step : World → β → World}
    (h : ∀ (w : World) b, Clears [] 0 0 w (step w b)) (bs : List β) (w : World) :
    Clears [] 0 0 w (bs.foldl step w) := by
  induction bs generalizing w with
  | nil => exact .refl w
  | cons b bs ih => exact (h w b).trans (ih _)

/-! ## Steps -/

/-- **What is in hand and what is in its place change hands.** -/
lemma clears_of_eq (registry : v.registry = w.registry)
    (holdings : v.holdings + left = w.holdings + taken) : Clears [] taken left w v := by
  refine ⟨fun em => by rw [registry], fun {hand since} c => ?_⟩
  have total : v.holdings + (hand + left) = w.holdings + (hand + taken) := by
    rw [add_left_comm, holdings, add_left_comm]
  rw [raised_nil, Conserved, registry, total]
  exact c

lemma clears_of_same (registry : v.registry = w.registry) (holdings : v.holdings = w.holdings) :
    Clears [] taken taken w v :=
  clears_of_eq registry (by rw [holdings])

/-- What has a number that counts exists. -/
lemma exist_of_lt_next {c : CardId} {k : Nat} (lt : k < (w.registry (.card c)).next) :
    c.place < w.cards.size := by
  by_contra out
  rw [registry, card, Table.get_of_size_le (Nat.le_of_not_lt out)] at lt
  exact absurd lt (Nat.not_lt_zero k)

lemma unsubscribeFrom_registry (em : Emitter) (k : Nat) (w : World) :
    (w.unsubscribeFrom em k).registry =
      Function.update w.registry em ((w.registry em).remove k) := by
  funext other
  rw [registry_unsubscribeFrom]
  by_cases here : em = other
  · subst here
    rw [if_pos rfl, Function.update_self]
  · rw [if_neg here, Function.update_of_ne fun eq => here eq.symm]

lemma holdings_unsubscribeFrom {em : Emitter} {k : Nat} (given : k < (w.registry em).next) :
    (w.unsubscribeFrom em k).holdings = w.holdings := by
  cases em with
  | state s => exact holdings_onStore s _
  | expr e => exact (holdings_onExpr e _).trans (Function.update_eq_self _ _)
  | set q => exact (holdings_onSet q _).trans (Function.update_eq_self _ _)
  | card c =>
      have exist := exist_of_lt_next given
      refine (holdings_onCard exist _).trans ?_
      have same : w.holdings (.node (.card c)) = (w.card c).holdings := if_pos exist
      exact Function.update_eq_iff.2 ⟨same.symm, fun _ _ => rfl⟩
  | deck d => exact (holdings_onDeck d _).trans (Function.update_eq_self _ _)
  | board b =>
      funext h
      rcases h with l | e | q | c | d <;> rfl

/-- **A subscription that is in hand ends.** -/
lemma clears_unsubscribeFrom (h : Subscriber) (em : Emitter) (k : Nat) (w : World) :
    Clears [] (Pi.single h {(em, k)}) 0 w (w.unsubscribeFrom em k) := by
  refine ⟨fun other => ?_, fun {hand since} c => ?_⟩
  · rw [registry_unsubscribeFrom]
    split <;> rfl
  · have balanced : Balanced w.registry (w.holdings + hand + Pi.single h {(em, k)})
        (countedFrom since) := by
      rw [add_assoc]
      exact c
    have given := balanced.below (Balanced.mem_add_single.2 (.inr ⟨rfl, rfl⟩))
    rw [raised_nil, Conserved, unsubscribeFrom_registry, holdings_unsubscribeFrom given, add_zero]
    exact balanced.remove

/-- **A listener of a state subscribes**, and the number is in hand. -/
lemma conserves_subscribeState (s : StateId) (l : StateListener) (w : World) :
    Conserves 0 (Pi.single l.subscriber {(.state s, (w.subscribeState s l).2)}) w
      (w.subscribeState s l).1 := by
  refine ⟨fun {hand since} c => ?_⟩
  rw [add_zero] at c
  have subscribed := c.subscribe (.state s) l.subscriber
  rw [Conserved, ← add_assoc, subscribeState, registry_onStore, holdings_onStore,
    Registry.map_subscribe]
  exact subscribed

/-! ### Nodes -/

section
variable {taken left : Multiset (Emitter × Nat)}

/-- **An expression gets something that was in hand**, in exchange for something else. -/
lemma clears_onExpr (e : ExprId) {f : ExprNode → ExprNode}
    (listeners : ∀ n, (f n).listeners = n.listeners)
    (moved : (f (w.expr e)).holdings + left = (w.expr e).holdings + taken) :
    Clears [] (Pi.single (.node (.expr e)) taken) (Pi.single (.node (.expr e)) left) w
      (w.onExpr e f) := by
  refine clears_of_eq ?_ ?_
  · rw [registry_onExpr, listeners]
    exact Function.update_eq_self _ _
  · rw [holdings_onExpr]
    exact update_add_single moved

/-- **A quality set gets something that was in hand**, in exchange for something else. -/
lemma clears_onSet (q : SetId) {f : SetNode → SetNode}
    (listeners : ∀ n, (f n).listeners = n.listeners)
    (moved : (f (w.set q)).holdings + left = (w.set q).holdings + taken) :
    Clears [] (Pi.single (.node (.set q)) taken) (Pi.single (.node (.set q)) left) w
      (w.onSet q f) := by
  refine clears_of_eq ?_ ?_
  · rw [registry_onSet, listeners]
    exact Function.update_eq_self _ _
  · rw [holdings_onSet]
    exact update_add_single moved

/-- **A card gets something that was in hand**, in exchange for something else. -/
lemma clears_onCard {c : CardId} (exist : c.place < w.cards.size) {f : CardNode → CardNode}
    (listeners : ∀ n, (f n).listeners = n.listeners)
    (moved : (f (w.card c)).holdings + left = (w.card c).holdings + taken) :
    Clears [] (Pi.single (.node (.card c)) taken) (Pi.single (.node (.card c)) left) w
      (w.onCard c f) := by
  have before : w.holdings (.node (.card c)) = (w.card c).holdings := if_pos exist
  refine clears_of_eq ?_ ?_
  · rw [registry_onCard, listeners]
    exact Function.update_eq_self _ _
  · rw [holdings_onCard exist]
    exact update_add_single (by rw [before, moved])

/-- **A deck gets something that was in hand**, in exchange for something else. -/
lemma clears_onDeck (d : DeckId) {f : DeckNode → DeckNode}
    (listeners : ∀ n, (f n).listeners = n.listeners)
    (moved : (f (w.deck d)).holdings + left = (w.deck d).holdings + taken) :
    Clears [] (Pi.single (.node (.deck d)) taken) (Pi.single (.node (.deck d)) left) w
      (w.onDeck d f) := by
  refine clears_of_eq ?_ ?_
  · rw [registry_onDeck, listeners]
    exact Function.update_eq_self _ _
  · rw [holdings_onDeck]
    exact update_add_single moved

end

/-! A change of a node that leaves its listeners and what it holds as they were. -/

lemma clears_keepSet (q : SetId) {f : SetNode → SetNode}
    (listeners : ∀ n, (f n).listeners = n.listeners)
    (holdings : ∀ n, (f n).holdings = n.holdings) : Clears [] rest rest w (w.onSet q f) := by
  refine clears_of_same ?_ ?_
  · rw [registry_onSet, listeners]
    exact Function.update_eq_self _ _
  · rw [holdings_onSet, holdings]
    exact Function.update_eq_self _ _

lemma clears_keepCard {c : CardId} (exist : c.place < w.cards.size) {f : CardNode → CardNode}
    (listeners : ∀ n, (f n).listeners = n.listeners)
    (holdings : ∀ n, (f n).holdings = n.holdings) : Clears [] rest rest w (w.onCard c f) := by
  have before : w.holdings (.node (.card c)) = (w.card c).holdings := if_pos exist
  refine clears_of_same ?_ ?_
  · rw [registry_onCard, listeners]
    exact Function.update_eq_self _ _
  · rw [holdings_onCard exist, holdings, ← before]
    exact Function.update_eq_self _ _

/-- **A node drops all its listeners for good.** -/
lemma clears_of_clear {n : NodeId}
    (registry : v.registry = Function.update w.registry n.emitter (w.registry n.emitter).clear)
    (holdings : v.holdings = w.holdings) : Clears [n] taken taken w v := by
  have next : ∀ em, (v.registry em).next = (w.registry em).next := by
    rw [registry]
    exact Balanced.next_update rfl
  refine ⟨next, fun {hand since} c => ?_⟩
  have raised : countedFrom (w.raised [n] since) =
      Function.update (countedFrom since) n.emitter (w.registry n.emitter).next := by
    funext em
    by_cases here : em = n.emitter
    · subst here
      rw [Function.update_self]
      cases n <;> exact if_pos List.mem_cons_self
    · rw [Function.update_of_ne here]
      cases em <;> try rfl
      all_goals exact if_neg fun mem => here (by rw [← List.mem_singleton.1 mem]; rfl)
  rw [Conserved, registry, holdings, raised]
  exact c.clear n.emitter

end World

end StoryEngine
