import StoryEngine.Proofs.Conserved.Editing

/-!
# Naming subscriptions keeps the account

Who subscribes a listener holds its number by a name.  The number is let go when the name stands for
something else, or for nothing any more.

* `World.Still.clears` — work that has nothing to do with subscriptions.
* `World.clears_replace`, `World.clears_forget` — a name gets another object, or none.
* `World.conserves_subscribe` — a listener subscribes, and a name stands for its subscription.
-/

namespace StoryEngine

namespace World

variable {rest : Holdings} {w v : World}

/-! ## What has nothing to do with subscriptions -/

lemma Still.clears (h : w.Still v) : Clears [] rest rest w v := by
  refine clears_of_same ?_ ?_
  · funext em
    cases em with
    | state s => rw [registry, registry, h.store]
    | expr e => exact congrArg (Registry.map _ ·.2) (h.expr e)
    | set q => exact congrArg (Registry.map _ ·.2.2) (h.set q)
    | card c => exact congrArg (Registry.map _ ·.2.2.1) (h.card c)
    | deck d => exact congrArg (Registry.map _ ·.2.2) (h.deck d)
    | board b => rw [registry, registry, h.board]
  · funext subscriber
    rcases subscriber with l | e | q | c | d
    · have same : (v.listener l).holding = (w.listener l).holding := h.listener l
      rw [World.holdings, World.holdings, same, timesNamed, timesNamed, h.names]
    · exact congrArg (heldBy ·.1) (h.expr e)
    · exact congrArg (fun ties => heldBy ties.2.1 + ↑(ties.1.map Member.holding)) (h.set q)
    · have same : (v.card c).holdings = (w.card c).holdings :=
        congrArg (fun ties => {(Emitter.set ties.1, ties.2.1)}) (h.card c)
      rw [World.holdings, World.holdings, same, h.cards]
    · exact congrArg (fun ties => heldBy ties.2.1 + ↑(ties.1.map Entry.holding)) (h.deck d)

lemma clears_withHeld (held : List Handle) (w : World) :
    Clears [] rest rest w { w with held } := by
  refine clears_of_same ?_ ?_
  · funext em
    cases em <;> rfl
  · funext h
    rcases h with l | e | q | c | d <;> rfl

/-! ## Names -/

/-- What is in hand with an object that has no name: the number of the listener, if the object is
the subscription of one. -/
def handOf (w : World) (o : Option Object) : Holdings
  | .user l =>
    Multiset.replicate (if o.any (·.subscription? == some l) then 1 else 0) (w.listener l).holding
  | .node _ => 0

lemma handOf_eq_zero {o : Object} (plain : o.subscription? = none) : w.handOf (some o) = 0 := by
  funext h
  cases h with
  | user l => rw [handOf, Option.any_some, plain]; rfl
  | node n => rfl

lemma handOf_none (w : World) : w.handOf none = 0 := by
  funext h
  cases h <;> rfl

lemma handOf_subscription (w : World) (l : ListenerId) :
    w.handOf (some (.subscription l)) = Pi.single (.user l) {(w.listener l).holding} := by
  funext h
  cases h with
  | user l' =>
      rw [handOf, Pi.single_apply]
      by_cases here : l' = l
      · subst here
        simp [Object.subscription?]
      · simp [Object.subscription?, here, Ne.symm here]
  | node n =>
      have other : (Subscriber.node n) ≠ .user l := by simp
      rw [Pi.single_eq_of_ne other]
      rfl

/-- A name is forgotten, and what it stood for is in hand. -/
lemma clears_erase (distinct : Distinct w.names) (name : String) :
    Clears [] 0 (w.handOf (w.find? name)) w (w.erase name) := by
  refine clears_of_eq ?_ ?_
  · funext em
    cases em <;> rfl
  · funext h
    rcases h with l | e | q | c | d <;> try rfl
    have count := countP_erase distinct name fun o => o.subscription? == some l
    show Multiset.replicate _ (w.listener l).holding + Multiset.replicate _ _ =
      Multiset.replicate _ _ + 0
    rw [add_zero, ← Multiset.replicate_add]
    exact congrArg (Multiset.replicate · _) count

/-- A name gets what is in hand, and what it stood for before is in hand now. -/
lemma clears_put (distinct : Distinct w.names) (name : String) (o : Object) :
    Clears [] (w.handOf (some o)) (w.handOf (w.find? name)) w (w.put name o) := by
  refine clears_of_eq ?_ ?_
  · funext em
    cases em <;> rfl
  · funext h
    rcases h with l | e | q | c | d <;> try rfl
    have count := countP_erase distinct name fun o => o.subscription? == some l
    have named : (w.put name o).timesNamed l = (w.names.filter (·.1 != name)).countP
        (fun entry => entry.2.subscription? == some l) +
          if o.subscription? == some l then 1 else 0 := List.countP_cons
    show Multiset.replicate _ (w.listener l).holding + Multiset.replicate _ _ =
      Multiset.replicate _ _ + Multiset.replicate _ _
    rw [← Multiset.replicate_add, ← Multiset.replicate_add, named, timesNamed, ← count,
      Nat.add_right_comm]
    rfl

/-- The subscription that is in hand ends. -/
lemma clears_dropSubscription (o : Option Object) (w : World) :
    Clears [] (w.handOf o) 0 w (w.dropSubscription o) := by
  rcases o with _ | h | s | e | l
  · rw [handOf_none]
    exact .refl w
  · rw [handOf_eq_zero rfl]
    exact .refl w
  · rw [handOf_eq_zero rfl]
    exact .refl w
  · rw [handOf_eq_zero rfl]
    exact .refl w
  · rw [handOf_subscription]
    exact clears_unsubscribeFrom (.user l) _ _ w

/-- **A name is forgotten**, and the subscription that it stood for ends. -/
lemma clears_forget (distinct : Distinct w.names) (name : String) :
    Clears [] 0 0 w (w.forget name) :=
  (clears_erase distinct name).trans (clears_dropSubscription (w.find? name) (w.erase name))

/-- **A name gets what is in hand**, and the subscription that it stood for ends. -/
lemma clears_replace (distinct : Distinct w.names) (name : String) (o : Object) :
    Clears [] (w.handOf (some o)) 0 w (w.replace name o) :=
  (clears_put distinct name o).trans (clears_dropSubscription (w.find? name) (w.put name o))

/-! ## New listeners -/

lemma holdings_subscribeTo {emitter : Emitter}
    (exist : ∀ c, emitter = .card c → c.place < w.cards.size) (l : ListenerId) :
    (w.subscribeTo emitter l).1.holdings = w.holdings := by
  cases emitter with
  | state s => exact holdings_onStore s _
  | expr e => exact (holdings_onExpr e _).trans (Function.update_eq_self _ _)
  | set q => exact (holdings_onSet q _).trans (Function.update_eq_self _ _)
  | card c =>
      have same : w.holdings (.node (.card c)) = (w.card c).holdings := if_pos (exist c rfl)
      refine (holdings_onCard (exist c rfl) _).trans ?_
      exact Function.update_eq_iff.2 ⟨same.symm, fun _ _ => rfl⟩
  | deck d => exact (holdings_onDeck d _).trans (Function.update_eq_self _ _)
  | board b =>
      funext h
      rcases h with l | e | q | c | d <;> rfl

lemma listener_newListener (emitter : Emitter) (name : String) (program : List Step) (times : Nat)
    (w : World) (l : ListenerId) :
    (w.newListener emitter name program times).1.listener l =
      if l.place = w.listeners.size then ⟨name, emitter, (w.registry emitter).next, program, times⟩
      else w.listener l := by
  have table : (w.subscribeTo emitter ⟨w.listeners.size⟩).1.listeners = w.listeners :=
    (onward_subscribeTo emitter _ w).table
  rw [newListener, listener, Table.get_add, table, subscribeTo_number]
  rfl

/-- **A listener subscribes**, and its number is in hand. -/
lemma conserves_newListener {emitter : Emitter} (name : String) (program : List Step) (times : Nat)
    (exist : ∀ c, emitter = .card c → c.place < w.cards.size)
    (unnamed : w.timesNamed ⟨w.listeners.size⟩ = 0) :
    Conserves 0 (Pi.single (.user ⟨w.listeners.size⟩) {(emitter, (w.registry emitter).next)}) w
      (w.newListener emitter name program times).1 := by
  have subscribedTo := holdings_subscribeTo exist ⟨w.listeners.size⟩
  refine conserves_of_subscribe ?_ ?_
  · funext em
    have after := registry_subscribeTo w emitter em ⟨w.listeners.size⟩
    have same : (w.newListener emitter name program times).1.registry em =
        (w.subscribeTo emitter ⟨w.listeners.size⟩).1.registry em := by
      cases em <;> rfl
    rw [same, after]
    by_cases here : emitter = em
    · subst here
      rw [if_pos rfl, Function.update_self]
    · rw [if_neg here, Function.update_of_ne fun eq => here eq.symm]
  · funext h
    refine Eq.trans ?_ (congrFun subscribedTo h)
    rcases h with l | e | q | c | d <;> try rfl
    have named : (w.newListener emitter name program times).1.timesNamed l = w.timesNamed l :=
      congrArg (List.countP _) (onward_subscribeTo emitter _ w).names
    rw [subscribedTo, World.holdings, World.holdings, named, listener_newListener]
    split
    · next new =>
        obtain rfl : l = ⟨w.listeners.size⟩ := congrArg ListenerId.mk new
        rw [unnamed]
        rfl
    · rfl

/-- **A listener subscribes**, and a name stands for its subscription. -/
lemma conserves_subscribe {emitter : Emitter} (name : String) (program : List Step) (times : Nat)
    (exist : ∀ c, emitter = .card c → c.place < w.cards.size) (distinct : Distinct w.names)
    (unnamed : w.timesNamed ⟨w.listeners.size⟩ = 0) :
    Conserves 0 0 w ((w.newListener emitter name program times).1.replace name
      (.subscription ⟨w.listeners.size⟩)) := by
  have names : (w.newListener emitter name program times).1.names = w.names :=
    (onward_subscribeTo emitter _ w).names
  have named := clears_replace (w := (w.newListener emitter name program times).1)
    (names.symm ▸ distinct) name (.subscription ⟨w.listeners.size⟩)
  have holding : ((w.newListener emitter name program times).1.listener
      ⟨w.listeners.size⟩).holding = (emitter, (w.registry emitter).next) := by
    rw [listener_newListener, if_pos rfl]
    rfl
  rw [handOf_subscription, holding] at named
  exact (conserves_newListener name program times exist unnamed).trans named.conserves

end World

end StoryEngine
