import StoryEngine.Proofs.EngineStep

/-!
# Numbers of subscriptions

Emitters of all kinds keep registries of the same form.  Seen uniformly, every entry is a subscribed
listener or a node.

* `Subscriber`, `World.registry` — the registry of an emitter, seen uniformly.
* **`World.Numbered`** — registries are in order, and a subscribed listener's number stands for that
  listener only.
* `World.Numbered.engineStep` — every engine step keeps it.
-/

namespace StoryEngine

/-! ## Registries of all kinds -/

/-- Who is registered with an emitter: a subscribed listener, or a node. -/
inductive Subscriber where
  | user (l : ListenerId)
  | node (n : NodeId)
  deriving DecidableEq

/-- A registry with its listeners seen in another way. -/
def Registry.map {α β : Type} (f : α → β) (r : Registry α) : Registry β :=
  ⟨r.next, r.entries.map fun entry => (entry.1, f entry.2)⟩

lemma Registry.mem_map {α β : Type} {f : α → β} {r : Registry α} {entry : Nat × β} :
    entry ∈ (r.map f).entries ↔ ∃ a, (entry.1, a) ∈ r.entries ∧ f a = entry.2 := by
  rw [Registry.map, List.mem_map]
  constructor
  · rintro ⟨⟨k, a⟩, mem, rfl⟩
    exact ⟨a, mem, rfl⟩
  · rintro ⟨a, mem, eq⟩
    exact ⟨(entry.1, a), mem, by rw [eq]⟩

lemma Registry.ordered_map {α β : Type} (f : α → β) (r : Registry α) :
    (r.map f).Ordered ↔ r.Ordered := by
  constructor
  · intro h
    refine ⟨fun entry mem => h.below (entry.1, f entry.2) (List.mem_map_of_mem mem), ?_⟩
    have ascending := h.ascending
    rwa [map, List.pairwise_map] at ascending
  · intro h
    refine ⟨?_, List.pairwise_map.2 h.ascending⟩
    intro entry mem
    obtain ⟨a, mem, -⟩ := mem_map.1 mem
    exact h.below _ mem

lemma Registry.later_map {α β : Type} (f : α → β) {r r' : Registry α} (h : r.Later r') :
    (r.map f).Later (r'.map f) := by
  refine ⟨h.next, ?_, fun ordered => ?_⟩
  · intro entry mem
    obtain ⟨a, mem, eq⟩ := mem_map.1 mem
    rcases h.entries _ mem with old | fresh
    · exact .inl (mem_map.2 ⟨a, old, eq⟩)
    · exact .inr fresh
  · rw [ordered_map] at ordered ⊢
    exact h.ordered ordered

def StateListener.subscriber : StateListener → Subscriber
  | .user l => .user l
  | .expr e => .node (.expr e)
  | .set q => .node (.set q)
  | .deck d => .node (.deck d)

def ExprListener.subscriber : ExprListener → Subscriber
  | .user l => .user l
  | .owner q => .node (.set q)

def SetListener.subscriber : SetListener → Subscriber
  | .user l => .user l
  | .owner c => .node (.card c)

def CardListener.subscriber : CardListener → Subscriber
  | .user l => .user l
  | .owner d => .node (.deck d)

namespace World

/-- **The registry of an emitter.** -/
def registry (w : World) : Emitter → Registry Subscriber
  | .state s => (w.store s).listeners.map StateListener.subscriber
  | .expr e => (w.expr e).listeners.map ExprListener.subscriber
  | .set q => (w.set q).listeners.map SetListener.subscriber
  | .card c => (w.card c).listeners.map CardListener.subscriber
  | .deck d => (w.deck d).listeners.map Subscriber.user
  | .board b => (w.board b).map Subscriber.user

lemma Later.registry {w w' : World} (h : w.Later w') (em : Emitter) :
    (w.registry em).Later (w'.registry em) := by
  cases em with
  | state s => exact Registry.later_map _ (h.store s)
  | expr e => exact Registry.later_map _ (h.expr e).listeners
  | set q => exact Registry.later_map _ (h.set q).listeners
  | card c => exact Registry.later_map _ (h.card c).listeners
  | deck d => exact Registry.later_map _ (h.deck d).listeners
  | board b => exact Registry.later_map _ (h.board b)

/-! ## Numbers -/

/-- **Numbers of subscriptions are in order.**  Every registry is, every subscribed listener was
given a number of its emitter, and under that number nobody else is registered. -/
structure Numbered (w : World) : Prop where
  ordered : ∀ em, (w.registry em).Ordered
  number : ∀ l, l.place < w.listeners.size →
    (w.listener l).number < (w.registry (w.listener l).emitter).next
  mine : ∀ l, l.place < w.listeners.size →
    ∀ entry ∈ (w.registry (w.listener l).emitter).entries, entry.1 = (w.listener l).number →
      entry.2 = .user l

theorem Numbered.empty : World.empty.Numbered := by
  refine ⟨?_, ?_, ?_⟩
  · intro em
    cases em <;> exact Registry.Ordered.empty
  · intro l bound
    exact absurd bound (Nat.not_lt_zero _)
  · intro l bound
    exact absurd bound (Nat.not_lt_zero _)

/-- Numbers stay in order when nobody new subscribes. -/
lemma Numbered.later {w w' : World} (h : w.Numbered) (later : w.Later w')
    (size : w'.listeners.size ≤ w.listeners.size) : w'.Numbered := by
  refine ⟨fun em => (later.registry em).ordered (h.ordered em), ?_, ?_⟩
  · intro l bound
    have bound := Nat.lt_of_lt_of_le bound size
    have same := later.listener l bound
    rw [same.emitter, same.number]
    exact Nat.lt_of_lt_of_le (h.number l bound) (later.registry _).next
  · intro l bound entry mem eq
    have bound := Nat.lt_of_lt_of_le bound size
    have same := later.listener l bound
    rw [same.emitter] at mem
    rw [same.number] at eq
    rcases (later.registry _).entries entry mem with old | fresh
    · exact h.mine l bound entry old eq
    · have := h.number l bound
      omega

/-- Who subscribes is registered under the number that was next. -/
lemma registry_subscribeTo (w : World) (emitter em : Emitter) (l : ListenerId) :
    (w.subscribeTo emitter l).1.registry em =
      if emitter = em then (w.registry em).subscribe (.user l) else w.registry em := by
  cases emitter <;> cases em <;>
    simp only [subscribeTo, subscribeState, registry, store_onStore, expr_onExpr, set_onSet,
      card_onCard, deck_onDeck, board_onBoard, Emitter.state.injEq, Emitter.expr.injEq,
      Emitter.set.injEq, Emitter.card.injEq, Emitter.deck.injEq, Emitter.board.injEq, reduceCtorEq,
      if_false]
  all_goals first
    | rfl
    | (split
       · simp [Registry.map, Registry.subscribe, StateListener.subscriber, ExprListener.subscriber,
           SetListener.subscriber, CardListener.subscriber]
       · rfl)

lemma subscribeTo_number (w : World) (emitter : Emitter) (l : ListenerId) :
    (w.subscribeTo emitter l).2 = (w.registry emitter).next := by
  cases emitter <;> rfl

/-- A new listener has a number that nobody has. -/
lemma Numbered.newListener {w : World} (h : w.Numbered) (emitter : Emitter) (name : String)
    (program : List Step) (times : Nat) :
    (w.newListener emitter name program times).1.Numbered := by
  have registry : ∀ em, (w.newListener emitter name program times).1.registry em =
      if emitter = em then (w.registry em).subscribe (.user ⟨w.listeners.size⟩)
      else w.registry em := by
    intro em
    rw [← registry_subscribeTo]
    cases em <;> rfl
  have table : (w.subscribeTo emitter ⟨w.listeners.size⟩).1.listeners = w.listeners :=
    (onward_subscribeTo emitter _ w).table
  have listener : ∀ l : ListenerId, (w.newListener emitter name program times).1.listener l =
      if l.place = w.listeners.size then ⟨name, emitter, (w.registry emitter).next, program, times⟩
      else w.listener l := by
    intro l
    rw [World.newListener, World.listener, Table.get_add, table, subscribeTo_number]
    rfl
  have later := later_newListener emitter name program times w
  have size : (w.newListener emitter name program times).1.listeners.size =
      w.listeners.size + 1 := by
    rw [World.newListener, Table.size_add, table]
  refine ⟨fun em => (later.registry em).ordered (h.ordered em), ?_, ?_⟩
  · intro l bound
    rw [listener, registry]
    split
    · rw [if_pos rfl]
      exact Nat.lt_succ_self _
    · next old =>
        refine Nat.lt_of_lt_of_le (h.number l (by omega)) ?_
        split
        · exact Nat.le_succ _
        · exact Nat.le_refl _
  · intro l bound entry mem eq
    rw [listener] at mem eq
    rw [registry] at mem
    split at mem
    · next new =>
        rw [if_pos rfl] at mem
        rw [if_pos new] at eq
        rcases List.mem_append.1 mem with old | fresh
        · have := (h.ordered emitter).below entry old
          simp only at eq
          omega
        · rw [List.mem_singleton.1 fresh, ← new]
    · next old =>
        rw [if_neg old] at eq
        have bound : l.place < w.listeners.size := by omega
        split at mem
        · rcases List.mem_append.1 mem with mem | fresh
          · exact h.mine l bound entry mem eq
          · have := h.number l bound
            rw [List.mem_singleton.1 fresh] at eq
            simp only at eq
            omega
        · exact h.mine l bound entry mem eq

/-! ## Engine steps -/

lemma Numbered.withRoots {w : World} (h : w.Numbered) (names : List (String × Object))
    (held : List Handle) : (w.withRoots names held).Numbered :=
  h.later (later_withRoots w names held) (Nat.le_refl _)

lemma Numbered.steady {w w' : World} (h : w.Numbered) (steady : w.Steady w') : w'.Numbered :=
  h.later steady.toLater (Nat.le_of_eq (by rw [steady.table]))

/-- **Every move keeps numbers in order.** -/
theorem Numbered.move {w w' : World} (h : w.Numbered) (move : Move w w') : w'.Numbered := by
  cases move with
  | onward onward => exact h.steady onward.toSteady
  | made handle onward _ => exact (h.steady onward.toSteady).withRoots _ _
  | roots _ => exact h.withRoots _ _
  | amend s contents => exact h.steady (steady_amend s contents w)
  | enter s => exact (h.withRoots _ _).steady (steady_enterBatch s _)
  | shut s _ => exact (h.withRoots _ _).steady (steady_shut s _)
  | newListener emitter name program times => exact h.newListener emitter name program times
  | spend l remaining left =>
      have later : w.Later (w.spend l remaining) := later_onListener fun _ => ⟨rfl, rfl, rfl⟩
      refine h.later later (Nat.le_of_eq (Table.size_modify _ _ ?_))
      by_contra out
      rw [World.listener, Table.get_of_size_le (Nat.le_of_not_lt out)] at left
      exact absurd left (Nat.succ_ne_zero _).symm

/-- Every engine step keeps numbers in order. -/
theorem Numbered.engineStep {rule : Rule} {w w' : World} (h : w.Numbered)
    (engineStep : EngineStep rule w w') :
    w'.Numbered :=
  h.move engineStep.move

end World

end StoryEngine
