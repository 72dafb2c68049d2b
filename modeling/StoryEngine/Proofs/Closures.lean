import StoryEngine.Proofs.Conserved.Basic
import StoryEngine.Proofs.Transaction

/-!
# What the closures of listeners own

A listener is a closure, and a closure can own what a program can: handles on objects, and the
guards of subscriptions.  Either is a name here, whoever owns it, so what a closure owns is alive as
long as its name is there.

A closure is dropped when its listener is removed, and what it owns is dropped with it.  If no round
under way has a copy of the closure, this happens inside of `Registry.remove`, which has the
registry borrowed to the end.  Should another listener of the same emitter go with the closure, the
registry is asked for again while it is borrowed.  Then the drop panics, and that listener stays
registered although nobody is left to remove it.  An emitter that is cleared drops its closures
after the borrow, so nothing of the kind happens there.

* `Closures` — which names are owned by closures, and which removals are under way.
* `World.isBorrowed` — whether the registry of an emitter is borrowed by one of them.
* `World.listenersAfterDrop` — **how many listeners are left when a name is dropped**.
* `Reachable` — how a world with such closures came about, if no drop has panicked on the way.
-/

namespace StoryEngine

/-- **What closures own**, each of them named by its listener, and the listeners that are being
removed, the innermost removal first. -/
structure Closures where
  owned : List (ListenerId × String)
  removing : List ListenerId

namespace Closures

/-- No closure owns anything, and no listener is being removed. -/
def none : Closures :=
  ⟨[], []⟩

/-- A name passes to the closure of a listener, or to the program if there is no listener. -/
def hand (closures : Closures) (name : String) (owner : Option ListenerId) : Closures :=
  { closures with
    owned := (owner.map (·, name)).toList ++ closures.owned.filter (·.2 != name) }

/-- What closures own of the names that there are. -/
def within (closures : Closures) (w : World) : Closures :=
  { closures with owned := closures.owned.filter fun (_, name) => (w.find? name).isSome }

end Closures

namespace World

/-- **Whether the registry of an emitter is borrowed**: a listener is being removed from it. -/
def isBorrowed (w : World) (closures : Closures) (em : Emitter) : Bool :=
  closures.removing.any fun l => (w.listener l).emitter == em

/-- **The listeners that are left when a name is dropped.**  A registry that is borrowed gives up
none of them. -/
def listenersAfterDrop (w : World) (closures : Closures) (name : String) (em : Emitter) : Nat :=
  if w.isBorrowed closures em then w.listenerCount em else (w.forget name).listenerCount em

/-- While one listener is being removed, only the registry of its emitter is borrowed. -/
lemma apart_of_removing {w v : World} {owned : List (ListenerId × String)} {l : ListenerId}
    (same : v.listenerCount (w.listener l).emitter = w.listenerCount (w.listener l).emitter)
    (em : Emitter) (borrowed : w.isBorrowed ⟨owned, [l]⟩ em) :
    v.listenerCount em = w.listenerCount em := by
  simp only [isBorrowed, List.any_cons, List.any_nil, Bool.or_false, beq_iff_eq] at borrowed
  rw [← borrowed, same]

end World

/-- **How a world with closures came about**, by transactions of the engine and by closures that are
dropped.  For every node there is the number that the node would have given out next when it was
disposed of for the last time.

Nothing is said of what comes after a drop that panicked because it would have taken a listener off
a registry that was borrowed: then `work` does not leave that registry as it was. -/
inductive Reachable (licence : Licence) : (NodeId → Nat) → World → Closures → Prop
  | empty : Reachable licence (fun _ => 0) .empty .none
  -- names are dropped like this too, at any time and by anyone
  | work {since : NodeId → Nat} {w v : World} {closures : Closures} {gone : List NodeId}
      (before : Reachable licence since w closures) (t : Transaction licence w gone v)
      (apart : ∀ em, w.isBorrowed closures em → v.listenerCount em = w.listenerCount em) :
      Reachable licence (w.raised gone since) v (closures.within v)
  -- a closure that is being dropped neither takes a name nor hands one over
  | hand {since : NodeId → Nat} {w : World} {closures : Closures}
      (before : Reachable licence since w closures) (name : String) (owner : Option ListenerId)
      (named : (w.find? name).isSome)
      (whole : ∀ l ∈ closures.removing, (l, name) ∉ closures.owned ∧ owner ≠ some l) :
      Reachable licence since w (closures.hand name owner)
  -- the guard of a listener is dropped, and the closure of the listener inside of that
  | removal {since : NodeId → Nat} {w : World} {closures : Closures} {name : String}
      {l : ListenerId} (before : Reachable licence since w closures)
      (guard : w.find? name = some (.subscription l))
      (free : w.isBorrowed closures (w.listener l).emitter = false) :
      Reachable licence since (w.forget name)
        { closures.within (w.forget name) with removing := l :: closures.removing }
  -- until nothing is left that the closure owned
  | removed {since : NodeId → Nat} {w : World} {owned : List (ListenerId × String)}
      {l : ListenerId} {removing : List ListenerId}
      (before : Reachable licence since w ⟨owned, l :: removing⟩)
      (dropped : ∀ name, (l, name) ∉ owned) : Reachable licence since w ⟨owned, removing⟩

end StoryEngine
