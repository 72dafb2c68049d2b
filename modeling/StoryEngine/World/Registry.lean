/-!
# Registries of listeners

Whatever can be listened to has a registry: its listeners in the order in which they subscribed.
Each subscription has a number of its own, which is never given out again, so a number that is no
longer registered stays so for good.

* `Registry.subscribe` — a listener at the end, under the next number.
* `Registry.remove` — without the listener of a number; nothing happens if there is none.
* `Registry.clear` — without any listener; the numbers go on.
* `Registry.Ordered` — the numbers ascend and are below the next one, which every operation keeps.
-/

namespace StoryEngine

/-- The listeners of one emitter. -/
structure Registry (α : Type) where
  next : Nat
  entries : List (Nat × α)

namespace Registry

variable {α : Type}

/-- Without listeners. -/
def empty : Registry α :=
  ⟨0, []⟩

instance : Inhabited (Registry α) := ⟨empty⟩

/-- A new listener at the end; its number is the `next` of the registry before. -/
def subscribe (r : Registry α) (a : α) : Registry α :=
  ⟨r.next + 1, r.entries ++ [(r.next, a)]⟩

/-- Without the listener of a number.  What the closure of that listener owned is not known here. -/
def remove (r : Registry α) (number : Nat) : Registry α :=
  { r with entries := r.entries.filter (·.1 != number) }

/-- Whether a number is registered. -/
def has (r : Registry α) (number : Nat) : Bool :=
  r.entries.any (·.1 == number)

/-- Without any listener. -/
def clear (r : Registry α) : Registry α :=
  { r with entries := [] }

/-- A new listener is registered, and everyone else as before. -/
theorem has_subscribe (r : Registry α) (a : α) (number : Nat) :
    (r.subscribe a).has number = (r.has number || r.next == number) := by
  simp [has, subscribe]

/-- A removed number is not registered any more, and all others as before. -/
theorem has_remove (r : Registry α) (gone number : Nat) :
    (r.remove gone).has number = (r.has number && number != gone) := by
  unfold has remove
  rw [List.any_filter, Bool.eq_iff_iff]
  simp only [List.any_eq_true, Bool.and_eq_true, beq_iff_eq, bne_iff_ne]
  constructor
  · rintro ⟨entry, mem, kept, rfl⟩
    exact ⟨⟨entry, mem, rfl⟩, kept⟩
  · rintro ⟨⟨entry, mem, rfl⟩, kept⟩
    exact ⟨entry, mem, kept, rfl⟩

/-- After clearing, no number is registered. -/
theorem has_clear (r : Registry α) (number : Nat) : r.clear.has number = false := rfl

/-- All numbers given out are below `next`, and none twice. -/
structure Ordered (r : Registry α) : Prop where
  below : ∀ entry ∈ r.entries, entry.1 < r.next
  ascending : r.entries.Pairwise fun a b => a.1 < b.1

theorem Ordered.empty : (empty : Registry α).Ordered :=
  ⟨by simp [Registry.empty], by simp [Registry.empty]⟩

theorem Ordered.subscribe {r : Registry α} (h : r.Ordered) (a : α) : (r.subscribe a).Ordered := by
  refine ⟨?_, ?_⟩
  · intro entry mem
    simp only [Registry.subscribe, List.mem_append, List.mem_singleton] at mem ⊢
    rcases mem with mem | rfl
    · have := h.below entry mem
      omega
    · simp
  · simp only [Registry.subscribe, List.pairwise_append, List.pairwise_singleton,
      List.mem_singleton, true_and]
    exact ⟨h.ascending, fun x mem y eq => by subst eq; exact h.below x mem⟩

theorem Ordered.remove {r : Registry α} (h : r.Ordered) (number : Nat) :
    (r.remove number).Ordered :=
  ⟨fun entry mem => h.below entry (List.mem_filter.1 mem).1, h.ascending.filter _⟩

theorem Ordered.clear {r : Registry α} : r.clear.Ordered :=
  ⟨by simp [Registry.clear], by simp [Registry.clear]⟩

/-- A number stands for one listener. -/
theorem Ordered.eq_of_number {r : Registry α} (h : r.Ordered) {a b : Nat × α}
    (ha : a ∈ r.entries) (hb : b ∈ r.entries) (eq : a.1 = b.1) : a = b := by
  refine List.Pairwise.forall_of_forall_of_flip (R := fun a b => a.1 = b.1 → a = b) ?_ ?_ ?_
    ha hb eq
  · intro a _ _
    rfl
  · exact h.ascending.imp fun lt eq => absurd eq (Nat.ne_of_lt lt)
  · exact h.ascending.imp fun lt eq => absurd eq.symm (Nat.ne_of_lt lt)

end Registry

end StoryEngine
