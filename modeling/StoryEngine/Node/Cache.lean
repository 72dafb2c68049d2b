/-!
# Cached results

A node that is bound to a state keeps its last result, stamped with the revision of the state at
which it was computed.  A result counts only as long as the state is at that revision, so a reader
never has to wait for a notification that something has changed.

* `Cache` — no binding, nothing worth keeping, or a stamped result.
* `Cache.get?` — the result at a revision.
* `Cache.status` — what can be seen of it.
-/

namespace StoryEngine

/-- The cached result of a node. -/
inductive Cache where
  | unbound
  | dirty
  | valid (value : Bool) (revision : Nat)
  deriving DecidableEq, Repr

namespace Cache

instance : Inhabited Cache := ⟨.unbound⟩

/-- Forgetting the result, unless there is no binding. -/
def invalidate : Cache → Cache
  | .unbound => .unbound
  | _ => .dirty

/-- **The result at a revision**, if the cache holds one computed there. -/
def get? (revision : Nat) : Cache → Option Bool
  | .valid value stamp => if stamp = revision then some value else none
  | _ => none

/-- Keeping a result, unless there is no binding. -/
def store (value : Bool) (revision : Nat) : Cache → Cache
  | .unbound => .unbound
  | _ => .valid value revision

/-- What can be seen of a cache. -/
inductive Status where
  | unbound
  | dirty
  | valid
  deriving DecidableEq, Repr

/-- **What can be seen of a cache** when the state, if there is one, is at a revision.  A result
from another revision counts as none. -/
def status (revision : Option Nat) : Cache → Status
  | .unbound => .unbound
  | .dirty => .dirty
  | .valid _ stamp => if revision = some stamp then .valid else .dirty

/-- A result is there at the revision with which it is stamped. -/
theorem get?_eq_some {c : Cache} {value : Bool} {revision : Nat} :
    c.get? revision = some value ↔ c = .valid value revision := by
  cases c with
  | unbound => simp [get?]
  | dirty => simp [get?]
  | valid value' stamp => simp [get?, and_comm]

/-- A kept result is there at its own revision and at no other. -/
theorem get?_store {c : Cache} (h : c ≠ .unbound) (value : Bool) (stamp revision : Nat) :
    (c.store value stamp).get? revision = if stamp = revision then some value else none := by
  cases c <;> simp_all [store, get?]

/-- A forgotten result is there at no revision. -/
theorem get?_invalidate (c : Cache) (revision : Nat) : c.invalidate.get? revision = none := by
  cases c <;> rfl

/-- A cache is seen to be valid exactly when it holds a result at the revision of the state. -/
theorem status_eq_valid_iff {c : Cache} {revision : Nat} :
    c.status (some revision) = .valid ↔ (c.get? revision).isSome := by
  cases c with
  | unbound => simp [status, get?]
  | dirty => simp [status, get?]
  | valid value stamp => by_cases h : stamp = revision <;> simp [status, get?, h, Ne.symm]

end Cache

end StoryEngine
