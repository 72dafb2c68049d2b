import StoryEngine.Value

/-!
# Contents of a state

The values of the qualities by their keys, each key once, the key that was set first in front.

* `Contents.put`, `Contents.without` — the contents with a key set, and without a key.
* `Contents.sorted`, `Contents.keys` — the contents in order of the keys, and the keys alone.
* `Contents.lookup_put`, `Contents.lookup_without` — what every key has afterwards.
-/

namespace StoryEngine

/-- The values of the qualities. -/
abbrev Contents := List (String × Value)

namespace Contents

/-- The contents with a key set; a new key goes to the end. -/
def put (contents : Contents) (key : String) (v : Value) : Contents :=
  if (contents.lookup key).isSome then
    contents.map fun pair => if pair.1 == key then (key, v) else pair
  else contents ++ [(key, v)]

/-- The contents without a key. -/
def without (contents : Contents) (key : String) : Contents :=
  contents.filter (·.1 != key)

/-- The contents in order of the keys. -/
def sorted (contents : Contents) : Contents :=
  contents.mergeSort fun a b => a.1 < b.1 || a.1 == b.1

/-- The keys in order. -/
def keys (contents : Contents) : List String :=
  contents.sorted.map (·.1)

/-! ## Looking up -/

/-- Looking a key up in contents that begin with some pair. -/
theorem lookup_pair (name : String) (v : Value) (rest : Contents) (key : String) :
    List.lookup key ((name, v) :: rest) = if key = name then some v else rest.lookup key := by
  by_cases h : key = name
  · simp [h]
  · simp [List.lookup_cons, h, beq_eq_false_iff_ne.2 h]

/-- Looking a key up after another one was rewritten in place. -/
theorem lookup_map (contents : Contents) (key other : String) (v : Value) :
    (contents.map fun pair => if pair.1 == key then (key, v) else pair).lookup other =
      if other = key ∧ (contents.lookup key).isSome then some v else contents.lookup other := by
  induction contents with
  | nil => simp
  | cons pair rest ih =>
    obtain ⟨name, old⟩ := pair
    by_cases here : name = key
    · subst here
      simp only [List.map_cons, BEq.rfl, if_true, lookup_pair, ih]
      by_cases o : other = name <;> simp [o]
    · simp only [List.map_cons, beq_eq_false_iff_ne.2 here, Bool.false_eq_true, if_false,
        lookup_pair, ih, Ne.symm here]
      by_cases o : other = key
      · simp [o, Ne.symm here]
      · simp [o]

/-- Looking a key up after a pair was added at the end. -/
theorem lookup_append (contents : Contents) (key other : String) (v : Value) :
    (contents ++ [(key, v)]).lookup other =
      (contents.lookup other).or (if other = key then some v else none) := by
  induction contents with
  | nil => simp [lookup_pair]
  | cons pair rest ih =>
    obtain ⟨name, old⟩ := pair
    simp only [List.cons_append, lookup_pair, ih]
    by_cases n : other = name <;> simp [n]

/-- **A key that was set has its new value**, and all others have theirs. -/
theorem lookup_put (contents : Contents) (key other : String) (v : Value) :
    (contents.put key v).lookup other = if other = key then some v else contents.lookup other := by
  unfold put
  split
  · next present =>
    rw [lookup_map]
    simp only [present, and_true]
  · next absent =>
    have none_there : contents.lookup key = none := by
      cases h : contents.lookup key with
      | none => rfl
      | some old => simp [h] at absent
    rw [lookup_append]
    by_cases o : other = key
    · simp [o, none_there]
    · simp [o]

/-- **A key that was deleted has no value**, and all others have theirs. -/
theorem lookup_without (contents : Contents) (key other : String) :
    (contents.without key).lookup other = if other = key then none else contents.lookup other := by
  unfold without
  induction contents with
  | nil => simp
  | cons pair rest ih =>
    obtain ⟨name, old⟩ := pair
    by_cases here : name = key
    · subst here
      simp only [List.filter_cons, bne_self_eq_false, Bool.false_eq_true, if_false, ih, lookup_pair]
      split <;> simp_all
    · simp only [List.filter_cons, bne_iff_ne.2 here, if_true, lookup_pair, ih]
      by_cases n : other = name
      · simp [n, here]
      · simp [n]

end Contents

end StoryEngine
