import StoryEngine.Random.Index

/-!
# Shuffling and drawing

* `exchange` — swaps two places of a list.
* `arrange` — the order that a list of drawn indices makes: from the last place down to the second,
  each place is exchanged with the one drawn for it.
* `drawIndices` — draws those indices, each from the places up to and including its own.
* `shuffle` — both together; `shuffle_perm` says that nothing is lost or gained.
* `pick` — one entry of a list; nothing is drawn for an empty one.
-/

namespace StoryEngine.Random

/-- Two places of a list exchanged; the list itself if one of them is missing. -/
def exchange {α : Type} (xs : List α) (i j : Nat) : List α :=
  match xs[i]?, xs[j]? with
  | some a, some b => (xs.set i b).set j a
  | _, _ => xs

/-- **The order that drawn indices make.**  The first index is for place `last`, the next for the
place before it, and so on down to place one. -/
def arrange {α : Type} : (last : Nat) → List Nat → List α → List α
  | last + 1, j :: js, xs => arrange last js (exchange xs (last + 1) j)
  | _, _, xs => xs

/-- The indices drawn for the places `last`, …, `1`. -/
def drawIndices : (last : Nat) → Generator → List Nat × Generator
  | 0, g => ([], g)
  | last + 1, g =>
    let (j, g) := g.index (last + 2)
    let (js, g) := drawIndices last g
    (j :: js, g)

/-- **A list in random order**, and the generator after it. -/
def shuffle {α : Type} (xs : List α) (g : Generator) : List α × Generator :=
  let (js, g) := drawIndices (xs.length - 1) g
  (arrange (xs.length - 1) js xs, g)

theorem exchange_perm {α : Type} (xs : List α) (i j : Nat) : (exchange xs i j).Perm xs := by
  unfold exchange
  split
  · next a b first second =>
    obtain ⟨hi, rfl⟩ := List.getElem?_eq_some_iff.1 first
    obtain ⟨hj, rfl⟩ := List.getElem?_eq_some_iff.1 second
    exact List.set_set_perm hi hj
  · exact .refl _

theorem arrange_perm {α : Type} (last : Nat) (js : List Nat) (xs : List α) :
    (arrange last js xs).Perm xs := by
  induction last generalizing js xs with
  | zero => exact .refl _
  | succ last ih =>
    cases js with
    | nil => exact .refl _
    | cons j js => exact (ih js _).trans (exchange_perm xs _ j)

/-- **A shuffled list has the same entries.** -/
theorem shuffle_perm {α : Type} (xs : List α) (g : Generator) : (shuffle xs g).1.Perm xs :=
  arrange_perm _ _ xs

/-- **One entry at random**, and the generator after it.  An empty list leaves the generator as it
was. -/
def pick {α : Type} (xs : List α) (g : Generator) : Option α × Generator :=
  if xs.isEmpty then (none, g)
  else
    let (i, g) := g.index xs.length
    (xs[i]?, g)

end StoryEngine.Random
