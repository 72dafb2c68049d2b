import StoryEngine.Random.Generator

/-!
# A fair index

An index below a bound is drawn from words of sixty-four bits without favouring any.

* `accept?` — the index that a word gives, unless the word has to be thrown away.
* `Generator.search?`, `Generator.index` — draw words until one is accepted.

A word times the bound is a number of a hundred and twenty-eight bits.  Its high half is the index;
the low half tells whether the word belongs to the part of all words that splits evenly among the
indices.
-/

namespace StoryEngine.Random

/-- The number of words of sixty-four bits. -/
def wordCount : Nat := 18446744073709551616

/-- The number of zero bits in front of a positive number of sixty-four bits. -/
def leadingZeros (n : Nat) : Nat :=
  63 - n.log2

/-- The largest low half that is accepted for a bound. -/
def zone (bound : Nat) : Nat :=
  bound * Nat.pow 2 (leadingZeros bound) - 1

/-- **The index that a word gives**, or nothing if the word is thrown away. -/
def accept? (bound word : Nat) : Option Nat :=
  let product := word * bound
  if product % wordCount ≤ zone bound then some (product / wordCount) else none

namespace Generator

/-- **Drawing words until one is accepted**: the index that it gives, and the generator after it.
A generator all of whose words are thrown away gives none; it is searched without end. -/
def search? (bound : Nat) (g : Generator) : Option (Nat × Generator) :=
  match accept? bound g.next.1.toNat with
  | some i => some (i, g.next.2)
  | none => g.next.2 |>.search? bound
partial_fixpoint

/-- **An index below the bound**, all equally likely.  Each word is accepted at least half of the
time, so the search comes to an end sooner or later. -/
def index (g : Generator) (bound : Nat) : Nat × Generator :=
  (g.search? bound).getD (0, g)

end Generator

end StoryEngine.Random
