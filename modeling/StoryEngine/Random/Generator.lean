import StoryEngine.Random.Keystream

/-!
# Generators

A generator is a key and the place reached in its stream.

* `Generator.ofSeed` — a seed of sixty-four bits spread over a whole key.
* `Generator.next` — the word at the place reached; the place moves on.
-/

namespace StoryEngine.Random

/-- A key and the place reached in its stream. -/
structure Generator where
  key : Key
  place : Nat
  deriving DecidableEq

/-! ## From a seed to a key

The seed goes through a congruential generator; each of its states gives one word of the key,
folded and turned by the state's own top bits.
-/

/-- One step of the congruential generator. -/
def spreadStep (state : UInt64) : UInt64 :=
  state * 6364136223846793005 + 11634580027462260723

/-- The word that a state gives. -/
def spreadWord (state : UInt64) : UInt32 :=
  let folded := (((state >>> 18) ^^^ state) >>> 27).toUInt32
  let turn := (state >>> 59).toUInt32
  (folded >>> turn) ||| (folded <<< ((32 - turn) % 32))

/-- The first words that the states after a seed give. -/
def spread : (count : Nat) → UInt64 → List UInt32
  | 0, _ => []
  | count + 1, state => spreadWord (spreadStep state) :: spread count (spreadStep state)

namespace Generator

/-- **The generator of a seed**, at the start of its stream. -/
def ofSeed (seed : UInt64) : Generator :=
  ⟨Vector.ofFn fun i => (spread 8 seed).getD i 0, 0⟩

instance : Inhabited Generator := ⟨ofSeed 0⟩

/-- The next word, and the generator after it. -/
def next (g : Generator) : UInt64 × Generator :=
  (word64 g.key g.place, { g with place := g.place + 1 })

end Generator

end StoryEngine.Random
