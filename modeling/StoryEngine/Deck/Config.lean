import StoryEngine.Random.Generator
import StoryEngine.Toml.Document

/-!
# Configuration of a deck

A deck shuffles and draws by a generator.  Its configuration may fix the seed of the generator, so
that a story can be played again.

* `DeckConfig.ofText` — reads a configuration; keys other than `seed` are ignored.
* `DeckConfig.generator` — the generator that a deck starts with.
-/

namespace StoryEngine

/-- The configuration of a deck. -/
structure DeckConfig where
  seed : Option UInt64
  deriving DecidableEq, Repr

/-- Why a text is no configuration: it is no document, or its seed is no natural number. -/
inductive ConfigError where
  | toml
  deriving DecidableEq, Repr

/-- The wording of a configuration that cannot be read. -/
def ConfigError.message : ConfigError → String
  | .toml => "invalid deck configuration"

namespace DeckConfig

/-- Without a seed. -/
def unseeded : DeckConfig := ⟨none⟩

/-- With a seed. -/
def seeded (seed : UInt64) : DeckConfig := ⟨some seed⟩

/-- **Reading a configuration.** -/
def ofText (source : String) : Except ConfigError DeckConfig :=
  match Toml.read? source with
  | none => .error .toml
  | some table =>
    match table.find? "seed" with
    | none => .ok unseeded
    | some (.integer i) => if 0 ≤ i then .ok (seeded (UInt64.ofNat i.toNat)) else .error .toml
    | some _ => .error .toml

/-- **The generator that a deck starts with.**  A story that fixes no seed relies on no order, so
any will do; the generator of seed zero is taken. -/
def generator (config : DeckConfig) : Random.Generator :=
  .ofSeed (config.seed.getD 0)

end DeckConfig

end StoryEngine
