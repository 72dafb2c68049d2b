import Mathlib.Algebra.BigOperators.Group.Finset.Basic
import Mathlib.Algebra.Order.Floor.Div
import Mathlib.Order.Interval.Finset.Nat
import Mathlib.Tactic.Common
import StoryEngine.Proofs.Spent

/-!
# Fair draws

A word times the bound lies in one of as many stretches as there are indices, each as long as there
are words.  Of each stretch only a beginning is accepted, and the length of that beginning is a
multiple of the bound.  So it holds equally many multiples of the bound wherever the stretch lies,
and each of these multiples is a word.

* `Random.zone_bounds` — how long the beginning is: at least half of the stretch, and never all of
  it.
* `Random.accept?_eq_some_iff`, `Random.acceptedFor_eq_Ico` — **the words that give an index** are
  neighbours, and `Random.card_acceptedFor` counts them.
* `Random.card_accepted` — all words that are accepted.
* `Random.Generator.Finds` — the first word of a generator that is accepted, and
  `Random.Generator.index_of_finds` — that it is the one which decides.
* `World.Draws` — what becomes of drawing one of some cards.
* **`World.draw_fair`** — draws are fair, and give a card that is on offer, if there is one.
-/

namespace StoryEngine

namespace Random

variable {bound word index : Nat}

/-! ## The words that give an index -/

/-- **How many products are accepted in each stretch**: at least half of them, and never all. -/
lemma zone_bounds (positive : 0 < bound) (small : bound < wordCount) :
    wordCount ≤ 2 * (bound * 2 ^ leadingZeros bound) ∧
      bound * 2 ^ leadingZeros bound < wordCount := by
  have digits : bound.log2 < 64 := (Nat.log2_lt positive.ne').2 small
  have lower : 2 ^ bound.log2 ≤ bound := Nat.log2_self_le positive.ne'
  have upper : bound < 2 ^ (bound.log2 + 1) := Nat.lt_log2_self
  have whole : wordCount = 2 ^ (bound.log2 + 1) * 2 ^ leadingZeros bound := by
    rw [← Nat.pow_add, leadingZeros, show bound.log2 + 1 + (63 - bound.log2) = 64 by omega]
    rfl
  constructor
  · calc wordCount = 2 * (2 ^ bound.log2 * 2 ^ leadingZeros bound) := by
          rw [whole, Nat.pow_succ', Nat.mul_assoc]
      _ ≤ 2 * (bound * 2 ^ leadingZeros bound) :=
          Nat.mul_le_mul_left 2 (Nat.mul_le_mul_right _ lower)
  · calc bound * 2 ^ leadingZeros bound < 2 ^ (bound.log2 + 1) * 2 ^ leadingZeros bound :=
          Nat.mul_lt_mul_of_pos_right upper (Nat.two_pow_pos _)
      _ = wordCount := whole.symm

/-- **The words that give an index**: those whose product with the bound is in the beginning of the
stretch of the index. -/
lemma accept?_eq_some_iff (positive : 0 < bound) (small : bound < wordCount) :
    accept? bound word = some index ↔
      index * wordCount ≤ word * bound ∧
        word * bound < index * wordCount + bound * 2 ^ leadingZeros bound := by
  obtain ⟨half, never⟩ := zone_bounds positive small
  rw [accept?, zone]
  generalize word * bound = product
  change 0 < bound at positive
  rw [show Nat.pow 2 (leadingZeros bound) = 2 ^ leadingZeros bound from rfl]
  generalize bound * 2 ^ leadingZeros bound = length at half never
  rw [wordCount] at half never ⊢
  split
  · rw [Option.some.injEq]
    omega
  · simp only [reduceCtorEq, false_iff]
    omega

/-- The zero bits in front of a number are those in front of it as a word. -/
lemma leadingZeros_eq_clz (positive : 0 < bound) (small : bound < wordCount) :
    leadingZeros bound = (BitVec.ofNat 64 bound).clz.toNat := by
  have value : (BitVec.ofNat 64 bound).toNat = bound := Nat.mod_eq_of_lt small
  have nonzero : BitVec.ofNat 64 bound ≠ 0#64 := fun zero => by simp [zero] at value; omega
  have few : (BitVec.ofNat 64 bound).clz.toNat < 64 := BitVec.clz_lt_iff_ne_zero.2 nonzero
  have lower := BitVec.two_pow_sub_clz_le_toNat_of_ne_zero (by decide) nonzero
  have upper := BitVec.toNat_lt_two_pow_sub_clz (x := BitVec.ofNat 64 bound)
  rw [value] at lower upper
  have digits : bound.log2 = 63 - (BitVec.ofNat 64 bound).clz.toNat := by
    rw [Nat.log2_eq_iff positive.ne']
    exact ⟨lower, by rwa [show 63 - _ + 1 = 64 - (BitVec.ofNat 64 bound).clz.toNat by omega]⟩
  rw [leadingZeros, digits]
  omega

/-- The words that give an index. -/
def acceptedFor (bound index : Nat) : Finset Nat :=
  {word ∈ Finset.range wordCount | accept? bound word = some index}

/-- All words that give an index. -/
def accepted (bound : Nat) : Finset Nat :=
  {word ∈ Finset.range wordCount | (accept? bound word).isSome}

/-- Multiples of a bound that lie before a place and some more multiples. -/
lemma mul_lt_add_mul_iff (positive : 0 < bound) {place count : Nat} :
    bound * word < place + bound * count ↔ word < place ⌈/⌉ bound + count := by
  rcases Nat.lt_or_ge word count with few | many
  · have within : bound * word < bound * count := Nat.mul_lt_mul_of_pos_left few positive
    exact iff_of_true (Nat.lt_add_left _ within) (Nat.lt_add_left _ few)
  · obtain ⟨more, rfl⟩ := Nat.exists_eq_add_of_le' many
    rw [Nat.mul_add, Nat.add_lt_add_iff_right, Nat.add_lt_add_iff_right, ← Nat.not_le, ← Nat.not_le,
      ceilDiv_le_iff_le_mul positive]

/-- **The words that give an index are neighbours**, from the first one whose product with the bound
reaches the stretch of the index. -/
lemma acceptedFor_eq_Ico (small : bound < wordCount) (below : index < bound) :
    acceptedFor bound index = Finset.Ico (index * wordCount ⌈/⌉ bound)
      (index * wordCount ⌈/⌉ bound + 2 ^ leadingZeros bound) := by
  have positive : 0 < bound := Nat.zero_lt_of_lt below
  obtain ⟨-, never⟩ := zone_bounds positive small
  ext word
  rw [acceptedFor, Finset.mem_filter, Finset.mem_range, accept?_eq_some_iff positive small,
    Finset.mem_Ico, ceilDiv_le_iff_le_mul positive, Nat.mul_comm word]
  have isWord : bound * word < index * wordCount + bound * 2 ^ leadingZeros bound →
      word < wordCount := by
    intro inside
    refine Nat.lt_of_mul_lt_mul_left (a := bound) (inside.trans ?_)
    calc index * wordCount + bound * 2 ^ leadingZeros bound
        < index * wordCount + wordCount := Nat.add_lt_add_left never _
      _ = (index + 1) * wordCount := (Nat.succ_mul index wordCount).symm
      _ ≤ bound * wordCount := Nat.mul_le_mul_right _ below
  rw [← mul_lt_add_mul_iff positive]
  exact ⟨And.right, fun inside => ⟨isWord inside.2, inside⟩⟩

/-- **Each index is given by equally many words.** -/
lemma card_acceptedFor (small : bound < wordCount) (below : index < bound) :
    (acceptedFor bound index).card = 2 ^ leadingZeros bound := by
  rw [acceptedFor_eq_Ico small below, Nat.card_Ico, Nat.add_sub_cancel_left]

/-- **The words that are accepted** are as many for each index below the bound. -/
lemma card_accepted (positive : 0 < bound) (small : bound < wordCount) :
    (accepted bound).card = bound * 2 ^ leadingZeros bound := by
  have gives : (accepted bound : Set Nat).MapsTo (fun word => (accept? bound word).getD 0)
      (Finset.range bound) := by
    intro word mem
    obtain ⟨isWord, given⟩ := Finset.mem_filter.1 (Finset.mem_coe.1 mem)
    obtain ⟨index, gives⟩ := Option.isSome_iff_exists.1 given
    simpa [gives] using accept?_lt (Finset.mem_range.1 isWord) gives positive
  have fiber (index : Nat) :
      {word ∈ accepted bound | (accept? bound word).getD 0 = index} = acceptedFor bound index := by
    ext word
    simp only [accepted, acceptedFor, Finset.mem_filter, and_assoc]
    cases accept? bound word <;> simp
  rw [Finset.card_eq_sum_card_fiberwise gives, Finset.sum_congr rfl fun index mem =>
    (congrArg Finset.card (fiber index)).trans (card_acceptedFor small (Finset.mem_range.1 mem)),
    Finset.sum_const, Finset.card_range, smul_eq_mul]

/-! ## The first word that is accepted -/

/-- A word of the stream, without the rest of its block. -/
lemma word32_eq (key : Key) (place : Nat) :
    let start := initial key (UInt64.ofNat (place / 16))
    let within : place % 16 < 16 := Nat.mod_lt _ (by decide)
    word32 key place =
      (doubleRound (doubleRound (doubleRound (doubleRound start))))[place % 16] +
        start[place % 16] :=
  Vector.getElem_zipWith ..

namespace Generator

/-- The word of a generator so many places on. -/
def wordAt (g : Generator) (ahead : Nat) : Nat :=
  (word64 g.key (g.place + ahead)).toNat

/-- **The first word of a generator that is accepted** for a bound is so many places on, and gives
the index. -/
structure Finds (g : Generator) (bound ahead index : Nat) : Prop where
  thrown : ∀ earlier < ahead, accept? bound (g.wordAt earlier) = none
  taken : accept? bound (g.wordAt ahead) = some index

/-- The generator after so many words. -/
def skip (g : Generator) (count : Nat) : Generator :=
  { g with place := g.place + count }

lemma wordAt_next (g : Generator) (ahead : Nat) : g.next.2.wordAt ahead = g.wordAt (ahead + 1) := by
  rw [wordAt, wordAt, next, Nat.add_right_comm]
  rfl

/-- **The search for an index** ends with the first word that is accepted. -/
lemma search?_of_finds {g : Generator} {ahead : Nat} (finds : g.Finds bound ahead index) :
    g.search? bound = some (index, g.skip (ahead + 1)) := by
  induction ahead generalizing g with
  | zero =>
      have taken : accept? bound g.next.1.toNat = some index := finds.taken
      rw [search?, taken]
      rfl
  | succ ahead ih =>
      have thrown : accept? bound g.next.1.toNat = none := finds.thrown 0 (Nat.succ_pos ahead)
      have later : g.next.2.Finds bound ahead index := by
        refine ⟨fun earlier before => ?_, ?_⟩
        · rw [wordAt_next]
          exact finds.thrown _ (Nat.succ_lt_succ before)
        · rw [wordAt_next]
          exact finds.taken
      rw [search?, thrown]
      dsimp only
      rw [ih later, skip, skip, next, Nat.add_right_comm, Nat.add_assoc]

/-- **The index of a generator is that of its first word that is accepted.** -/
lemma index_of_finds {g : Generator} {ahead : Nat} (finds : g.Finds bound ahead index) :
    g.index bound = (index, g.skip (ahead + 1)) := by
  rw [Generator.index, search?_of_finds finds]
  rfl

end Generator

/-- **One entry of a list is drawn** by the index that is found for its length. -/
lemma pick_of_ne_nil {α : Type} {xs : List α} (some : xs ≠ []) (g : Generator) :
    pick xs g = (xs[(g.index xs.length).1]?, (g.index xs.length).2) := by
  rw [pick, if_neg fun nothing => some (List.isEmpty_iff.1 nothing)]

end Random

namespace World

variable {w v : World} {d : DeckId} {cards : List CardId} {card : Option CardId}

/-! ## Drawing -/

/-- **What becomes of drawing one of some cards** by the generator of a deck.  The card that is
drawn stands at a place among them, the one that the first word accepted for their number gives.
None is drawn exactly if there is none, and then no word is used.  No deck has other cards
afterwards. -/
structure Draws (w : World) (d : DeckId) (cards : List CardId) (v : World) (card : Option CardId) :
    Prop where
  none_iff : card = none ↔ cards = []
  unused : cards = [] → (v.deck d).generator = (w.deck d).generator
  drawn : cards ≠ [] → ∃ place, ∃ below : place < cards.length, card = some cards[place] ∧
    ∀ ahead index, (w.deck d).generator.Finds cards.length ahead index →
      index = place ∧ (v.deck d).generator = (w.deck d).generator.skip (ahead + 1)
  entries : ∀ other, (v.deck other).entries = (w.deck other).entries

lemma draws_pick (d : DeckId) (cards : List CardId) (w : World) :
    w.Draws d cards (w.pick d cards).1 (w.pick d cards).2 := by
  have generator : ((w.pick d cards).1.deck d).generator =
      (Random.pick cards (w.deck d).generator).2 := by
    rw [pick, deck_onDeck, if_pos rfl]
  have entries (other : DeckId) :
      ((w.pick d cards).1.deck other).entries = (w.deck other).entries := by
    rw [pick, deck_onDeck]
    split <;> rfl
  rw [pick_value]
  by_cases nothing : cards = []
  · subst nothing
    exact ⟨iff_of_true rfl rfl, fun _ => generator, nofun, entries⟩
  · have below : ((w.deck d).generator.index cards.length).1 < cards.length :=
      Random.Generator.index_lt _ (List.length_pos_of_ne_nil nothing)
    rw [Random.pick_of_ne_nil nothing] at generator ⊢
    rw [List.getElem?_eq_getElem below]
    refine ⟨by simp [nothing], fun none => absurd none nothing,
      fun _ => ⟨_, below, rfl, ?_⟩, entries⟩
    intro ahead index finds
    rw [generator, Random.Generator.index_of_finds finds]
    exact ⟨rfl, rfl⟩

/-- To read beforehand makes no difference to drawing. -/
lemma CachesOnly.draws {u : World} (only : w.CachesOnly v) (draws : v.Draws d cards u card) :
    w.Draws d cards u card where
  none_iff := draws.none_iff
  unused nothing := by rw [draws.unused nothing, only.deck_eq]
  drawn some := by
    rw [← only.deck_eq d]
    exact draws.drawn some
  entries other := by rw [draws.entries, only.deck_eq]

lemma draw_of_availableCards {cards : List CardId} (offer : (w.availableCards d).2 = .ok cards) :
    ∃ card, (w.draw d).2 = .ok card ∧ w.Draws d cards (w.draw d).1 card := by
  have only := cachesOnly_availableCards d w
  rw [draw]
  rcases read : w.availableCards d with ⟨v, outcome⟩
  rw [read] at offer only
  obtain rfl : outcome = .ok cards := offer
  exact ⟨_, rfl, only.draws (draws_pick d cards v)⟩

lemma draws_drawIn (d : DeckId) (s : StateId) (w : World) :
    w.Draws d (w.availableIn d s).2 (w.drawIn d s).1 (w.drawIn d s).2 :=
  (cachesOnly_availableIn d s w).draws (draws_pick d _ _)

/-- **Draws are fair.**

* For every number of cards each place is given by the same number of words, as a power of two: as
  many zero bits as stand in front of the number.  At least half of all words are accepted.
* A deck draws one of the cards that it offers, at the place given by the first word accepted, and
  none exactly if it offers none.
* So it does for a given state. -/
theorem draw_fair (w : World) (d : DeckId) :
    (∀ count, 0 < count → count < Random.wordCount →
      (∀ place < count, (Random.acceptedFor count place).card =
        2 ^ (BitVec.ofNat 64 count).clz.toNat) ∧
      Random.wordCount ≤ 2 * (Random.accepted count).card) ∧
    (∀ cards, (w.availableCards d).2 = .ok cards →
      ∃ card, (w.draw d).2 = .ok card ∧ w.Draws d cards (w.draw d).1 card) ∧
    (∀ fault, (w.availableCards d).2 = .error fault → w.draw d = (w, .error fault)) ∧
    ∀ s, w.Draws d (w.availableIn d s).2 (w.drawIn d s).1 (w.drawIn d s).2 := by
  refine ⟨fun count positive small => ⟨fun place below => ?_, ?_⟩,
    fun cards => draw_of_availableCards, fun fault none => ?_, fun s => draws_drawIn d s w⟩
  · rw [Random.card_acceptedFor small below, Random.leadingZeros_eq_clz positive small]
  · rw [Random.card_accepted positive small]
    exact (Random.zone_bounds positive small).1
  · have unread : w.availableCards d = (w, .error fault) := by
      unfold availableCards at none ⊢
      split at none
      · next other state => rw [← Except.error.inj none]
      · cases none
    rw [draw, unread]

/-- A deck of four cards at a state where one of them is not on offer. -/
def threeOfFour : List Act :=
  [.state (.create "state"), .card (.create "first" "" ["true"] none .fresh),
    .card (.create "second" "" ["$open"] none .fresh),
    .card (.create "third" "" ["true"] none .fresh),
    .card (.create "fourth" "" ["true"] none .fresh),
    .deck (.create "deck" ["first", "second", "third", "fourth"] (some "state") (.seed 24))]

/-- The first word of the deck is thrown away, and the second gives the last of the three cards. -/
theorem draw_fair_three_of_four :
    let w := runUnder .free fire (threeOfFour.map .act) .empty
    (Random.acceptedFor 3 2).card = 2 ^ 62 ∧ Random.wordCount ≤ 2 * (Random.accepted 3).card ∧
      (w.draw ⟨0⟩).2 = .ok (some ⟨3⟩) ∧
      ((w.draw ⟨0⟩).1.deck ⟨0⟩).generator = (w.deck ⟨0⟩).generator.skip 2 := by
  intro w
  obtain ⟨words, offers, -, -⟩ := draw_fair w ⟨0⟩
  obtain ⟨equal, half⟩ := words 3 (by decide) (by decide)
  have offer : (w.availableCards ⟨0⟩).2 = .ok [⟨0⟩, ⟨2⟩, ⟨3⟩] := by decide +kernel
  have generator : (w.deck ⟨0⟩).generator = .ofSeed 24 := by decide +kernel
  have finds : (w.deck ⟨0⟩).generator.Finds 3 1 2 := by
    rw [generator]
    refine ⟨fun earlier before => ?_, ?_⟩
    · obtain rfl : earlier = 0 := Nat.lt_one_iff.1 before
      rw [Random.Generator.wordAt, Random.word64, Random.word32_eq, Random.word32_eq]
      decide +kernel
    · rw [Random.Generator.wordAt, Random.word64, Random.word32_eq, Random.word32_eq]
      decide +kernel
  obtain ⟨card, draws, drawn⟩ := offers _ offer
  obtain ⟨place, below, rfl, found⟩ := drawn.drawn (List.cons_ne_nil _ _)
  obtain ⟨rfl, used⟩ := found 1 2 finds
  exact ⟨equal 2 (by decide), half, draws, used⟩

end World

end StoryEngine
