import Mathlib.Data.List.Permutation
import Mathlib.Data.Nat.Factorial.Basic
import Mathlib.Data.Set.Card
import StoryEngine.Proofs.DeckEdits
import StoryEngine.Proofs.FairDraw

/-!
# Shuffling

The places of a list are gone through from the last one down to the second, and each is exchanged
with one drawn from the places up to its own.  Once it has been exchanged, the last place is never
touched again.  So its entry tells which index was drawn for it, and what stands before it is a
shuffled list of what was left.

* `Random.Drawable` — indices that can be drawn, as those of a generator are.
* `Random.Generator.Gives` — the indices that the words of a generator give for all places, and the
  generator after the last of these words.
* `Random.exchange_last`, `Random.arrange_append` — what becomes of the last place.
* **`Random.existsUnique_arrange`** — every order is made by exactly one list of drawn indices.
* `World.OtherGenerators` — worlds with other generators in their decks.
* `World.SameButOrder` — worlds that differ in the order of a deck's entries only.
* **`World.shuffle_of_passes`** — shuffling reaches every order exactly once, and does nothing but
  put entries in order.
-/

namespace StoryEngine

namespace Random

/-! ## Orders and the indices that make them -/

variable {α : Type} {last : Nat} {xs ys : List α} {js : List Nat}

/-- **Indices that can be drawn** for the places `last`, …, `1`: each is that of one of the places
up to and including its own. -/
inductive Drawable : (last : Nat) → List Nat → Prop
  | nil : Drawable 0 []
  | cons {last j : Nat} {js : List Nat} (below : j ≤ last + 1) (rest : Drawable last js) :
    Drawable (last + 1) (j :: js)

/-- **The indices that a generator gives** for the places `last`, …, `1`, and the generator after
them.  For each place there are as many choices as there are places up to and including it, and the
first word accepted for this number gives the index.  The next place goes on behind that word. -/
inductive Generator.Gives : (last : Nat) → Generator → List Nat → Generator → Prop
  | nil {g : Generator} : Gives 0 g [] g
  | cons {last ahead j : Nat} {js : List Nat} {g after : Generator}
    (finds : g.Finds (last + 2) ahead j) (rest : Gives last (g.skip (ahead + 1)) js after) :
    Gives (last + 1) g (j :: js) after

/-- **Drawing the indices** comes to those that the generator gives, and leaves it after them. -/
lemma drawIndices_of_gives {g after : Generator} (gives : g.Gives last js after) :
    drawIndices last g = (js, after) := by
  induction gives with
  | nil => rfl
  | cons finds _ ih =>
      rw [drawIndices, Generator.index_of_finds finds]
      dsimp only
      rw [ih]

/-- The indices that a generator gives can be drawn. -/
lemma drawable_drawIndices (last : Nat) (g : Generator) : Drawable last (drawIndices last g).1 := by
  induction last generalizing g with
  | zero => exact .nil
  | succ last ih => exact .cons (Nat.lt_succ_iff.1 (g.index_lt (Nat.succ_pos _))) (ih _)

/-- **The last entry exchanged**: the one drawn for it comes last, and the last one takes the place
of that one, unless it is the same. -/
lemma exchange_last (xs : List α) (b : α) {j : Nat} (below : j < (xs ++ [b]).length) :
    exchange (xs ++ [b]) xs.length j = xs.set j b ++ [(xs ++ [b])[j]] := by
  rw [exchange, List.getElem?_concat_length, List.getElem?_eq_getElem below]
  dsimp only
  rw [List.set_append_right _ _ (Nat.le_refl _), Nat.sub_self, List.set_cons_zero]
  rcases Nat.lt_or_ge j xs.length with inside | outside
  · rw [List.set_append_left _ _ inside]
  · obtain rfl : j = xs.length := by
      rw [List.length_append, List.length_singleton] at below
      omega
    simp [List.set_eq_of_length_le]

/-- **What stands behind the places that are drawn for stays where it is.** -/
lemma arrange_append (drawn : Drawable last js) (within : last < xs.length) (more : List α) :
    arrange last js (xs ++ more) = arrange last js xs ++ more := by
  induction drawn generalizing xs with
  | nil => rfl
  | @cons last j js below _ ih =>
      have inside : j < xs.length := Nat.lt_of_le_of_lt below within
      have moved : exchange (xs ++ more) (last + 1) j = exchange xs (last + 1) j ++ more := by
        rw [exchange, exchange, List.getElem?_append_left within, List.getElem?_append_left inside,
          List.getElem?_eq_getElem within, List.getElem?_eq_getElem inside]
        dsimp only
        rw [List.set_append_left _ _ within,
          List.set_append_left _ _ (by rwa [List.length_set])]
      rw [arrange, arrange, moved]
      refine ih ?_
      rw [(exchange_perm xs _ _).length_eq]
      exact Nat.lt_of_succ_lt within

/-- **Every order is made by exactly one list of drawn indices.**  The last entry tells the first
index; what stands before it is an order of what is left, and tells the others. -/
lemma existsUnique_arrange (distinct : xs.Nodup) (length : xs.length - 1 = last)
    (order : ys.Perm xs) : ∃! js, Drawable last js ∧ arrange last js xs = ys := by
  induction last generalizing xs ys with
  | zero =>
      have same : ys = xs := by
        match xs, length with
        | [], _ => exact List.perm_nil.1 order
        | [_], _ => exact List.perm_singleton.1 order
      refine ⟨[], ⟨.nil, same.symm⟩, ?_⟩
      rintro js ⟨⟨⟩, -⟩
      rfl
  | succ last ih =>
      obtain ⟨front, b, rfl⟩ : ∃ front b, xs = front ++ [b] :=
        (List.eq_nil_or_concat' xs).resolve_left fun nothing => by simp [nothing] at length
      obtain ⟨before, c, rfl⟩ : ∃ before c, ys = before ++ [c] :=
        (List.eq_nil_or_concat' ys).resolve_left fun nothing => by simp [nothing] at order
      have long : front.length = last + 1 := by simpa using length
      obtain ⟨j, below, rfl⟩ := List.mem_iff_getElem.1 (order.subset (by simp : c ∈ before ++ [c]))
      have left : before.Perm (front.set j b) := by
        refine (List.perm_append_right_iff [(front ++ [b])[j]]).1 (order.trans ?_)
        rw [← exchange_last front b below]
        exact (exchange_perm _ _ _).symm
      have distinctLeft : (front.set j b).Nodup := by
        have all := (exchange_perm (front ++ [b]) front.length j).nodup_iff.2 distinct
        rw [exchange_last front b below] at all
        exact (List.nodup_append.1 all).1
      obtain ⟨js, ⟨drawn, arranged⟩, unique⟩ :=
        ih distinctLeft (by rw [List.length_set, long]; rfl) left
      have step (i : Nat) (is : List Nat) (inside : i < (front ++ [b]).length)
          (drawn : Drawable last is) : arrange (last + 1) (i :: is) (front ++ [b]) =
            arrange last is (front.set i b) ++ [(front ++ [b])[i]] := by
        rw [arrange, ← long, exchange_last front b inside]
        exact arrange_append drawn (by rw [List.length_set, long]; exact Nat.lt_succ_self _) _
      refine ⟨j :: js, ⟨.cons (by simpa [long, Nat.lt_succ_iff] using below) drawn, ?_⟩, ?_⟩
      · rw [step j js below drawn, arranged]
      · rintro _ ⟨drawnToo, arrangedToo⟩
        cases drawnToo with
        | @cons _ i is small rest =>
            have inside : i < (front ++ [b]).length := by simpa [long, Nat.lt_succ_iff] using small
            rw [step i is inside rest] at arrangedToo
            obtain ⟨first, same⟩ := List.append_inj' arrangedToo rfl
            obtain rfl : i = j := distinct.getElem_inj_iff.1 (List.cons.inj same).1
            rw [unique is ⟨rest, first⟩]

/-- **Shuffling reaches every order exactly once.** -/
lemma bijOn_arrange (distinct : xs.Nodup) :
    Set.BijOn (arrange (xs.length - 1) · xs) {js | Drawable (xs.length - 1) js}
      {ys | ys.Perm xs} := by
  refine ⟨fun js _ => arrange_perm _ js xs, fun js drawn is drawnToo same => ?_, fun ys order => ?_⟩
  · exact (existsUnique_arrange distinct rfl (arrange_perm _ is xs)).unique ⟨drawn, same⟩
      ⟨drawnToo, rfl⟩
  · obtain ⟨js, ⟨drawn, arranged⟩, -⟩ := existsUnique_arrange distinct rfl order
    exact ⟨js, drawn, arranged⟩

/-- There are as many orders of different entries as the factorial of their number says. -/
lemma ncard_orders (distinct : xs.Nodup) :
    {ys : List α | ys.Perm xs}.ncard = xs.length.factorial := by
  classical
  have listed : {ys : List α | ys.Perm xs} = (xs.permutations.toFinset : Set (List α)) := by
    ext ys
    simp [List.mem_permutations]
  rw [listed, Set.ncard_coe_finset, List.toFinset_card_of_nodup (xs.nodup_permutations distinct),
    List.length_permutations]

end Random

namespace World

variable {u w v : World} {d : DeckId} {react : Reaction}

/-! ## Any generator -/

/-- **A world with other generators** in its decks, and otherwise the same. -/
structure OtherGenerators (u w : World) : Prop where
  alike : w = { u with decks := w.decks }
  deck : ∀ d, w.deck d = { u.deck d with generator := (w.deck d).generator }

lemma OtherGenerators.refl (w : World) : w.OtherGenerators w :=
  ⟨rfl, fun _ => rfl⟩

/-- A deck is given a generator. -/
def withGenerator (d : DeckId) (generator : Random.Generator) (w : World) : World :=
  w.onDeck d fun n => { n with generator }

lemma otherGenerators_withGenerator (d : DeckId) (generator : Random.Generator) (w : World) :
    w.OtherGenerators (w.withGenerator d generator) := by
  refine ⟨rfl, fun other => ?_⟩
  rw [withGenerator, deck_onDeck]
  split <;> rfl

/-- Results are right as before, whatever the generators are. -/
lemma OtherGenerators.fresh (h : u.OtherGenerators w) (fresh : u.Fresh) : w.Fresh := by
  rw [h.alike]
  exact fresh.alike (fun _ => rfl) fun _ => rfl

/-! ## What shuffling leaves alone -/

lemma allHold_onDeck (d : DeckId) (f : DeckNode → DeckNode) (es : List ExprId) (w : World) :
    (w.onDeck d f).allHold es = w.allHold es := by
  induction es with
  | nil => rfl
  | cons e rest ih =>
      rw [allHold, allHold, ih]
      rfl

/-- Cards read alike, whatever is done to a deck. -/
lemma Fresh.cardResult_onDeck (fresh : w.Fresh) (d : DeckId) (f : DeckNode → DeckNode)
    (c : CardId) : ((w.onDeck d f).cardResult c).2 = (w.cardResult c).2 := by
  have fresh' : (w.onDeck d f).Fresh := fresh.alike (fun _ => rfl) fun _ => rfl
  have sets (q : SetId) : ((w.onDeck d f).setResult q).2 = (w.setResult q).2 := by
    rw [fresh.setResult_eq, fresh'.setResult_eq]
    simp only [allHold_onDeck]
    rfl
  rw [cardResult, cardResult]
  have state : (w.onDeck d f).cardState c = w.cardState c := rfl
  rw [state]
  split
  · rfl
  · exact sets _

/-- **A deck differs in the order of its entries only**, and in what it draws next.  Cards and their
registries are as they were, every node is bound where it was, and every card reads alike; what the
deck offers differs in order only. -/
structure SameButOrder (d : DeckId) (w v : World) : Prop where
  entries : (v.deck d).entries.Perm (w.deck d).entries
  others : ∀ other, other ≠ d → v.deck other = w.deck other
  card : ∀ c, v.card c = w.card c
  bound : ∀ n, v.boundTo n = w.boundTo n
  result : ∀ c, (v.cardResult c).2 = (w.cardResult c).2
  check : ∀ c s, (v.cardCheck c s).2 = (w.cardCheck c s).2
  available : ∀ c, (v.isCardAvailable d c).2 = (w.isCardAvailable d c).2
  offers : ∀ cards, (w.availableCards d).2 = .ok cards →
    ∃ reordered, (v.availableCards d).2 = .ok reordered ∧ reordered.Perm cards
  offersIn : ∀ s, (v.availableIn d s).2.Perm (w.availableIn d s).2

/-- **Putting the entries of a deck in another order leaves everything else alone.** -/
lemma sameButOrder_reorder (fresh : w.Fresh) (d : DeckId) : w.SameButOrder d (w.reorder d) := by
  have entries : ((w.reorder d).deck d).entries.Perm (w.deck d).entries := by
    rw [reorder, deck_onDeck, if_pos rfl]
    exact Random.shuffle_perm _ _
  have binding (other : DeckId) : ((w.reorder d).deck other).binding = (w.deck other).binding := by
    rw [reorder, deck_onDeck]
    split <;> rfl
  have state : (w.reorder d).deckState d = w.deckState d := deckState_congr (binding d) rfl rfl
  have result (c : CardId) : ((w.reorder d).cardResult c).2 = (w.cardResult c).2 :=
    fresh.cardResult_onDeck d _ c
  have reads (s : StateId) (c : CardId) : (w.reorder d).deckReads s c = w.deckReads s c := by
    rw [deckReads, deckReads, result]
    rfl
  have fresh' : (w.reorder d).Fresh := fresh.alike (fun _ => rfl) fun _ => rfl
  refine ⟨entries, fun other elsewhere => ?_, fun _ => rfl, fun n => ?_, result, fun c s => ?_,
    fun c => ?_, fun cards offer => ?_, fun s => ?_⟩
  · rw [reorder, deck_onDeck, if_neg elsewhere.symm]
  · cases n with
    | deck other => exact congrArg (Option.map Binding.state) (binding other)
    | _ => rfl
  · rw [cardCheck, cardCheck, setCheck_value, setCheck_value]
    rfl
  · rw [isCardAvailable_value, isCardAvailable_value, state]
    rfl
  · rw [fresh.availableCards_value] at offer
    rw [fresh'.availableCards_value, state]
    rcases bound : w.deckState d with fault | s
    all_goals rw [bound] at offer
    · cases offer
    · obtain rfl := Except.ok.inj offer
      refine ⟨_, rfl, ?_⟩
      simp only [reads]
      exact (entries.map _).filter _
  · rw [availableIn_value, availableIn_value]
    exact (entries.map _).filter _

/-- Where caches differ only, every node is bound alike. -/
lemma CachesOnly.boundTo_eq (h : w.CachesOnly v) (n : NodeId) : v.boundTo n = w.boundTo n := by
  cases n with
  | expr e => rw [boundTo, boundTo, h.expr e]
  | set q => rw [boundTo, boundTo, h.set q]
  | card c => rw [boundTo, boundTo, h.card_eq c]
  | deck other => rw [boundTo, boundTo, h.deck_eq other]

/-- **Listeners that only read leave everything alone** as well. -/
lemma SameButOrder.spending {notified : List Call} (h : w.SameButOrder d v) (fresh : v.Fresh)
    (spending : OnlyCallsSpending notified v u) : w.SameButOrder d u := by
  have only : v.CachesOnly (u.withListeners v.listeners) := spending.onlyCalls.only
  have state : u.deckState d = v.deckState d :=
    deckState_congr (by rw [spending.deck_eq]) only.names only.held
  have holds (q : SetId) (s : StateId) : u.setHolds q s = v.setHolds q s := only.setHolds_eq q s
  refine ⟨?_, fun other elsewhere => ?_, fun c => ?_, fun n => ?_, fun c => ?_, fun c s => ?_,
    fun c => ?_, fun cards offer => ?_, fun s => ?_⟩
  · rw [spending.deck_eq]
    exact h.entries
  · rw [spending.deck_eq, h.others other elsewhere]
  · rw [spending.card_eq, h.card]
  · exact (only.boundTo_eq n).trans (h.bound n)
  · rw [← h.result, ← spending.onlyCalls.cardResult_eq,
      (sameNodes_withListeners v.listeners u).cardResult_eq spending.fresh]
  · rw [← h.check, cardCheck, cardCheck, setCheck_value, setCheck_value, spending.card_eq, holds]
  · rw [← h.available, isCardAvailable_value, isCardAvailable_value, state, spending.card_eq]
    simp only [holds]
  · rw [spending.availableCards_eq fresh]
    exact h.offers cards offer
  · refine .trans ?_ (h.offersIn s)
    rw [availableIn_value, availableIn_value, spending.deck_eq]
    simp only [spending.card_eq, holds]
    exact .refl _

/-- **Shuffling reaches every order exactly once, and does nothing but put entries in order.**

* From the indices that can be drawn to the orders of different entries, of which there are as many
  as the factorial of their number says, there is a bijection.
* The index drawn for a place of a deck is the one that the generator gives for the number of places
  up to it.  The generator goes on from place to place, and is left behind the last word used.
* A deck is shuffled by these indices, and then notifies its listeners.  Whatever its generator is,
  nothing differs meanwhile but the order of the entries.
* Nor does it after the listeners have been called, if they only read. -/
theorem shuffle_of_passes {look : Supervisor} (watches : look.Watches) {depth : Nat}
    {steps : List Step} (passes : Passes look depth steps u) (generators : u.OtherGenerators w)
    (d : DeckId) (react : Reaction) :
    let entries := (w.deck d).entries
    let generator := (w.deck d).generator
    let drawn := (Random.drawIndices (entries.length - 1) generator).1
    (∀ {α : Type} (xs : List α), xs.Nodup →
      Set.BijOn (Random.arrange (xs.length - 1) · xs) {js | Random.Drawable (xs.length - 1) js}
        {ys | ys.Perm xs} ∧
      {ys : List α | ys.Perm xs}.ncard = xs.length.factorial) ∧
    Random.Drawable (entries.length - 1) drawn ∧
    (∀ js after, generator.Gives (entries.length - 1) js after →
      drawn = js ∧ ((w.reorder d).deck d).generator = after) ∧
    ((w.reorder d).deck d).entries = Random.arrange (entries.length - 1) drawn entries ∧
    w.SameButOrder d (w.reorder d) ∧
    w.shuffle react d = (w.reorder d).pushDeck react d none ∧
    ((∀ entry ∈ w.deckEntries d, OnlyReads react w entry.2) →
      ((w.shuffle react d).deck d).entries = ((w.reorder d).deck d).entries ∧
      ((w.shuffle react d).deck d).generator = ((w.reorder d).deck d).generator ∧
      w.SameButOrder d (w.shuffle react d)) := by
  intro entries generator drawn
  have fresh := generators.fresh (Fresh.invariant.of_passes watches passes)
  have reordered := sameButOrder_reorder fresh d
  have shuffled : (w.reorder d).deck d =
      { w.deck d with
        entries := Random.arrange (entries.length - 1) drawn entries
        generator := (Random.drawIndices (entries.length - 1) generator).2 } := by
    rw [reorder, deck_onDeck, if_pos rfl]
    rfl
  refine ⟨fun xs distinct => ⟨Random.bijOn_arrange distinct, Random.ncard_orders distinct⟩,
    Random.drawable_drawIndices _ _, fun js after gives => ?_, congrArg DeckNode.entries shuffled,
    reordered, rfl, fun readers => ?_⟩
  · have drew := Random.drawIndices_of_gives gives
    exact ⟨congrArg Prod.fst drew, (congrArg DeckNode.generator shuffled).trans
      (congrArg Prod.snd drew)⟩
  · have effect : w.TakesEffect d .shuffle := trivial
    have notified : OnlyCallsSpending ((w.reorder d).deckPushCalls d) (w.reorder d)
      (w.shuffle react d) :=
      .pushDeck_edited fresh effect readers
    exact ⟨by rw [notified.deck_eq], by rw [notified.deck_eq],
      reordered.spending (fresh.alike (fun _ => rfl) fun _ => rfl) notified⟩

/-- A deck with a card twice and another one, which is not on offer, at a state.  Its listener reads
what is on offer. -/
def twiceAndOnce : List Step :=
  [.act (.state (.create "state")),
    .act (.card (.create "twice" "" ["true"] none .fresh)),
    .act (.card (.create "once" "" ["$open"] none .fresh)),
    .act (.deck (.create "deck" ["twice", "once", "twice"] (some "state") .none)),
    .subscribe "deck" "reader" [.act (.deck (.available "deck"))] 1]

/-- The first word of a generator gives index zero of three.  The second one is thrown away, and the
third one gives index zero of two. -/
lemma gives_zero_zero :
    (Random.Generator.ofSeed 18).Gives 2 [0, 0] ((Random.Generator.ofSeed 18).skip 3) := by
  have first : (Random.Generator.ofSeed 18).Finds 3 0 0 := by
    refine ⟨nofun, ?_⟩
    rw [Random.Generator.wordAt, Random.word64, Random.word32_eq, Random.word32_eq]
    decide +kernel
  have second : ((Random.Generator.ofSeed 18).skip 1).Finds 2 1 0 := by
    refine ⟨fun earlier before => ?_, ?_⟩
    · obtain rfl : earlier = 0 := Nat.lt_one_iff.1 before
      rw [Random.Generator.wordAt, Random.word64, Random.word32_eq, Random.word32_eq]
      decide +kernel
    · rw [Random.Generator.wordAt, Random.word64, Random.word32_eq, Random.word32_eq]
      decide +kernel
  exact .cons first (.cons second .nil)

/-- Three entries have six orders.  The generator gives index zero for both places that are drawn
for, and leaves out a word, so the deck has the one order that this makes: with the subscriptions of
the entries, and with the card on offer twice. -/
theorem shuffle_of_passes_twiceAndOnce :
    let react := reactionUnder .free 1
    let w := (runUnder .free react twiceAndOnce .empty).withGenerator ⟨0⟩ (.ofSeed 18)
    let v := w.shuffle react ⟨0⟩
    {ys : List Nat | ys.Perm [1, 2, 3]}.ncard = 6 ∧
      (v.deck ⟨0⟩).entries = [⟨⟨1⟩, 0⟩, ⟨⟨0⟩, 1⟩, ⟨⟨0⟩, 0⟩] ∧
      (v.deck ⟨0⟩).generator = (w.deck ⟨0⟩).generator.skip 3 ∧
      (v.card ⟨0⟩).listeners = (w.card ⟨0⟩).listeners ∧ v.boundTo (.card ⟨1⟩) = some ⟨0⟩ ∧
      (v.availableCards ⟨0⟩).2 = .ok [⟨0⟩, ⟨0⟩] := by
  intro react w v
  have passes : Passes .free 1 twiceAndOnce (runUnder .free react twiceAndOnce .empty) := .inr rfl
  have generators := otherGenerators_withGenerator ⟨0⟩ (.ofSeed 18)
    (runUnder .free react twiceAndOnce .empty)
  obtain ⟨orders, -, given, arranged, -, -, readers⟩ :=
    shuffle_of_passes Supervisor.free_watches passes generators ⟨0⟩ react
  obtain ⟨sameEntries, sameGenerator, same⟩ := readers fun entry mem => by
    refine onlyReads_of_reads Supervisor.free_watches (.inr ?_) 1
    revert entry
    decide +kernel
  have entries : (w.deck ⟨0⟩).entries = [⟨⟨0⟩, 0⟩, ⟨⟨1⟩, 0⟩, ⟨⟨0⟩, 1⟩] := by decide +kernel
  have generator : (w.deck ⟨0⟩).generator = .ofSeed 18 := by decide +kernel
  have offer : (w.availableCards ⟨0⟩).2 = .ok [⟨0⟩, ⟨0⟩] := by decide +kernel
  have bound : w.boundTo (.card ⟨1⟩) = some ⟨0⟩ := by decide +kernel
  rw [entries, generator] at given arranged
  obtain ⟨drawn, after⟩ := given _ _ gives_zero_zero
  rw [drawn] at arranged
  obtain ⟨cards, offers, order⟩ := same.offers _ offer
  refine ⟨(orders [1, 2, 3] (by decide)).2, sameEntries.trans arranged, ?_, by rw [same.card],
    (same.bound _).trans bound, ?_⟩
  · rw [generator]
    exact sameGenerator.trans after
  · rw [offers, List.perm_replicate.1 (show cards.Perm (List.replicate 2 ⟨0⟩) from order)]
    rfl

end World

end StoryEngine
