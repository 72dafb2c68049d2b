import StoryEngine.Proofs.Binding
import StoryEngine.Proofs.CallsNobody
import StoryEngine.Proofs.Declined
import StoryEngine.Proofs.OnlyReads

/-!
# Edits of a deck

The cards of a deck are a list, and so they are edited: a card goes to the end of it, is taken out
of it, or takes the first place of another one with the same hash; the list is exchanged, shuffled,
or left as it is while the deck is bound to another state.  Cards are bound and released on the way,
and the deck enters their registries and leaves them.  Nobody is called meanwhile.  When it is done
the deck pushes, once.

* `DeckEdit` — the edits; `World.editDeck` — what is done, and whether it takes effect.
* `World.TakesEffect`, `World.Turns`, `World.stateAfter` — when an edit takes effect, what becomes
  of the list, and where the deck is bound after it.
* `World.edited` — a deck that has been edited, before it pushes.
* `World.editDeck_of_takesEffect`, `World.editDeck_of_not_takesEffect` — an edit is done in full, or
  not at all.
* `World.turns_edited`, `World.callsNobody_edited` — the list is edited as it should be, and nobody
  is called.
* **`World.editDeck_of_passes`** — what an edit comes to, wherever a run passes through.
* **`World.boundTo_card_editDeck`** — the card that enters a bound deck is bound where the deck is,
  unless its quality set has been disposed of.
-/

namespace StoryEngine

/-- **The edits of a deck.** -/
inductive DeckEdit where
  /-- a card goes to the end -/
  | add (c : CardId)
  /-- a card is taken out of all its places -/
  | remove (c : CardId)
  /-- a card takes the first place of a card with the same hash -/
  | update (c : CardId)
  /-- there are other cards in place of those there were -/
  | replace (cards : List CardId)
  /-- the cards are in another order -/
  | shuffle
  /-- the deck is bound to another state -/
  | rebind (s : StateId)

namespace World

variable {w v : World} {d : DeckId} {edit : DeckEdit} {react : Reaction}

/-! ## What is done -/

/-- **A deck is edited**; whether the edit takes effect. -/
def editDeck (react : Reaction) (d : DeckId) (edit : DeckEdit) (w : World) : World × Bool :=
  match edit with
  | .add c => (w.addCard react d c).map id Except.isOk
  | .remove c => w.removeCard react d c
  | .update c => (w.updateCard react d c).map id (·.toOption == some true)
  | .replace cards => (w.setCards react d cards, true)
  | .shuffle => (w.shuffle react d, true)
  | .rebind s => (w.rebindDeck react d s).map id Except.isOk

/-- **When an edit takes effect.**  What has been disposed of takes no card and cannot be one; and
a card has to be there, or one with its hash, to make way. -/
def TakesEffect (w : World) (d : DeckId) : DeckEdit → Prop
  | .add c => (w.deck d).disposed = false ∧ (w.card c).disposed = false
  | .remove c => c ∈ (w.deck d).cards
  | .update c => (w.deck d).disposed = false ∧ (w.card c).disposed = false ∧
      ∃ old ∈ (w.deck d).cards, (w.card old).hash = (w.card c).hash
  | .replace _ => True
  | .shuffle => True
  | .rebind _ => (w.deck d).disposed = false

/-- **What an edit makes of a list of cards.** -/
def Turns (w : World) (edit : DeckEdit) (before after : List CardId) : Prop :=
  match edit with
  | .add c => after = before ++ [c]
  | .remove c => after = before.filter (· ≠ c)
  | .update c => ∃ first old rest, before = first ++ old :: rest ∧ after = first ++ c :: rest ∧
      (w.card old).hash = (w.card c).hash ∧ ∀ other ∈ first, (w.card other).hash ≠ (w.card c).hash
  | .replace cards => after = cards
  | .shuffle => after.Perm before
  | .rebind _ => after = before

/-- Where a deck is bound after an edit, or why it is not. -/
def stateAfter (w : World) (d : DeckId) : DeckEdit → Except NodeFault StateId
  | .rebind s => w.boundState .deck (some s)
  | _ => w.deckState d

/-- **A deck that has been edited**, before it pushes. -/
def edited (d : DeckId) (edit : DeckEdit) (w : World) : World :=
  match edit with
  | .add c => (w.insertCard d c).1
  | .remove c =>
    let (gone, kept) := (w.deck d).entries.partition (·.card == c)
    w.takeCard d c gone kept
  | .update c =>
    match w.placeOf? d (w.card c).hash with
    | some (index, old) =>
      (w.replaceCard d c index old).1.note (.cardUpdated (w.card c).hash index)
    | none => w
  | .replace cards => w.replaceCards d cards
  | .shuffle => w.reorder d
  | .rebind s => w.attachDeck d s

/-! ## The first place of a hash -/

/-- **The first place of a hash**: the card there has it, and no card before does. -/
lemma placeOf?_eq_some {hash : CardHash} {index : Nat} {old : Entry}
    (found : w.placeOf? d hash = some (index, old)) :
    ∃ first rest, (w.deck d).entries = first ++ old :: rest ∧ first.length = index ∧
      (w.card old.card).hash = hash ∧ ∀ entry ∈ first, (w.card entry.card).hash ≠ hash := by
  obtain ⟨i, least, found⟩ := Option.bind_eq_some_iff.1 found
  obtain ⟨entry, there, eq⟩ := Option.map_eq_some_iff.1 found
  obtain ⟨rfl, rfl⟩ := Prod.mk.inj eq
  obtain ⟨inside, has, lacks⟩ := List.findIdx?_eq_some_iff_getElem.1 least
  obtain ⟨-, rfl⟩ := List.getElem?_eq_some_iff.1 there
  refine ⟨(w.deck d).entries.take i, (w.deck d).entries.drop (i + 1), ?_, ?_,
    by simpa using has, ?_⟩
  · rw [← List.drop_eq_getElem_cons inside, List.take_append_drop]
  · exact List.length_take_of_le (Nat.le_of_lt inside)
  · intro entry mem
    obtain ⟨j, before, rfl⟩ := List.mem_take_iff_getElem.1 mem
    simpa using lacks j (Nat.lt_of_lt_of_le before (Nat.min_le_left _ _))

/-- There is no place of a hash if no card of the deck has it. -/
lemma placeOf?_eq_none {hash : CardHash} :
    w.placeOf? d hash = none ↔ ∀ c ∈ (w.deck d).cards, (w.card c).hash ≠ hash := by
  have none_iff : w.placeOf? d hash = none ↔
      (w.deck d).entries.findIdx? (fun entry => (w.card entry.card).hash == hash) = none := by
    rw [placeOf?]
    rcases least : (w.deck d).entries.findIdx? _ with _ | i
    · simp
    · obtain ⟨inside, -⟩ := List.findIdx?_eq_some_iff_getElem.1 least
      simp [inside]
  rw [none_iff, List.findIdx?_eq_none_iff]
  simp [DeckNode.cards]

/-! ## All or nothing -/

/-- **An edit that takes effect** is done, and then the deck pushes. -/
lemma editDeck_of_takesEffect (effect : w.TakesEffect d edit) (react : Reaction) :
    w.editDeck react d edit = ((w.edited d edit).pushDeck react d none, true) := by
  cases edit with
  | add c =>
      obtain ⟨deckUsable, usable⟩ := effect
      have inserts := insertCard_ok usable d
      rcases done : w.insertCard d c with ⟨u, outcome⟩
      rw [done] at inserts
      obtain rfl : outcome = .ok () := inserts
      simp [editDeck, edited, addCard, deckUsable, usable, done, Except.isOk, Except.toBool]
  | remove c =>
      have some_gone : ((w.deck d).entries.partition (·.card == c)).1.isEmpty = false := by
        obtain ⟨entry, there, rfl⟩ := List.mem_map.1 effect
        rw [List.partition_eq_filter_filter]
        exact List.isEmpty_eq_false_iff_exists_mem.2
          ⟨entry, List.mem_filter.2 ⟨there, beq_self_eq_true _⟩⟩
      rw [editDeck, edited, removeCard]
      dsimp only
      rw [some_gone]
      rfl
  | update c =>
      obtain ⟨deckUsable, usable, old, mem, same⟩ := effect
      rcases found : w.placeOf? d (w.card c).hash with _ | ⟨index, entry⟩
      · exact absurd same (placeOf?_eq_none.1 found old mem)
      · have replaces := replaceCard_ok usable d index entry
        rcases done : w.replaceCard d c index entry with ⟨u, outcome⟩
        rw [done] at replaces
        obtain rfl : outcome = .ok () := replaces
        simp [editDeck, edited, updateCard, deckUsable, usable, found, done, Except.toOption]
  | replace cards => rfl
  | shuffle => rfl
  | rebind s =>
      have usable : (w.deck d).disposed = false := effect
      simp [editDeck, edited, rebindDeck, bindDeck, usable, Except.isOk, Except.toBool]

/-- **An edit that does not take effect** leaves everything as it was. -/
lemma editDeck_of_not_takesEffect (without : ¬ w.TakesEffect d edit) (react : Reaction) :
    w.editDeck react d edit = (w, false) := by
  cases edit with
  | add c =>
      rw [editDeck, addCard]
      by_cases deckGone : (w.deck d).disposed
      · rw [if_pos deckGone]
        rfl
      · by_cases gone : (w.card c).disposed
        · rw [if_neg deckGone, if_pos gone]
          rfl
        · exact absurd ⟨Bool.eq_false_iff.2 deckGone, Bool.eq_false_iff.2 gone⟩ without
  | remove c =>
      have none_gone : ((w.deck d).entries.partition (·.card == c)).1 = [] := by
        rw [List.partition_eq_filter_filter]
        refine List.filter_eq_nil_iff.2 fun entry there here => without ?_
        exact List.mem_map.2 ⟨entry, there, eq_of_beq here⟩
      rw [editDeck, removeCard]
      dsimp only
      rw [none_gone]
      rfl
  | update c =>
      rw [editDeck, updateCard]
      by_cases deckGone : (w.deck d).disposed
      · rw [if_pos deckGone]
        rfl
      · by_cases gone : (w.card c).disposed
        · rw [if_neg deckGone, if_pos gone]
          rfl
        · have none : w.placeOf? d (w.card c).hash = none := by
            refine placeOf?_eq_none.2 fun old mem same => without ?_
            exact ⟨Bool.eq_false_iff.2 deckGone, Bool.eq_false_iff.2 gone, old, mem, same⟩
          rw [if_neg deckGone, if_neg gone]
          dsimp only
          rw [none]
          rfl
  | replace cards => exact absurd trivial without
  | shuffle => exact absurd trivial without
  | rebind s =>
      have gone : (w.deck d).disposed = true := Bool.eq_true_of_not_eq_false without
      rw [editDeck, rebindDeck, bindDeck, if_pos gone]
      rfl

/-! ## What is done before the push -/

/-- **An edit calls nobody** before the deck pushes. -/
lemma callsNobody_edited (effect : w.TakesEffect d edit) : w.CallsNobody (w.edited d edit) := by
  cases edit with
  | add c => exact callsNobody_insertCard effect.2 d
  | remove c => exact callsNobody_takeCard d c _ _ w
  | update c =>
      rw [edited]
      split
      · exact (callsNobody_replaceCard d c _ _ w).trans (callsNobody_note _ _)
      · exact .refl w
  | replace cards => exact callsNobody_replaceCards d cards w
  | shuffle => exact callsNobody_reorder d w
  | rebind s => exact callsNobody_attachDeck d s w

/-- **The list of cards is edited as it should be.** -/
lemma turns_edited (effect : w.TakesEffect d edit) :
    w.Turns edit (w.deck d).cards ((w.edited d edit).deck d).cards := by
  cases edit with
  | add c => exact (insertCard_deck effect.2).1
  | remove c =>
      rw [Turns, edited]
      dsimp only
      rw [takeCard_deck, List.partition_eq_filter_filter, DeckNode.cards, DeckNode.cards,
        List.filter_map]
      refine congrArg _ (List.filter_congr fun entry _ => ?_)
      rw [Bool.eq_iff_iff]
      simp
  | update c =>
      obtain ⟨-, -, old, mem, same⟩ := effect
      rw [Turns, edited]
      rcases found : w.placeOf? d (w.card c).hash with _ | ⟨index, entry⟩
      · exact absurd same (placeOf?_eq_none.1 found old mem)
      · obtain ⟨first, rest, entries, rfl, has, lacks⟩ := placeOf?_eq_some found
        refine ⟨first.map (·.card), entry.card, rest.map (·.card), ?_, ?_, has, ?_⟩
        · rw [DeckNode.cards, entries, List.map_append, List.map_cons]
        · dsimp only
          rw [deck_note, (replaceCard_deck d c _ entry w).1, DeckNode.cards, entries,
            List.map_append, List.map_cons]
          simp
        · intro other mem
          obtain ⟨entry, there, rfl⟩ := List.mem_map.1 mem
          exact lacks entry there
  | replace cards => exact (replaceCards_deck d cards w).1
  | shuffle =>
      rw [Turns, edited, reorder, deck_onDeck, if_pos rfl]
      exact (Random.shuffle_perm _ _).map _
  | rebind s => exact (bindingsOnly_attachDeck d s w).deckCards_eq d

/-- Where a deck is bound after an edit. -/
lemma deckState_edited (effect : w.TakesEffect d edit) :
    (w.edited d edit).deckState d = w.stateAfter d edit := by
  have callsNobody := callsNobody_edited effect
  cases edit with
  | add c => exact callsNobody.deckState_eq (insertCard_deck effect.2).2
  | remove c =>
      refine callsNobody.deckState_eq ?_
      rw [edited]
      dsimp only
      rw [takeCard_deck]
  | update c =>
      refine callsNobody.deckState_eq ?_
      rw [edited]
      split
      · rw [deck_note, (replaceCard_deck d c _ _ w).2]
      · rfl
  | replace cards => exact callsNobody.deckState_eq (replaceCards_deck d cards w).2
  | shuffle =>
      refine callsNobody.deckState_eq ?_
      rw [edited, reorder, deck_onDeck, if_pos rfl]
  | rebind s =>
      have attached := callsNobody_attachDeck d s w
      have alive : (w.attachDeck d s).stateAlive s = w.stateAlive s := by
        rw [stateAlive, stateAlive, attached.isRooted_eq, attached.isRooted_eq]
      have bound : ((w.attachDeck d s).deck d).binding.map (·.state) = some s :=
        (boundTo_deck_attachDeck d d s w).trans (if_pos rfl)
      rw [edited, deckState, bound, stateAfter, boundState, boundState, alive]

/-! ## What an edit comes to -/

/-- A deck whose available cards cannot be determined notifies nobody. -/
lemma OnlyCalls.pushDeck_of_error (fresh : w.Fresh) {fault : NodeFault}
    (state : w.deckState d = .error fault) (react : Reaction) (cause : Option Nat) :
    OnlyCalls [] w (w.pushDeck react d cause) := by
  rw [World.pushDeck]
  split
  · exact .refl fresh
  · have failed : w.availableCards d = (w, .error fault) := by
      rw [World.availableCards, state]
    rw [failed]
    exact .note fresh _

/-- A deck that has been edited pushes to listeners that only read. -/
lemma OnlyCallsSpending.pushDeck_edited (fresh : w.Fresh) (effect : w.TakesEffect d edit)
    (readers : ∀ entry ∈ w.deckEntries d, OnlyReads react w entry.2) :
    OnlyCallsSpending ((w.edited d edit).deckPushCalls d) (w.edited d edit)
      ((w.edited d edit).pushDeck react d none) := by
  have callsNobody := callsNobody_edited effect
  refine .pushDeck (callsNobody.fresh fresh) (fun entry mem => ?_) none
  rw [callsNobody.deckEntries_eq] at mem
  exact (readers entry mem).mono (usesUp_of_listeners callsNobody.table)

/-- A deck that has a card twice, which is bound elsewhere by now, and another card with the hash of
it.  One listener of the deck reads what is on offer when it is called, and one is there that has
nothing to run; the card has a listener of its own. -/
def sharedHash : List Step :=
  [.act (.state (.create "state")), .act (.state (.create "other")),
    .act (.card (.create "twice" "" ["true"] none .fresh)),
    .act (.card (.create "once" "" ["true"] none .fresh)),
    .act (.card (.create "new" "" ["true"] none (.of "twice"))),
    .act (.deck (.create "deck" ["twice", "once", "twice"] (some "state") .none)),
    .act (.node (.bind "twice" "other")),
    .subscribe "deck" "reader" [.act (.deck (.available "deck")), .act (.node (.isBound "new"))] 1,
    .subscribe "deck" "listener" [] 0, .subscribe "twice" "watcher" [] 0]

/-! ## Where the card that enters is bound -/

/-- A card that has not been disposed of is bound where a deck is, if it has its quality set. -/
lemma boundTo_card_bindWhere_of_usable {c : CardId} (usable : (w.card c).disposed = false)
    {s : StateId} (state : w.deckState d = .ok s) :
    (w.bindWhere d c).1.boundTo (.card c) = if w.HasItsSet c then some s else none := by
  rw [bindWhere_of_usable usable, state, ← boundTo_card_bindCard usable, bindCard_of_usable usable]

/-- **The card that enters a bound deck** is bound where the deck is, before listeners are notified,
unless its quality set has been disposed of. -/
lemma boundTo_card_edited {c : CardId} (enters : edit = .add c ∨ edit = .update c)
    (effect : w.TakesEffect d edit) {s : StateId} (state : w.deckState d = .ok s) :
    (w.edited d edit).boundTo (.card c) = if w.HasItsSet c then some s else none := by
  rcases enters with rfl | rfl
  · have usable := effect.2
    rw [edited, insertCard_of_usable usable, ← boundTo_card_bindWhere_of_usable usable state]
    exact boundTo_card_enterCard d c c _
  · obtain ⟨-, usable, old, mem, same⟩ := effect
    rw [edited]
    rcases found : w.placeOf? d (w.card c).hash with _ | ⟨index, entry⟩
    · exact absurd same (placeOf?_eq_none.1 found old mem)
    · dsimp only
      have works : Works d (fun _ => True) w (w.displaced d c index entry) :=
        works_displaced trivial index
      have has : (w.displaced d c index entry).HasItsSet c ↔ w.HasItsSet c := by
        rw [HasItsSet, HasItsSet, works.qualities, works.set]
      rw [boundTo_note, replaceCard_eq, boundTo_card_bindWhere_of_usable
        ((works.card c).trans usable) ((deckState_displaced d c index entry w).trans state)]
      simp only [has]

/-- **The card that enters a bound deck is bound where the deck is**, wherever a run passes through,
when all that listen to the deck only read.  The one exception is a card whose quality set has been
disposed of on its own: it stands in the deck, and is bound to nothing. -/
theorem boundTo_card_editDeck {look : Supervisor} (watches : look.Watches) {depth : Nat}
    {steps : List Step} (passes : Passes look depth steps w) {c : CardId}
    (enters : edit = .add c ∨ edit = .update c) (edits : w.editDeck react d edit = (v, true))
    {s : StateId} (state : w.deckState d = .ok s)
    (readers : ∀ entry ∈ w.deckEntries d, OnlyReads react w entry.2) :
    v.boundTo (.card c) = if w.HasItsSet c then some s else none := by
  by_cases effect : w.TakesEffect d edit
  · rw [editDeck_of_takesEffect effect] at edits
    obtain ⟨rfl, -⟩ := Prod.mk.inj edits
    have fresh := Fresh.invariant.of_passes watches passes
    have notified := OnlyCallsSpending.pushDeck_edited fresh effect readers
    rw [← boundTo_card_edited enters effect state, boundTo, boundTo, ← notified.card_eq]
  · rw [editDeck_of_not_takesEffect effect] at edits
    cases (Prod.mk.inj edits).2

end World

end StoryEngine
