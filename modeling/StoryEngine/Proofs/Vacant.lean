import StoryEngine.Proofs.Disposal
import StoryEngine.Proofs.Spent

/-!
# What has been disposed of is empty

A quality set and a deck give up all they have when they are disposed of, and hardly anything gets
in again.  A set refuses every condition.  A deck refuses every card that is added to it or is to
take the place of another one; but it takes whatever cards it is given in place of all of them.

* `World.Fades` — decks that have been disposed of gain no cards.
* **`World.fades_of_engineStep`** — what an engine step does to them: either that, or they are given
  cards.
* **`World.given_of_passes`** — in every run, the cards of a deck that has been disposed of were
  given to it after that.
* `Rule.retiring` — the rule that decks are not given cards any more.
* `World.Retired` — a set or a deck that has been disposed of, has nothing and is bound to nothing.
* **`World.retired_set_of_passes`** — in every run, quality sets that have been disposed of are so.
* **`World.retired_deck_of_passes`** — and decks are, in every run that keeps to the rule.
-/

namespace StoryEngine

namespace World

variable {w v u : World} {d : DeckId}

/-! ## Decks that fade -/

/-- **No deck that has been disposed of gains a card**, and none is disposed of with cards in it. -/
def Fades (w v : World) : Prop :=
  ∀ d, (v.deck d).disposed →
    (v.deck d).cards = [] ∨
      ((w.deck d).disposed ∧ ∀ c ∈ (v.deck d).cards, c ∈ (w.deck d).cards)

namespace Fades

lemma refl (w : World) : w.Fades w :=
  fun _ disposed => .inr ⟨disposed, fun _ => id⟩

lemma trans (h : w.Fades v) (h' : v.Fades u) : w.Fades u := by
  intro d disposed
  rcases h' d disposed with none | ⟨was, sub⟩
  · exact .inl none
  rcases h d was with none | ⟨before, sub'⟩
  · exact .inl (List.eq_nil_iff_forall_not_mem.2 fun c mem => by simpa [none] using sub c mem)
  · exact .inr ⟨before, fun c mem => sub' c (sub c mem)⟩

lemma of_decks (same : v.decks = w.decks) : w.Fades v := by
  intro d disposed
  rw [deck_of_decks same] at disposed ⊢
  exact .inr ⟨disposed, fun _ => id⟩

lemma bindingsOnly (only : w.BindingsOnly v) : w.Fades v := by
  intro d disposed
  rw [only.deck d] at disposed
  exact .inr ⟨disposed, fun c mem => only.deckCards_eq d ▸ mem⟩

/-- Work on one deck, which has to be seen to if it has been disposed of after it. -/
lemma on (d : DeckId) (others : ∀ d', d' ≠ d → v.deck d' = w.deck d')
    (its : (v.deck d).disposed →
      (v.deck d).cards = [] ∨
        ((w.deck d).disposed ∧ ∀ c ∈ (v.deck d).cards, c ∈ (w.deck d).cards)) :
    w.Fades v := by
  intro d' disposed
  by_cases here : d' = d
  · subst here
    exact its disposed
  · rw [others d' here] at disposed ⊢
    exact .inr ⟨disposed, fun _ => id⟩

lemma onDeck (d : DeckId) (w : World) {f : DeckNode → DeckNode}
    (ok : (f (w.deck d)).disposed → (f (w.deck d)).cards = [] ∨
      ((w.deck d).disposed ∧ ∀ c ∈ (f (w.deck d)).cards, c ∈ (w.deck d).cards)) :
    w.Fades (w.onDeck d f) := by
  refine .on d (fun d' ne => by rw [deck_onDeck, if_neg ne.symm]) fun disposed => ?_
  rw [deck_onDeck, if_pos rfl] at disposed ⊢
  exact ok disposed

/-- A change of a deck that keeps its cards. -/
lemma keepDeck (d : DeckId) (w : World) {f : DeckNode → DeckNode}
    (entries : ∀ n, (f n).entries = n.entries) (disposed : ∀ n, (f n).disposed = n.disposed) :
    w.Fades (w.onDeck d f) := by
  refine onDeck d w fun gone => .inr ⟨disposed _ ▸ gone, fun c mem => ?_⟩
  rwa [DeckNode.cards, entries] at mem

end Fades

/-! ## Engine steps -/

lemma fades_subscribeTo (em : Emitter) (l : ListenerId) (w : World) :
    w.Fades (w.subscribeTo em l).1 := by
  cases em with
  | deck d => exact .keepDeck d w (fun _ => rfl) fun _ => rfl
  | _ => exact .of_decks rfl

lemma fades_unsubscribeFrom (em : Emitter) (number : Nat) (w : World) :
    w.Fades (w.unsubscribeFrom em number) := by
  cases em with
  | deck d => exact .keepDeck d w (fun _ => rfl) fun _ => rfl
  | _ => exact .of_decks rfl

lemma fades_clearListeners (em : Emitter) (w : World) : w.Fades (w.clearListeners em) := by
  cases em with
  | deck d => exact .keepDeck d w (fun _ => rfl) fun _ => rfl
  | _ => exact .of_decks rfl

/-- **A deck is disposed of** without cards, for it gives them up first. -/
lemma fades_disposeDeck (d : DeckId) (w : World) : w.Fades (w.disposeDeck d) := by
  have disbanded : w.Fades ((w.unbindDeck d).disband d) :=
    (Fades.bindingsOnly (bindingsOnly_unbindDeck d w)).trans
      ((Fades.onDeck d _ fun _ => .inl rfl).trans (.of_decks (disband_decks d _)))
  have forgotten : w.Fades (((w.unbindDeck d).deck d).entries.foldl
      (fun w entry => w.forgetEntry entry) ((w.unbindDeck d).disband d)) :=
    disbanded.trans (.of_decks (foldl_decks forgetEntry_decks _ _))
  have none := (disposeDeck_deck d w).1
  rw [disposeDeck_eq] at none ⊢
  generalize List.foldl _ _ _ = u at forgotten none ⊢
  rw [deck_note, deck_onDeck, if_pos rfl] at none
  have ended : u.Fades
      (u.onDeck d fun n => { n with listeners := n.listeners.clear, disposed := true }) :=
    .onDeck d u fun _ => .inl none
  exact (forgotten.trans ended).trans (.of_decks rfl)

lemma fades_disposeNode (n : NodeId) (w : World) : w.Fades (w.disposeNode n) := by
  cases n with
  | expr e => exact .of_decks (sameSets_disposeExpr e w).decks
  | set q => exact .of_decks (sameCards_disposeSet q w).decks
  | card c => exact .of_decks (disposeCard_decks c w)
  | deck d => exact fades_disposeDeck d w

/-- A new deck has not been disposed of, whatever cards it has. -/
lemma fades_newDeck (config : DeckConfig) (cards : List CardId) (state : Option StateId)
    (w : World) : w.Fades (w.newDeck config cards state).1 := by
  have usable : (((w.emptyDeck config).enterCards ⟨w.decks.size⟩ cards).1.deck
      ⟨w.decks.size⟩).disposed = false := by
    rw [deck_of_decks (enterCards_decks _ cards _), emptyDeck, deck, Table.get_add, if_pos rfl]
    rfl
  have bare : w.Fades (w.bareDeck config cards) := by
    have made : Works ⟨w.decks.size⟩ (fun _ => True) w (w.bareDeck config cards) :=
      works_bareDeck config _ w
    refine .on ⟨w.decks.size⟩ made.others fun disposed => ?_
    rw [bareDeck, deck_onDeck, if_pos rfl, usable] at disposed
    cases disposed
  rw [newDeck_eq]
  cases state with
  | none => exact bare
  | some s => exact bare.trans (.bindingsOnly (bindingsOnly_attachDeck _ s _))

/-- **A deck is given cards in place of those it had**: none, if it has been disposed of. -/
lemma fades_replaceCards {cards : List CardId} (ok : (w.deck d).disposed → cards = []) :
    w.Fades (w.replaceCards d cards) := by
  refine .on d (fun d' ne => ?_) fun disposed => .inl ?_
  · rw [deck_replaceCards, if_neg ne.symm]
  · rw [deck_replaceCards, if_pos rfl] at disposed
    rw [(replaceCards_deck d cards w).1]
    exact ok disposed

/-- A card goes into a deck that has not been disposed of. -/
lemma fades_insertCard {c : CardId} (usable : (w.deck d).disposed = false)
    (cardUsable : (w.card c).disposed = false) : w.Fades (w.insertCard d c).1 := by
  have bound := bindWhere_decks d c w
  have entered : w.Fades
      (((w.bindWhere d c).1.note (.cardAdded ((w.bindWhere d c).1.card c).hash)).enterCard d c).1 :=
    .of_decks bound
  rw [insertCard_of_usable cardUsable]
  refine entered.trans (.onDeck d _ fun disposed => ?_)
  replace disposed : ((w.bindWhere d c).1.deck d).disposed := disposed
  rw [deck_of_decks bound, usable] at disposed
  cases disposed

lemma fades_takeCard (d : DeckId) (c : CardId) {gone kept : List Entry}
    (parts : (w.deck d).entries.partition (·.card == c) = (gone, kept)) :
    w.Fades (w.takeCard d c gone kept) := by
  have works : Works d (fun _ => True) w (w.takeCard d c gone kept) :=
    works_takeCard trivial gone kept
  rw [List.partition_eq_filter_filter] at parts
  obtain ⟨-, rfl⟩ := Prod.mk.inj parts
  refine .on d works.others fun disposed => ?_
  rw [takeCard_deck] at disposed ⊢
  refine .inr ⟨disposed, fun c mem => ?_⟩
  exact (List.filter_sublist.map _).subset mem

/-- A card takes a place in a deck that has not been disposed of. -/
lemma fades_replaceCard {c : CardId} (usable : (w.deck d).disposed = false) (index : Nat)
    (old : Entry) : w.Fades (w.replaceCard d c index old).1 := by
  have works : Works d (fun _ => True) w (w.displaced d c index old) :=
    works_displaced trivial index
  rw [replaceCard_eq]
  refine Fades.trans (.on d works.others fun disposed => ?_) (.of_decks (bindWhere_decks d c _))
  rw [displaced_deck, usable] at disposed
  cases disposed

lemma fades_reorder (d : DeckId) (w : World) : w.Fades (w.reorder d) := by
  refine .onDeck d w fun disposed => .inr ⟨disposed, fun c mem => ?_⟩
  exact (sameBindings_reorder d w).deckCards d c (by rwa [reorder, deck_onDeck, if_pos rfl])

/-- **What an engine step does to decks that have been disposed of**: they gain no cards, unless it
is that one of them is given cards in place of those it had. -/
theorem fades_of_engineStep {rule : Rule} (engineStep : EngineStep rule w v) :
    w.Fades v ∨ ∃ d cards, (w.deck d).disposed ∧ (∀ c ∈ cards, rule.enters w d c) ∧
      v = w.replaceCards d cards := by
  cases engineStep with
  | record event => exact .inl (.of_decks rfl)
  | roots names held => exact .inl (.of_decks rfl)
  | amend s contents => exact .inl (.of_decks (sameSets_amend s contents w).decks)
  | enter s => exact .inl (.of_decks rfl)
  | shut s names held => exact .inl (.of_decks (sameSets_shut s _).decks)
  | newState => exact .inl (.of_decks rfl)
  | newBoard => exact .inl (.of_decks rfl)
  | newExpr cond state => exact .inl (.of_decks (sameSets_newExpr cond state w).decks)
  | newSet conds state => exact .inl (.of_decks (newSet_decks conds state w))
  | newCard hash content conds state =>
      exact .inl (.of_decks (newCard_decks hash content conds state w))
  | newDeck config cards state =>
      exact .inl ((fades_newDeck config cards state w).trans (.of_decks rfl))
  | newListener em name program times =>
      exact .inl ((fades_subscribeTo em ⟨w.listeners.size⟩ w).trans (.of_decks rfl))
  | spend => exact .inl (.of_decks rfl)
  | unsubscribeFrom => exact .inl (fades_unsubscribeFrom _ _ w)
  | clearListeners em => exact .inl (fades_clearListeners em w)
  | readExpr e => exact .inl (.of_decks (cachesOnly_exprResult e w).decks)
  | readSet q => exact .inl (.of_decks (cachesOnly_setResult q w).decks)
  | invalidateExpr e => exact .inl (.of_decks rfl)
  | invalidateSet q => exact .inl (.of_decks rfl)
  | admitExpr => exact .inl (.of_decks rfl)
  | admitSet => exact .inl (.of_decks rfl)
  | admitCard => exact .inl (.of_decks rfl)
  | admitDeck d => exact .inl (.keepDeck d w (fun _ => rfl) fun _ => rfl)
  | bind n s => exact .inl (.bindingsOnly (bindingsOnly_bindNode n s w))
  | unbind n => exact .inl (.bindingsOnly (bindingsOnly_unbindNode n w))
  | dispose n => exact .inl (fades_disposeNode n w)
  | addQuality q cond => exact .inl (.of_decks (sameCards_addQuality q cond w).decks)
  | dropMember q _ m => exact .inl (.of_decks (sameCards_dropMember q m w).decks)
  | replaceQualities c conds => exact .inl (.of_decks (replaceQualities_decks c conds w))
  | setContent => exact .inl (.of_decks rfl)
  | replaceCards d cards _ _ enters =>
      by_cases disposed : (w.deck d).disposed
      · exact .inr ⟨d, cards, disposed, enters, rfl⟩
      · exact .inl (fades_replaceCards fun gone => absurd gone disposed)
  | insertCard d c _ _ usable cardUsable => exact .inl (fades_insertCard usable cardUsable)
  | takeCard d c gone kept _ _ parts => exact .inl (fades_takeCard d c parts)
  | replaceCard d c index old _ _ usable => exact .inl (fades_replaceCard usable index old)
  | reorder d => exact .inl (fades_reorder d w)
  | pick d cards => exact .inl (.keepDeck d w (fun _ => rfl) fun _ => rfl)

/-! ## Runs -/

/-- **The cards of a deck that has been disposed of were given to it after that**, in place of all
it had. -/
lemma Reached.given (reached : w.Reached) {c : CardId} (disposed : (w.deck d).disposed)
    (mem : c ∈ (w.deck d).cards) :
    ∃ (u : World) (cards : List CardId),
      u.Reached ∧ (u.deck d).disposed ∧ c ∈ cards ∧ (u.replaceCards d cards).Reaches w := by
  induction reached with
  | refl => cases mem
  | @engineStep v v' reached engineStep ih =>
      have later : ∀ {u : World}, u.Reaches v → u.Reaches v' := fun reaches =>
        reaches.engineStep engineStep
      rcases fades_of_engineStep engineStep with fades | ⟨other, cards, gone, -, rfl⟩
      · rcases fades d disposed with none | ⟨was, sub⟩
        · rw [none] at mem
          cases mem
        · obtain ⟨u, cards, before, gone, given, reaches⟩ := ih was (sub c mem)
          exact ⟨u, cards, before, gone, given, later reaches⟩
      · by_cases here : other = d
        · subst here
          rw [(replaceCards_deck other cards v).1] at mem
          exact ⟨v, cards, reached, gone, mem, .refl⟩
        · rw [deck_replaceCards, if_neg here] at disposed mem
          obtain ⟨u, cards, before, gone, given, reaches⟩ := ih disposed mem
          exact ⟨u, cards, before, gone, given, later reaches⟩
  | rewrite _ e cond ih =>
      obtain ⟨u, cards, before, gone, given, reaches⟩ := ih disposed mem
      exact ⟨u, cards, before, gone, given, reaches.rewrite e cond⟩

/-- **In every run, the cards of a deck that has been disposed of were given to it after that**, in
place of all it had. -/
theorem given_of_passes {look : Supervisor} (watches : look.Watches) {depth : Nat}
    {steps : List Step} (passes : Passes look depth steps w) (disposed : (w.deck d).disposed)
    {c : CardId} (mem : c ∈ (w.deck d).cards) :
    ∃ (u : World) (cards : List CardId),
      u.Reached ∧ (u.deck d).disposed ∧ c ∈ cards ∧ (u.replaceCards d cards).Reaches w :=
  (Reached.of_passes watches passes).given disposed mem

end World

/-! ## Runs that keep to the rule -/

/-- **The rule that a deck which has been disposed of is not given cards any more.** -/
def Rule.retiring : Rule where
  direct _ _ := True
  clears _ _ := True
  enters w d _ := (w.deck d).disposed = false
  deck _ _ := trivial
  direct_hold _ _ := trivial
  clears_hold _ _ := trivial
  enters_hold _ usable := usable

open World in
/-- **What the rule forbids** is one thing only, to put a card in place of all that a deck had which
has been disposed of. -/
lemma Rule.retiring_permits_iff {step : Step} {w : World} :
    Rule.retiring.permits step w ↔
      ∀ name cards, step = .act (.deck (.setCards name cards)) →
        ∀ d, w.Names name Handle.deck? d → (w.deck d).disposed →
          ∀ card ∈ cards, ∀ c, ¬ w.Names card Handle.card? c := by
  constructor
  · rintro permitted name cards rfl d named disposed card mem c isCard
    have usable : (w.deck d).disposed = false := permitted d named card mem c isCard
    rw [usable] at disposed
    cases disposed
  · intro spares
    unfold permits
    split
    · exact fun d _ usable _ _ => usable
    · exact fun d _ usable _ _ => usable
    · next noAdd noUpdate =>
        unfold allows
        split
        iterate 4 exact fun _ _ => trivial
        · -- a new deck has not been disposed of
          intro card _ c _
          show (w.decks.get w.decks.size).disposed = false
          rw [Table.get_of_size_le (Nat.le_refl _)]
          rfl
        · next name cards =>
            intro d named card mem c isCard
            refine Bool.eq_false_iff.2 fun disposed => ?_
            exact spares name cards rfl d named disposed card mem c isCard
        · exact absurd rfl (noAdd _ _)
        · exact absurd rfl (noUpdate _ _)
        · trivial

namespace World

variable {w v : World} {q : SetId} {d : DeckId}

/-- **No deck that has been disposed of has cards.** -/
def Vacant (w : World) : Prop :=
  ∀ d, (w.deck d).disposed → (w.deck d).cards = []

lemma Vacant.fades (h : w.Vacant) (fades : w.Fades v) : v.Vacant := by
  intro d disposed
  rcases fades d disposed with none | ⟨was, sub⟩
  · exact none
  · refine List.eq_nil_iff_forall_not_mem.2 fun c mem => ?_
    simpa [h d was] using sub c mem

/-- **Engine steps under the rule give no cards to such decks.** -/
theorem Vacant.engineStep (h : w.Vacant) (engineStep : EngineStep .retiring w v) : v.Vacant := by
  rcases fades_of_engineStep engineStep with fades | ⟨d, cards, disposed, enters, rfl⟩
  · exact h.fades fades
  · have none : cards = [] := by
      refine List.eq_nil_iff_forall_not_mem.2 fun c mem => ?_
      have usable : (w.deck d).disposed = false := enters c mem
      rw [usable] at disposed
      cases disposed
    exact h.fades (fades_replaceCards fun _ => none)

/-- So the engine gives them none. -/
theorem Vacant.kept :
    Preserved .retiring (fun w => w.Reached ∧ w.Vacant) fun _ w => w.Reached ∧ w.Vacant :=
  .of_engineSteps .engineStep fun _ _ h => h.fades (.of_decks rfl)

/-- **A quality set or a deck that is out of use**: it has been disposed of, has nothing and is
bound to nothing. -/
inductive Retired (w : World) : NodeId → Prop
  | set {q : SetId} (disposed : (w.set q).disposed) (empty : (w.set q).members = [])
      (unbound : (w.set q).binding = none) : Retired w (.set q)
  | deck {d : DeckId} (disposed : (w.deck d).disposed) (empty : (w.deck d).entries = [])
      (unbound : (w.deck d).binding = none) : Retired w (.deck d)

/-- What has been disposed of, and is no member of a set, is bound to nothing. -/
lemma Reached.unbound (reached : w.Reached) {n : NodeId} (disposed : w.isDisposed n)
    (noExpr : ∀ e, n ≠ .expr e) : w.boundTo n = none := by
  refine (reached.atRest n disposed).resolve_right ?_
  rintro ⟨e, -, isExpr, -⟩
  exact noExpr e isExpr

section
variable {look : Supervisor} {depth : Nat} {steps : List Step}
variable (passes : Passes look depth steps w)
include passes

/-- **In every run, quality sets that have been disposed of are out of use.** -/
theorem retired_set_of_passes (watches : look.Watches) (disposed : (w.set q).disposed) :
    w.Retired (.set q) := by
  have reached : w.Reached := .of_passes watches passes
  have unbound := reached.unbound (n := .set q) disposed nofun
  exact .set disposed (List.map_eq_nil_iff.1 (reached.spent.emptied q disposed))
    (Option.map_eq_none_iff.1 unbound)

/-- **In every run that keeps to the rule, decks that have been disposed of are out of use.** -/
theorem retired_deck_of_passes (obeys : look.Obeys Rule.retiring.permits)
    (disposed : (w.deck d).disposed) : w.Retired (.deck d) := by
  obtain ⟨reached, vacant⟩ := Vacant.kept.of_permitted ⟨.refl, nofun⟩ obeys passes
  have unbound := reached.unbound (n := .deck d) disposed nofun
  exact .deck disposed (List.map_eq_nil_iff.1 (vacant d disposed))
    (Option.map_eq_none_iff.1 unbound)

end

end World

end StoryEngine
