import StoryEngine.Proofs.Conserved.Naming

/-!
# Who keeps what is theirs

An owner that is not disposed of keeps what it owned, together with the number that it was given for
it.  What it gains is new.

* `World.Spares` — all owners but some keep what was theirs, and those are left with nothing.
* `World.spares_disposeNode` — owners lose everything along with the node that is disposed of only.
* `World.Gains` — whatever owners have gained is new.
* `World.Owned.newSet`, `World.Owned.newCard`, `World.Owned.replaceQualities` — what is new belongs
  to one owner.
-/

namespace StoryEngine

/-- What a card has to do with its quality set, and whether it was disposed of. -/
def CardNode.tenure (n : CardNode) : SetId × Nat × Bool :=
  (n.qualities, n.number, n.disposed)

namespace World

variable {gone gone' : List NodeId} {w v u : World}

/-! ## Sparing all owners but some -/

/-- **All owners that are not disposed of keep what was theirs.**  A quality set that is disposed of
has no members any more, and a card that is disposed of still has the set that it had. -/
structure Spares (gone : List NodeId) (w v : World) : Prop where
  members : ∀ q, (v.set q).members = if .set q ∈ gone then [] else (w.set q).members
  tenure : ∀ c, (v.card c).tenure =
    if .card c ∈ gone then ((w.card c).qualities, (w.card c).number, true) else (w.card c).tenure

lemma spares_of_same (members : ∀ q, (v.set q).members = (w.set q).members)
    (tenure : ∀ c, (v.card c).tenure = (w.card c).tenure) : Spares [] w v :=
  ⟨fun q => (members q).trans (if_neg List.not_mem_nil).symm,
    fun c => (tenure c).trans (if_neg List.not_mem_nil).symm⟩

lemma Spares.refl (w : World) : Spares [] w w :=
  spares_of_same (fun _ => rfl) fun _ => rfl

lemma Spares.members_eq (h : Spares [] w v) (q : SetId) :
    (v.set q).members = (w.set q).members :=
  (h.members q).trans (if_neg List.not_mem_nil)

lemma Spares.tenure_eq (h : Spares [] w v) (c : CardId) : (v.card c).tenure = (w.card c).tenure :=
  (h.tenure c).trans (if_neg List.not_mem_nil)

/-- A card that is disposed of still has the set that it had. -/
lemma Spares.qualities (h : Spares gone w v) (c : CardId) :
    (v.card c).qualities = (w.card c).qualities ∧ (v.card c).number = (w.card c).number := by
  have tenure := h.tenure c
  split at tenure
  all_goals
    obtain ⟨qualities, rest⟩ := Prod.mk.inj tenure
    exact ⟨qualities, (Prod.mk.inj rest).1⟩

lemma Spares.trans (h : Spares gone w v) (h' : Spares gone' v u) : Spares (gone ++ gone') w u where
  members q := by
    rw [h'.members, h.members]
    by_cases early : .set q ∈ gone <;> by_cases late : .set q ∈ gone' <;> simp [early, late]
  tenure c := by
    obtain ⟨qualities, number⟩ := h.qualities c
    rw [h'.tenure, h.tenure, qualities, number]
    by_cases early : .card c ∈ gone <;> by_cases late : .card c ∈ gone' <;> simp [early, late]

/-- First some work in which every owner is spared. -/
lemma Spares.before (h : Spares [] w v) (h' : Spares gone v u) : Spares gone w u :=
  h.trans h'

/-- Then some work in which every owner is spared. -/
lemma Spares.after (h : Spares gone w v) (h' : Spares [] v u) : Spares gone w u := by
  have both := h.trans h'
  rwa [List.append_nil] at both

/-- It is only quality sets and cards that own something for good. -/
lemma Spares.congr (h : Spares gone w v) (sets : ∀ q, NodeId.set q ∈ gone ↔ .set q ∈ gone')
    (cards : ∀ c, NodeId.card c ∈ gone ↔ .card c ∈ gone') : Spares gone' w v where
  members q := by
    rw [h.members]
    simp only [sets]
  tenure c := by
    rw [h.tenure]
    simp only [cards]

lemma Spares.foldl {β : Type} {step : World → β → World} (h : ∀ w b, Spares [] w (step w b))
    (bs : List β) (w : World) : Spares [] w (bs.foldl step w) := by
  induction bs generalizing w with
  | nil => exact .refl w
  | cons b bs ih => exact (h w b).before (ih _)

lemma BindingsOnly.spares (h : w.BindingsOnly v) : Spares [] w v := by
  refine spares_of_same h.setMembers_eq fun c => ?_
  rw [h.card]
  rfl

lemma Still.spares (h : w.Still v) : Spares [] w v :=
  spares_of_same (fun q => congrArg Prod.fst (h.set q)) fun c =>
    congrArg (fun ties => (ties.1, ties.2.1, ties.2.2.2)) (h.card c)

lemma spares_onExpr (e : ExprId) (f : ExprNode → ExprNode) (w : World) :
    Spares [] w (w.onExpr e f) :=
  spares_of_same (fun _ => rfl) fun _ => rfl

lemma spares_onDeck (d : DeckId) (f : DeckNode → DeckNode) (w : World) :
    Spares [] w (w.onDeck d f) :=
  spares_of_same (fun _ => rfl) fun _ => rfl

lemma spares_onSet (q : SetId) {f : SetNode → SetNode} (same : ∀ n, (f n).members = n.members) :
    Spares [] w (w.onSet q f) := by
  refine spares_of_same (fun other => ?_) fun _ => rfl
  rw [set_onSet]
  split
  · exact same _
  · rfl

lemma spares_onCard (c : CardId) {f : CardNode → CardNode} (same : ∀ n, (f n).tenure = n.tenure) :
    Spares [] w (w.onCard c f) := by
  refine spares_of_same (fun _ => rfl) fun other => ?_
  rw [card_onCard]
  split
  · exact same _
  · rfl

lemma spares_unsubscribeFrom (em : Emitter) (k : Nat) (w : World) :
    Spares [] w (w.unsubscribeFrom em k) := by
  cases em with
  | state s => exact spares_of_same (fun _ => rfl) fun _ => rfl
  | expr e => exact spares_onExpr e _ w
  | set q => exact spares_onSet q fun _ => rfl
  | card c => exact spares_onCard c fun _ => rfl
  | deck d => exact spares_onDeck d _ w
  | board b => exact spares_of_same (fun _ => rfl) fun _ => rfl

lemma spares_dropSubscription (o : Option Object) (w : World) :
    Spares [] w (w.dropSubscription o) := by
  unfold dropSubscription
  split
  · exact spares_unsubscribeFrom _ _ w
  · exact .refl w

lemma spares_forgetEntries (entries : List Entry) (w : World) :
    Spares [] w (entries.foldl (fun w entry => w.forgetEntry entry) w) :=
  Spares.foldl (fun w (entry : Entry) => spares_unsubscribeFrom (.card entry.card) entry.number w)
    entries w

lemma spares_forgetMembers (ms : List Member) (w : World) :
    Spares [] w (ms.foldl (fun w m => w.forgetMember m) w) :=
  Spares.foldl (fun w (m : Member) => spares_unsubscribeFrom (.expr m.expr) m.number w) ms w

lemma spares_subscribeTo (em : Emitter) (l : ListenerId) (w : World) :
    Spares [] w (w.subscribeTo em l).1 := by
  cases em with
  | state s => exact spares_of_same (fun _ => rfl) fun _ => rfl
  | expr e => exact spares_onExpr e _ w
  | set q => exact spares_onSet q fun _ => rfl
  | card c => exact spares_onCard c fun _ => rfl
  | deck d => exact spares_onDeck d _ w
  | board b => exact spares_of_same (fun _ => rfl) fun _ => rfl

/-! ### What is disposed of -/

lemma spares_disposeExpr (e : ExprId) (w : World) : Spares [] w (w.disposeExpr e) :=
  (bindingsOnly_unbindExpr e w).spares.before (spares_onExpr e _ _)

lemma spares_disposeSet (q : SetId) (w : World) : Spares [.set q] w (w.disposeSet q) := by
  have emptied : ∀ w : World, Spares [.set q] w (w.onSet q fun n => { n with members := [] }) := by
    refine fun w => ⟨fun other => ?_, fun c => ?_⟩
    · rw [set_onSet]
      by_cases here : q = other
      · simp [here]
      · simp [here, Ne.symm here]
    · simp only [List.mem_singleton, reduceCtorEq, if_false]
      rfl
  have disposed := ((bindingsOnly_unbindSet q w).spares.before (emptied _)).after <|
    Spares.foldl (fun w (m : Member) => spares_disposeExpr m.expr w)
      ((w.unbindSet q).set q).members _
  have forgot := disposed.after (spares_forgetMembers ((w.unbindSet q).set q).members _)
  exact forgot.after (spares_onSet q fun _ => rfl)

lemma spares_disposeCard (c : CardId) (w : World) :
    Spares [.set (w.card c).qualities, .card c] w (w.disposeCard c) := by
  have only := bindingsOnly_unbindCard c w
  have closed : ∀ w : World, Spares [.card c] w (w.onCard c fun n =>
      { n with listeners := n.listeners.clear, disposed := true }) := by
    refine fun w => ⟨fun q => ?_, fun other => ?_⟩
    · simp only [List.mem_singleton, reduceCtorEq, if_false]
      rfl
    · rw [card_onCard]
      by_cases here : c = other
      · simp [here, CardNode.tenure]
      · simp [here, Ne.symm here]
  have disposed := only.spares.before (spares_disposeSet ((w.unbindCard c).card c).qualities _)
  rw [← only.qualities_eq c]
  exact disposed.trans (closed _)

lemma spares_disposeCards (entries : List Entry) (w : World) :
    Spares ((entries.map (·.card)).flatMap fun c => [.set (w.card c).qualities, .card c]) w
      (entries.foldl (fun w entry => w.disposeCard entry.card) w) := by
  induction entries generalizing w with
  | nil => exact .refl w
  | cons entry entries ih =>
      have first := spares_disposeCard entry.card w
      have others := ih (w.disposeCard entry.card)
      simp only [(first.qualities _).1] at others
      rw [List.foldl_cons, List.map_cons, List.flatMap_cons]
      exact first.trans others

lemma spares_disposeDeck (d : DeckId) (w : World) :
    Spares ((w.deck d).cards.flatMap fun c => [.set (w.card c).qualities, .card c]) w
      (w.disposeDeck d) := by
  have only := bindingsOnly_unbindDeck d w
  have cards : ((w.unbindDeck d).deck d).entries.map (·.card) = (w.deck d).cards :=
    only.deckCards_eq d
  have qualities : ∀ c, (((w.unbindDeck d).onDeck d fun n => { n with entries := [] }).card
      c).qualities = (w.card c).qualities := only.qualities_eq
  have disposed :=
    (only.spares.before (spares_onDeck d (fun n => { n with entries := [] }) _)).before
    (spares_disposeCards ((w.unbindDeck d).deck d).entries _)
  rw [cards] at disposed
  simp only [qualities] at disposed
  have forgot := disposed.after (spares_forgetEntries ((w.unbindDeck d).deck d).entries _)
  exact (forgot.after (spares_onDeck d _ _)).after (bindingsOnly_note .deckDisposed _).spares

/-- **Nobody loses anything but what is disposed of** along with a node. -/
theorem spares_disposeNode (n : NodeId) (w : World) :
    Spares (w.disposedWith n) w (w.disposeNode n) := by
  cases n with
  | expr e => exact (spares_disposeExpr e w).congr (by simp [disposedWith]) (by simp [disposedWith])
  | set q =>
      refine (spares_disposeSet q w).congr ?_ ?_
      all_goals simp [disposedWith, setAndMembers]
  | card c =>
      refine (spares_disposeCard c w).congr ?_ ?_
      all_goals simp [disposedWith, cardAndQualities, setAndMembers]
  | deck d =>
      refine (spares_disposeDeck d w).congr ?_ ?_
      all_goals simp [disposedWith, cardAndQualities, setAndMembers]

/-! ### Decks -/

lemma spares_enterCard (d : DeckId) (c : CardId) (w : World) : Spares [] w (w.enterCard d c).1 :=
  spares_onCard c fun _ => rfl

lemma spares_enterCards (d : DeckId) (cards : List CardId) (w : World) :
    Spares [] w (w.enterCards d cards).1 := by
  induction cards generalizing w with
  | nil => exact .refl w
  | cons c cards ih => exact (spares_enterCard d c w).before (ih _)

lemma spares_newDeck (config : DeckConfig) (cards : List CardId) (state : Option StateId)
    (w : World) : Spares [] w (w.newDeck config cards state).1 := by
  have bare : Spares [] w (w.bareDeck config cards) := by
    have empty : Spares [] w (w.emptyDeck config) := spares_of_same (fun _ => rfl) fun _ => rfl
    exact (empty.before (spares_enterCards _ cards _)).before (spares_onDeck _ _ _)
  rw [newDeck_eq]
  cases state with
  | none => exact bare
  | some s => exact bare.before (bindingsOnly_attachDeck _ s _).spares

lemma spares_replaceCards (d : DeckId) (cards : List CardId) (w : World) :
    Spares [] w (w.replaceCards d cards) := by
  have cleared : Spares [] w (w.clearCards d) := by
    have unbound := Spares.foldl (fun w (entry : Entry) =>
      (bindingsOnly_unbindCard entry.card w).spares) (w.deck d).entries
        (w.onDeck d fun n => { n with entries := [] })
    exact ((spares_onDeck d _ w).before unbound).before (spares_forgetEntries _ _)
  have entered := cleared.before (spares_enterCards d cards _)
  have bound := entered.before (bindingsOnly_bindCardsWhere d cards _).spares
  exact (bound.before (bindingsOnly_note _ _).spares).before (spares_onDeck d _ _)

lemma spares_insertCard (d : DeckId) (c : CardId) (w : World) :
    Spares [] w (w.insertCard d c).1 := by
  have bound := (bindingsOnly_bindWhere d c w).spares
  unfold insertCard
  rcases done : w.bindWhere d c with ⟨v, fault | _⟩
  all_goals rw [done] at bound
  · exact bound
  · exact ((bound.before (bindingsOnly_note _ v).spares).before (spares_enterCard d c _)).before
      (spares_onDeck d _ _)

lemma spares_takeCard (d : DeckId) (c : CardId) (gone kept : List Entry) (w : World) :
    Spares [] w (w.takeCard d c gone kept) := by
  have out := (spares_onDeck d (fun n => { n with entries := kept }) w).before
    (bindingsOnly_unbindCard c _).spares
  exact (out.before (spares_forgetEntries gone _)).before (bindingsOnly_note _ _).spares

lemma spares_replaceCard (d : DeckId) (c : CardId) (index : Nat) (old : Entry) (w : World) :
    Spares [] w (w.replaceCard d c index old).1 := by
  have placed := (spares_enterCard d c w).before <| spares_onDeck d (fun n =>
    { n with entries := n.entries.set index (w.enterCard d c).2 }) _
  have released := placed.before (bindingsOnly_unbindCard old.card _).spares
  have forgot := released.before (spares_unsubscribeFrom (.card old.card) old.number _)
  exact forgot.before (bindingsOnly_bindWhere d c _).spares

/-! ## Gaining what is new -/

/-- **Owners have gained nothing but what is new.**  A card that has a new quality set can be
used. -/
structure Gains (w v : World) : Prop where
  members : ∀ q, ∀ m ∈ (v.set q).members, m ∈ (w.set q).members ∨ w.exprs.size ≤ m.expr.place
  tenure : ∀ c, (v.card c).tenure = (w.card c).tenure ∨
    (v.card c).disposed = false ∧ w.sets.size ≤ (v.card c).qualities.place
  exprs : w.exprs.size ≤ v.exprs.size
  sets : w.sets.size ≤ v.sets.size

lemma Spares.gains (h : Spares [] w v) (exprs : w.exprs.size ≤ v.exprs.size)
    (sets : w.sets.size ≤ v.sets.size) : Gains w v where
  members q _ mem := .inl (h.members_eq q ▸ mem)
  tenure c := .inl (h.tenure_eq c)
  exprs := exprs
  sets := sets

lemma Gains.trans (h : Gains w v) (h' : Gains v u) : Gains w u where
  members q m mem := by
    rcases h'.members q m mem with was | new
    · exact h.members q m was
    · exact .inr (Nat.le_trans h.exprs new)
  tenure c := by
    rcases h'.tenure c with same | ⟨usable, new⟩
    · obtain ⟨qualities, rest⟩ := Prod.mk.inj same
      rw [same, qualities, (Prod.mk.inj rest).2]
      exact h.tenure c
    · exact .inr ⟨usable, Nat.le_trans h.sets new⟩
  exprs := Nat.le_trans h.exprs h'.exprs
  sets := Nat.le_trans h.sets h'.sets

lemma Gains.foldl {β : Type} {step : World → β → World} (h : ∀ w b, Gains w (step w b))
    (bs : List β) (w : World) : Gains w (bs.foldl step w) := by
  induction bs generalizing w with
  | nil => exact (Spares.refl w).gains (Nat.le_refl _) (Nat.le_refl _)
  | cons b bs ih => exact (h w b).trans (ih _)

lemma BindingsOnly.gains (h : w.BindingsOnly v) : Gains w v :=
  h.spares.gains h.exprs h.sets

lemma gains_newExpr (cond : String) (state : Option StateId) (w : World) :
    Gains w (w.newExpr cond state).1 := by
  have tight : w.Tighter (fun _ => False) (w.newExpr cond state).1 := tighter_newExpr cond state w
  refine Spares.gains ?_ tight.exprs tight.sets
  have added : Spares [] w { w with exprs := w.exprs.add (.new cond) } :=
    spares_of_same (fun _ => rfl) fun _ => rfl
  exact added.before (bindingsOnly_newExpr cond state w).spares

lemma gains_insertQuality (q : SetId) (cond : String) (w : World) :
    Gains w (w.insertQuality q cond).1 := by
  by_cases has : w.hasQuality q cond
  · rw [insertQuality_of_has has]
    exact (Spares.refl w).gains (Nat.le_refl _) (Nat.le_refl _)
  · rw [insertQuality_of_lacks (by simpa using has)]
    have wide : w.Wider (fun _ => False) (w.insertQuality q cond).1 := wider_insertQuality q cond w
    rw [insertQuality_of_lacks (by simpa using has)] at wide
    have made := gains_newExpr cond (w.setState q).toOption w
    refine ⟨fun other m mem => ?_, fun c => made.tenure c, wide.exprs, wide.sets⟩
    rw [set_onSet] at mem
    split at mem
    · rcases List.mem_append.1 mem with old | new
      · exact made.members other m old
      · rw [List.mem_singleton.1 new]
        exact .inr (Nat.le_refl _)
    · exact made.members other m mem

lemma gains_newSet (conds : List String) (state : Option StateId) (w : World) :
    Gains w (w.newSet conds state).1 := by
  have added : Gains w { w with sets := w.sets.add .new } := by
    have tight : w.Tighter (fun _ => False) { w with sets := w.sets.add .new } := tighter_addSet w
    refine Spares.gains (spares_of_same (fun q => ?_) fun _ => rfl) tight.exprs tight.sets
    rw [set_addSet]
  refine Gains.trans ?_ (Gains.foldl (fun w cond => gains_insertQuality _ cond w) conds _)
  cases state with
  | none => exact added
  | some s => exact added.trans (bindingsOnly_attachSet _ s _).gains

lemma gains_subscribeSet (q : SetId) (c : CardId) (w : World) : Gains w (w.subscribeSet q c).1 := by
  have spared : Spares [] w (w.subscribeSet q c).1 := spares_onSet q fun _ => rfl
  exact spared.gains (Nat.le_refl _) (Table.size_le_modify _ _ _)

lemma gains_newCard (hash : CardHash) (content : String) (conds : List String)
    (state : Option StateId) (w : World) : Gains w (w.newCard hash content conds state).1 := by
  refine Gains.trans ?_ (bindingsOnly_newCard hash content conds state w).gains
  have listening := (gains_newSet conds none w).trans
    (gains_subscribeSet ⟨w.sets.size⟩ ⟨w.cards.size⟩ _)
  refine { listening with tenure := fun c => ?_ }
  rw [bareCard, card, Table.get_add]
  split
  · exact .inr ⟨rfl, Nat.le_refl _⟩
  · exact .inl rfl

/-! ## Who owns what is new -/

section
variable {live : Handle → Prop}

lemma Owned.insertQuality (h : w.Owned live) (q : SetId) (cond : String) :
    (w.insertQuality q cond).1.Owned live := by
  by_cases has : w.hasQuality q cond
  · rwa [insertQuality_of_has has]
  · rw [insertQuality_of_lacks (by simpa using has)]
    have same := sameSets_newExpr cond (w.setState q).toOption w
    have made := h.tighten (tighter_newExpr cond (w.setState q).toOption w)
    refine (made.tighten (tighter_onExpr ⟨w.exprs.size⟩ _)).append ?_ fun other mem => ?_
    · exact Nat.lt_of_lt_of_le (newExpr_bound cond _ w) (Table.size_le_modify _ _ _)
    · have mem : (⟨w.exprs.size⟩ : ExprId) ∈
          (w.newExpr cond (w.setState q).toOption).1.members other := mem
      rw [same.members_eq] at mem
      exact absurd (h.member mem) (Nat.lt_irrefl _)

lemma Owned.insertAll (h : w.Owned live) (q : SetId) (conds : List String) :
    (conds.foldl (fun w cond => (w.insertQuality q cond).1) w).Owned live := by
  induction conds generalizing w with
  | nil => exact h
  | cons cond conds ih => exact ih (h.insertQuality q cond)

lemma Owned.newSet (h : w.Owned live) (conds : List String) (state : Option StateId) :
    (w.newSet conds state).1.Owned live := by
  have added := h.tighten (tighter_addSet w)
  refine Owned.insertAll ?_ ⟨w.sets.size⟩ conds
  cases state with
  | none => exact added
  | some s => exact added.tighten (bindingsOnly_attachSet _ s _).tighter

lemma Owned.newCard (h : w.Owned live) (bounded : ∀ c, live (.card c) → c.place < w.cards.size)
    (hash : CardHash) (content : String) (conds : List String) (state : Option StateId) :
    (w.newCard hash content conds state).1.Owned
      fun x => live x ∨ x = .card ⟨w.cards.size⟩ := by
  refine Owned.tighten ?_ (bindingsOnly_newCard hash content conds state w).tighter
  have made := (h.newSet conds none).tighten (tighter_subscribeSet ⟨w.sets.size⟩ ⟨w.cards.size⟩ _)
  have cards : ((w.newSet conds none).1.subscribeSet ⟨w.sets.size⟩ ⟨w.cards.size⟩).1.cards =
      w.cards := newSet_cards conds w
  have added := made.addCard ⟨hash, content, ⟨w.sets.size⟩,
    ((w.newSet conds none).1.set ⟨w.sets.size⟩).listeners.next, none, .fresh, .empty, false⟩
    (fun c hc => cards ▸ bounded c hc) ?_ ?_
  · rw [cards] at added
    exact added
  · exact Nat.lt_of_lt_of_le (newSet_bound conds w) (Table.size_le_modify _ _ _)
  · intro c hc eq
    have same : ((w.newSet conds none).1.card c).qualities = ⟨w.sets.size⟩ := eq
    rw [card, newSet_cards] at same
    exact absurd (congrArg SetId.place same) (Nat.ne_of_lt (h.quality hc))

lemma Owned.withNewSet (h : w.Owned live) (c : CardId) (conds : List String) :
    (w.withNewSet c conds).Owned live :=
  (h.newSet conds none).tighten (bindingsOnly_bindSetWhere c _ _).tighter

lemma Owned.replaceQualities (h : w.Owned live) (c : CardId) (conds : List String) :
    (w.replaceQualities c conds).1.Owned live := by
  obtain ⟨cards, -, -⟩ := withNewSet_spares c conds w
  have made := h.withNewSet c conds
  rw [replaceQualities_eq]
  refine (made.turnTo (c := c) (q := ⟨w.sets.size⟩) ?_ fun c' hc' eq => ?_).tighten
    (tighter_exchangeSet c _ _)
  · exact Nat.lt_of_lt_of_le (newSet_bound conds w) (bindingsOnly_bindSetWhere c _ _).sets
  · rw [card, cards] at eq
    exact absurd (congrArg SetId.place eq) (Nat.ne_of_lt (h.quality hc'))

end

end World

end StoryEngine
