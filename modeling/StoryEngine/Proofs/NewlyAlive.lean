import StoryEngine.Proofs.Owned

/-!
# What comes alive

Nothing that was left behind can be got hold of again.  Whatever is alive after an engine step was
alive before it, or did not exist before it.

* `World.Unmade` — what does not exist yet.
* `World.Wider` — a world in which owners have gained nothing but what is new.
* **`World.Wider.alive`** — what is alive in such a world.
-/

namespace StoryEngine.World

/-- **What does not exist yet**, cards apart. -/
def Unmade (w : World) : Handle → Prop
  | .state s => w.stores.size ≤ s.place
  | .batch s => w.stores.size ≤ s.place
  | .expr e => w.exprs.size ≤ e.place
  | .set q => w.sets.size ≤ q.place
  | .card _ => False
  | .deck d => w.decks.size ≤ d.place
  | .board b => w.boards.size ≤ b.place

/-! ## Gaining what is new -/

/-- **A world in which sets gained new members only, and cards new sets only.**  Decks may have
gained some cards. -/
structure Wider (gained : CardId → Prop) (w w' : World) : Prop where
  members : ∀ q, ∀ e ∈ w'.members q, e ∈ w.members q ∨ w.exprs.size ≤ e.place
  qualities : ∀ c : CardId, c.place < w.cards.size →
    (w'.card c).qualities = (w.card c).qualities ∨ w.sets.size ≤ (w'.card c).qualities.place
  deckCards : ∀ d, ∀ c ∈ (w'.deck d).cards, c ∈ (w.deck d).cards ∨ gained c
  exprs : w.exprs.size ≤ w'.exprs.size
  sets : w.sets.size ≤ w'.sets.size
  cards : w.cards.size ≤ w'.cards.size

variable {gained : CardId → Prop}

lemma Tighter.wider {w w' : World} (t : w.Tighter gained w') : w.Wider gained w' :=
  { t with
    members := fun _ _ mem => .inl ((t.members _).subset mem)
    qualities := fun c _ => .inl (t.qualities c) }

lemma Wider.trans {w w' w'' : World} (h : w.Wider gained w') (h' : w'.Wider gained w'') :
    w.Wider gained w'' where
  members q e mem := by
    rcases h'.members q e mem with mem | new
    · exact h.members q e mem
    · exact .inr (Nat.le_trans h.exprs new)
  qualities c bound := by
    rcases h'.qualities c (Nat.lt_of_lt_of_le bound h.cards) with same | new
    · rw [same]
      exact h.qualities c bound
    · exact .inr (Nat.le_trans h.sets new)
  deckCards d c mem := (h'.deckCards d c mem).elim (h.deckCards d c) .inr
  exprs := Nat.le_trans h.exprs h'.exprs
  sets := Nat.le_trans h.sets h'.sets
  cards := Nat.le_trans h.cards h'.cards

lemma Wider.foldl {β : Type} {step : World → β → World}
    (h : ∀ (w : World) b, w.Wider gained (step w b)) (bs : List β) (w : World) :
    w.Wider gained (bs.foldl step w) := by
  induction bs generalizing w with
  | nil => exact (Tighter.refl w).wider
  | cons b bs ih => exact (h w b).trans (ih _)

lemma wider_insertQuality (q : SetId) (cond : String) (w : World) :
    w.Wider gained (w.insertQuality q cond).1 := by
  by_cases has : w.hasQuality q cond
  · rw [insertQuality_of_has has]
    exact (Tighter.refl w).wider
  · rw [insertQuality_of_lacks (by simpa using has)]
    have made := (tighter_newExpr cond (w.setState q).toOption w : w.Tighter gained _)
    have listening := made.trans (tighter_onExpr (⟨w.exprs.size⟩ : ExprId) fun n =>
      { n with listeners := n.listeners.subscribe (.owner q) })
    refine { listening.wider with members := ?_, sets := ?_ }
    · intro other e mem
      rw [members_append] at mem
      split at mem
      · rcases List.mem_append.1 mem with old | new
        · exact listening.wider.members other e old
        · rw [List.mem_singleton.1 new]
          exact .inr (Nat.le_refl _)
      · exact listening.wider.members other e mem
    · exact Nat.le_trans made.sets (Table.size_le_modify _ _ _)

lemma wider_newSet (conds : List String) (state : Option StateId) (w : World) :
    w.Wider gained (w.newSet conds state).1 := by
  refine Wider.trans ?_ (Wider.foldl (fun w cond => wider_insertQuality _ cond w) conds _)
  cases state with
  | none => exact (tighter_addSet w).wider
  | some s => exact ((tighter_addSet w).trans (bindingsOnly_attachSet _ s _).tighter).wider

lemma wider_bareCard (hash : CardHash) (content : String) (conds : List String) (w : World) :
    w.Wider gained (w.bareCard hash content conds) := by
  have listening : w.Wider gained _ := (wider_newSet conds none w).trans
    (tighter_subscribeSet ⟨w.sets.size⟩ ⟨w.cards.size⟩ _).wider
  refine { listening with qualities := ?_, cards := ?_ }
  · intro c bound
    rw [bareCard, card, Table.get_add, if_neg (Nat.ne_of_lt bound)]
    exact .inl rfl
  · rw [bareCard, Table.size_add]
    exact Nat.le_succ _

lemma newCard_qualities (hash : CardHash) (content : String) (conds : List String)
    (state : Option StateId) (w : World) :
    ((w.newCard hash content conds state).1.card ⟨w.cards.size⟩).qualities = ⟨w.sets.size⟩ := by
  rw [(bindingsOnly_newCard hash content conds state w).qualities_eq, bareCard, card, Table.get_add,
    if_pos rfl]

lemma newExpr_id (cond : String) (state : Option StateId) (w : World) :
    (w.newExpr cond state).2 = ⟨w.exprs.size⟩ := by
  cases state <;> rfl

lemma newDeck_id (config : DeckConfig) (cards : List CardId) (state : Option StateId) (w : World) :
    (w.newDeck config cards state).2 = ⟨w.decks.size⟩ := by
  cases state <;> rfl

lemma newCard_id (hash : CardHash) (content : String) (conds : List String) (state : Option StateId)
    (w : World) : (w.newCard hash content conds state).2 = ⟨w.cards.size⟩ := by
  rw [← newSet_cards conds w]
  cases state <;> rfl

lemma wider_newCard (hash : CardHash) (content : String) (conds : List String)
    (state : Option StateId) (w : World) :
    w.Wider gained (w.newCard hash content conds state).1 :=
  (wider_bareCard hash content conds w).trans
    (bindingsOnly_newCard hash content conds state w).tighter.wider

lemma newCard_bound (hash : CardHash) (content : String) (conds : List String)
    (state : Option StateId) (w : World) :
    w.cards.size < (w.newCard hash content conds state).1.cards.size := by
  have grown := (bindingsOnly_newCard hash content conds state w).cards
  rw [bareCard, Table.size_add] at grown
  exact grown

lemma wider_exchangeSet (c : CardId) {q : SetId} {w v : World} (h : w.Wider gained v)
    (new : w.sets.size ≤ q.place) : w.Wider gained (v.exchangeSet c q) := by
  refine Wider.trans ?_ (tighter_exchangeSet c q v).wider
  have listening : w.Wider gained _ := h.trans (tighter_subscribeSet q c v).wider
  refine { listening with qualities := ?_, cards := ?_ }
  · intro other bound
    rw [card_turnTo]
    split
    · exact .inr new
    · exact h.qualities other bound
  · exact Nat.le_trans h.cards (Table.size_le_modify _ _ _)

lemma wider_replaceQualities (c : CardId) (conds : List String) (w : World) :
    w.Wider gained (w.replaceQualities c conds).1 := by
  have made : w.Wider gained _ := wider_newSet conds none w
  have bound := bindingsOnly_bindSetWhere c (w.newSet conds none).2 (w.newSet conds none).1
  rw [World.replaceQualities]
  dsimp only
  rcases eq : (w.newSet conds none).1.bindSetWhere c (w.newSet conds none).2 with ⟨v, fault | _⟩
  all_goals rw [eq] at bound
  · exact made.trans bound.tighter.wider
  · exact wider_exchangeSet c (made.trans bound.tighter.wider) (Nat.le_refl _)

/-! ## Being alive -/

/-- What is alive, what does not exist yet, and some cards. -/
def Within (w : World) (more : CardId → Prop) (x : Handle) : Prop :=
  w.Alive x ∨ w.Unmade x ∨ ∃ c, x = .card c ∧ more c

lemma within_card {w : World} {c : CardId} (within : w.Within (fun _ => False) (.card c)) :
    w.Alive (.card c) := by
  rcases within with alive | fresh | ⟨_, _, none⟩
  · exact alive
  · exact fresh.elim
  · exact none.elim

/-- **What is alive after owners have gained what is new** was alive before, or is new.  If there
are new cards, they have new sets. -/
theorem Wider.alive {w w' : World} {more : CardId → Prop}
    (h : w.Wider (fun c => w.Alive (.card c)) w') (exist : w.CardsExist)
    (root : ∀ x, w'.isRooted x → w.Within more x)
    (new : ∀ c, more c → w.sets.size ≤ (w'.card c).qualities.place) {x : Handle}
    (after : w'.Alive x) : w.Within more x := by
  have card : ∀ c, w'.Alive (.card c) → w.Within more (.card c) →
      w.Within more (.set (w'.card c).qualities) := by
    rintro c - (alive | fresh | ⟨c', eq, isMore⟩)
    · rcases h.qualities c (exist.bounded alive) with same | newSet
      · rw [same]
        exact .inl (.set (exist.bounded alive) alive)
      · exact .inr (.inl newSet)
    · exact fresh.elim
    · obtain rfl := Handle.card.inj eq
      exact .inr (.inl (new c isMore))
  induction after with
  | root rooted => exact root _ rooted
  | @state s _ ih =>
      rcases ih with alive | fresh | ⟨_, eq, _⟩
      · exact .inl (.state alive)
      · exact .inr (.inl fresh)
      · cases eq
  | @batch s _ ih =>
      rcases ih with alive | fresh | ⟨_, eq, _⟩
      · exact .inl (.batch alive)
      · exact .inr (.inl fresh)
      · cases eq
  | @card d c mem _ ih =>
      rcases h.deckCards d c mem with was | gained
      · rcases ih with alive | fresh | ⟨_, eq, _⟩
        · exact .inl (.card was alive)
        · exact absurd (deck_bound was) (Nat.not_lt.2 fresh)
        · cases eq
      · exact .inl gained
  | @set c _ alive ih => exact card c alive ih
  | @expr q e mem _ ih =>
      rcases h.members q e mem with was | newExpr
      · rcases ih with alive | fresh | ⟨_, eq, _⟩
        · exact .inl (.expr was alive)
        · exact absurd (set_bound was) (Nat.not_lt.2 fresh)
        · cases eq
      · exact .inr (.inl newExpr)

end StoryEngine.World
