import StoryEngine.Proofs.BindingsOnly
import StoryEngine.Script.Lookup

/-!
# Who owns whom

An expression is a member of one quality set at most, and a quality set belongs to one card at most.
New expressions and new sets belong to nobody yet.

* `World.CardsExist` — cards that can be got hold of exist.
* **`World.Owned`** — who owns whom, for all cards of some kind, those that are alive in the first
  place.
* `World.Tighter` — a world in which nobody owns anything new.
* `World.tighter_disposeExpr` and its like — most operations are of this kind.
-/

namespace StoryEngine.World

/-! ## Owners -/

/-- **Cards that can be got hold of exist.** -/
structure CardsExist (w : World) : Prop where
  rooted : ∀ {c}, w.isRooted (.card c) → c.place < w.cards.size
  entry : ∀ {d c}, c ∈ (w.deck d).cards → c.place < w.cards.size

/-- A card that is alive exists. -/
lemma CardsExist.bounded {w : World} (h : w.CardsExist) {c : CardId} (alive : w.Alive (.card c)) :
    c.place < w.cards.size := by
  cases alive with
  | root rooted => exact h.rooted rooted
  | card mem _ => exact h.entry mem

theorem CardsExist.empty : World.empty.CardsExist := by
  refine ⟨fun rooted => ?_, nofun⟩
  cases rooted

/-- **Who owns whom.**  `live` says which cards this is about; a card that nobody can get hold of
any more may be left with a set that another card has taken over. -/
structure Owned (live : Handle → Prop) (w : World) : Prop extends CardsExist w where
  member : ∀ {q e}, e ∈ w.members q → e.place < w.exprs.size
  quality : ∀ {c}, live (.card c) → (w.card c).qualities.place < w.sets.size
  distinct : ∀ q, (w.members q).Nodup
  oneSet : ∀ {q q' e}, e ∈ w.members q → e ∈ w.members q' → q = q'
  oneCard : ∀ {c c'}, live (.card c) → live (.card c') →
    (w.card c).qualities = (w.card c').qualities → c = c'

lemma Owned.mono {live live' : Handle → Prop} {w : World} (h : w.Owned live)
    (sub : ∀ c, live' (.card c) → live (.card c)) : w.Owned live' :=
  { h with
    quality := fun hc => h.quality (sub _ hc)
    oneCard := fun hc hc' => h.oneCard (sub _ hc) (sub _ hc') }

/-! ## Nothing new is owned -/

/-- **A world in which nobody owns anything new**, but for decks, which may have gained some cards.
Sets and decks may have lost some of what they had. -/
structure Tighter (gained : CardId → Prop) (w w' : World) : Prop where
  members : ∀ q, (w'.members q).Sublist (w.members q)
  qualities : ∀ c, (w'.card c).qualities = (w.card c).qualities
  deckCards : ∀ d, ∀ c ∈ (w'.deck d).cards, c ∈ (w.deck d).cards ∨ gained c
  names : w'.names = w.names
  held : w'.held = w.held
  exprs : w.exprs.size ≤ w'.exprs.size
  sets : w.sets.size ≤ w'.sets.size
  cards : w.cards.size ≤ w'.cards.size

variable {gained : CardId → Prop}

lemma Tighter.refl (w : World) : w.Tighter gained w :=
  ⟨fun _ => .refl _, fun _ => rfl, fun _ _ => .inl, rfl, rfl,
    Nat.le_refl _, Nat.le_refl _, Nat.le_refl _⟩

lemma Tighter.trans {w w' w'' : World} (h : w.Tighter gained w') (h' : w'.Tighter gained w'') :
    w.Tighter gained w'' where
  members q := (h'.members q).trans (h.members q)
  qualities c := (h'.qualities c).trans (h.qualities c)
  deckCards d c mem := (h'.deckCards d c mem).elim (h.deckCards d c) .inr
  names := h'.names.trans h.names
  held := h'.held.trans h.held
  exprs := Nat.le_trans h.exprs h'.exprs
  sets := Nat.le_trans h.sets h'.sets
  cards := Nat.le_trans h.cards h'.cards

lemma Tighter.foldl {β : Type} {step : World → β → World}
    (h : ∀ (w : World) b, w.Tighter gained (step w b)) (bs : List β) (w : World) :
    w.Tighter gained (bs.foldl step w) := by
  induction bs generalizing w with
  | nil => exact .refl w
  | cons b bs ih => exact (h w b).trans (ih _)

lemma BindingsOnly.tighter {w w' : World} (h : w.BindingsOnly w') : w.Tighter gained w' where
  members q := by simp only [h.members_eq, List.Sublist.refl]
  qualities c := h.qualities_eq c
  deckCards d c mem := .inl (by rwa [h.deckCards_eq] at mem)
  names := h.names
  held := h.held
  exprs := h.exprs
  sets := h.sets
  cards := h.cards

lemma Tighter.isRooted_eq {w w' : World} (h : w.Tighter gained w') (handle : Handle) :
    w'.isRooted handle = w.isRooted handle := by
  rw [isRooted, isRooted, h.names, h.held]

lemma CardsExist.tighter {w w' : World} (h : w.CardsExist) (t : w.Tighter gained w')
    (exist : ∀ c, gained c → c.place < w.cards.size) : w'.CardsExist where
  rooted rooted := by
    rw [t.isRooted_eq] at rooted
    exact Nat.lt_of_lt_of_le (h.rooted rooted) t.cards
  entry mem := Nat.lt_of_lt_of_le ((t.deckCards _ _ mem).elim h.entry (exist _)) t.cards

/-- What is owned is owned by the same ones. -/
lemma Owned.tighter {live : Handle → Prop} {w w' : World} (h : w.Owned live)
    (t : w.Tighter gained w') (exist : ∀ c, gained c → c.place < w.cards.size) :
    w'.Owned live where
  toCardsExist := h.toCardsExist.tighter t exist
  member mem := Nat.lt_of_lt_of_le (h.member ((t.members _).subset mem)) t.exprs
  quality hc := by
    rw [t.qualities]
    exact Nat.lt_of_lt_of_le (h.quality hc) t.sets
  distinct q := (h.distinct q).sublist (t.members q)
  oneSet mem mem' := h.oneSet ((t.members _).subset mem) ((t.members _).subset mem')
  oneCard hc hc' eq := by
    rw [t.qualities, t.qualities] at eq
    exact h.oneCard hc hc' eq

lemma Owned.tighten {live : Handle → Prop} {w w' : World} (h : w.Owned live)
    (t : w.Tighter (fun _ => False) w') : w'.Owned live :=
  h.tighter t nofun

/-- **Nothing dead comes alive** when nobody owns anything new. -/
lemma Tighter.alive {live : Handle → Prop} {w w' : World} (t : w.Tighter gained w')
    (h : w.Owned live) (alive : ∀ c, gained c → w.Alive (.card c)) {handle : Handle}
    (after : w'.Alive handle) : w.Alive handle := by
  refine Alive.mono ?_ ?_ ?_ ?_ after
  · intro x rooted
    rw [t.isRooted_eq] at rooted
    exact .root rooted
  · intro d c mem deck
    exact (t.deckCards d c mem).elim (fun mem => .card mem deck) (alive c)
  · intro c _ card
    rw [t.qualities]
    exact .set (h.bounded card) card
  · intro q e mem set
    exact .expr ((t.members q).subset mem) set

/-! ## Single changes -/

section
variable {w : World}

lemma tighter_onStore (s : StateId) (f : Store → Store) : w.Tighter gained (w.onStore s f) :=
  { Tighter.refl w with }

lemma tighter_onExpr (e : ExprId) (f : ExprNode → ExprNode) : w.Tighter gained (w.onExpr e f) :=
  { Tighter.refl w with exprs := Table.size_le_modify _ _ _ }

lemma tighter_onSet (q : SetId) {f : SetNode → SetNode}
    (h : ∀ n, (f n).members.Sublist n.members) : w.Tighter gained (w.onSet q f) :=
  { Tighter.refl w with
    sets := Table.size_le_modify _ _ _
    members := by
      intro other
      rw [World.members, World.members, set_onSet]
      split
      · exact (h _).map _
      · exact .refl _ }

lemma tighter_onCard (c : CardId) {f : CardNode → CardNode}
    (h : ∀ n, (f n).qualities = n.qualities) : w.Tighter gained (w.onCard c f) :=
  { Tighter.refl w with
    cards := Table.size_le_modify _ _ _
    qualities := by
      intro other
      rw [card_onCard]
      split
      · exact h _
      · rfl }

lemma tighter_onDeck (d : DeckId) {f : DeckNode → DeckNode}
    (h : ∀ n, ∀ c ∈ (f n).cards, c ∈ n.cards ∨ gained c) : w.Tighter gained (w.onDeck d f) :=
  { (Tighter.refl w : w.Tighter gained w) with
    deckCards := by
      intro other c mem
      rw [deck_onDeck] at mem
      split at mem
      · exact h _ c mem
      · exact .inl mem }

end

/-! ## Operations -/

lemma tighter_record (event : Event) (w : World) : w.Tighter gained (w.record event) :=
  (cachesOnly_record event w).bindingsOnly.tighter

lemma tighter_note (n : Note) (w : World) : w.Tighter gained (w.note n) :=
  tighter_record _ w

lemma tighter_rewriteExpr (e : ExprId) (cond : String) (w : World) :
    w.Tighter gained (w.rewriteExpr e cond) :=
  (tighter_onExpr e fun n => { n with expression := .new cond }).trans (tighter_onExpr e _)

lemma tighter_disposeExpr (e : ExprId) (w : World) : w.Tighter gained (w.disposeExpr e) :=
  (bindingsOnly_unbindExpr e w).tighter.trans (tighter_onExpr _ _)

lemma tighter_forgetMember (m : Member) (w : World) : w.Tighter gained (w.forgetMember m) :=
  tighter_onExpr _ _

lemma tighter_disposeSet (q : SetId) (w : World) : w.Tighter gained (w.disposeSet q) := by
  refine Tighter.trans ?_ (tighter_onSet q fun _ => .refl _)
  refine Tighter.trans ?_ (Tighter.foldl (fun w m => tighter_forgetMember m w) _ _)
  refine Tighter.trans ?_ (Tighter.foldl (fun w (m : Member) => tighter_disposeExpr m.expr w) _ _)
  exact (bindingsOnly_unbindSet q w).tighter.trans (tighter_onSet q fun _ => List.nil_sublist _)

lemma tighter_disposeCard (c : CardId) (w : World) : w.Tighter gained (w.disposeCard c) := by
  refine Tighter.trans ?_ (tighter_onCard c fun _ => rfl)
  exact (bindingsOnly_unbindCard c w).tighter.trans (tighter_disposeSet _ _)

lemma tighter_enterCard (d : DeckId) (c : CardId) (w : World) :
    w.Tighter gained (w.enterCard d c).1 :=
  tighter_onCard c fun _ => rfl

lemma tighter_enterCards (d : DeckId) (cards : List CardId) (w : World) :
    w.Tighter gained (w.enterCards d cards).1 := by
  induction cards generalizing w with
  | nil => exact .refl w
  | cons c rest ih => exact (tighter_enterCard d c w).trans (ih _)

lemma tighter_forgetEntry (entry : Entry) (w : World) : w.Tighter gained (w.forgetEntry entry) :=
  tighter_onCard _ fun _ => rfl

lemma tighter_disposeDeck (d : DeckId) (w : World) : w.Tighter gained (w.disposeDeck d) := by
  refine Tighter.trans ?_ (tighter_note _ _)
  refine Tighter.trans ?_ (tighter_onDeck d fun _ _ => .inl)
  refine Tighter.trans ?_ (Tighter.foldl (fun w entry => tighter_forgetEntry entry w) _ _)
  refine Tighter.trans ?_
    (Tighter.foldl (fun w (entry : Entry) => tighter_disposeCard entry.card w) _ _)
  exact (bindingsOnly_unbindDeck d w).tighter.trans (tighter_onDeck d fun _ _ => nofun)

lemma tighter_disposeNode (n : NodeId) (w : World) : w.Tighter gained (w.disposeNode n) := by
  cases n with
  | expr e => exact tighter_disposeExpr e w
  | set q => exact tighter_disposeSet q w
  | card c => exact tighter_disposeCard c w
  | deck d => exact tighter_disposeDeck d w

lemma tighter_dropMember (q : SetId) (m : Member) (w : World) :
    w.Tighter gained (w.dropMember q m) := by
  refine Tighter.trans ?_ (tighter_onSet q fun _ => .refl _)
  refine Tighter.trans ?_ (tighter_forgetMember m _)
  refine Tighter.trans ?_ (tighter_disposeExpr _ _)
  exact tighter_onSet q fun n => List.erase_sublist

lemma tighter_clearCards (d : DeckId) (w : World) : w.Tighter gained (w.clearCards d) := by
  refine Tighter.trans ?_ (Tighter.foldl (fun w entry => tighter_forgetEntry entry w) _ _)
  refine Tighter.trans ?_ (Tighter.foldl
    (fun w (entry : Entry) => (bindingsOnly_unbindCard entry.card w).tighter) _ _)
  exact tighter_onDeck d fun _ _ => nofun

lemma tighter_takeCard (d : DeckId) (c : CardId) (gone kept : List Entry) {w : World}
    (parts : (w.deck d).entries.partition (·.card == c) = (gone, kept)) :
    w.Tighter gained (w.takeCard d c gone kept) := by
  refine Tighter.trans ?_ (tighter_note _ _)
  refine Tighter.trans ?_ (Tighter.foldl (fun w entry => tighter_forgetEntry entry w) _ _)
  refine Tighter.trans ?_ (bindingsOnly_unbindCard c _).tighter
  refine { (Tighter.refl w : w.Tighter gained w) with deckCards := ?_ }
  intro other c' mem
  rw [deck_onDeck] at mem
  split at mem
  · next eq =>
      subst eq
      obtain ⟨entry, isKept, rfl⟩ := List.mem_map.1 mem
      rw [List.partition_eq_filter_filter] at parts
      obtain ⟨-, rfl⟩ := Prod.mk.inj parts
      exact .inl (List.mem_map_of_mem (List.mem_filter.1 isKept).1)
  · exact .inl mem

lemma tighter_subscribeTo (emitter : Emitter) (l : ListenerId) (w : World) :
    w.Tighter gained (w.subscribeTo emitter l).1 := by
  cases emitter with
  | state s => exact tighter_onStore _ _
  | expr e => exact tighter_onExpr _ _
  | set q => exact tighter_onSet q fun _ => .refl _
  | card c => exact tighter_onCard c fun _ => rfl
  | deck d => exact tighter_onDeck d fun _ _ => .inl
  | board b => exact { Tighter.refl w with }

lemma tighter_newListener (emitter : Emitter) (name : String) (program : List Step) (times : Nat)
    (w : World) : w.Tighter gained (w.newListener emitter name program times).1 :=
  { (tighter_subscribeTo emitter ⟨w.listeners.size⟩ w : w.Tighter gained _) with }

lemma tighter_unsubscribeFrom (emitter : Emitter) (number : Nat) (w : World) :
    w.Tighter gained (w.unsubscribeFrom emitter number) := by
  cases emitter with
  | state s => exact tighter_onStore _ _
  | expr e => exact tighter_onExpr _ _
  | set q => exact tighter_onSet q fun _ => .refl _
  | card c => exact tighter_onCard c fun _ => rfl
  | deck d => exact tighter_onDeck d fun _ _ => .inl
  | board b => exact { Tighter.refl w with }

lemma tighter_clearListeners (emitter : Emitter) (w : World) :
    w.Tighter gained (w.clearListeners emitter) := by
  cases emitter with
  | state s => exact tighter_onStore _ _
  | expr e => exact tighter_onExpr _ _
  | set q => exact tighter_onSet q fun _ => .refl _
  | card c => exact tighter_onCard c fun _ => rfl
  | deck d => exact tighter_onDeck d fun _ _ => .inl
  | board b => exact { Tighter.refl w with }

lemma tighter_reorder (d : DeckId) (w : World) : w.Tighter gained (w.reorder d) := by
  refine tighter_onDeck d fun n c mem => ?_
  obtain ⟨entry, isEntry, rfl⟩ := List.mem_map.1 mem
  exact .inl <| List.mem_map_of_mem ((Random.shuffle_perm n.entries n.generator).subset isEntry)

lemma tighter_pick (d : DeckId) (cards : List CardId) (w : World) :
    w.Tighter gained (w.pick d cards).1 :=
  tighter_onDeck d fun _ _ => .inl

/-! ## New owners -/

lemma bindingsOnly_newExpr (cond : String) (state : Option StateId) (w : World) :
    ({ w with exprs := w.exprs.add (.new cond) } : World).BindingsOnly
      (w.newExpr cond state).1 := by
  cases state with
  | none => exact .refl _
  | some s => exact bindingsOnly_attachExpr _ s _

lemma tighter_newExpr (cond : String) (state : Option StateId) (w : World) :
    w.Tighter gained (w.newExpr cond state).1 := by
  refine Tighter.trans ?_ (bindingsOnly_newExpr cond state w).tighter
  exact { (Tighter.refl w : w.Tighter gained w) with
    exprs := by rw [Table.size_add]; exact Nat.le_succ _ }

lemma newExpr_bound (cond : String) (state : Option StateId) (w : World) :
    w.exprs.size < (w.newExpr cond state).1.exprs.size := by
  have grown := (bindingsOnly_newExpr cond state w).exprs
  rw [Table.size_add] at grown
  exact grown

/-- The member that a quality set gets with another condition. -/
def newMember (w : World) (q : SetId) (cond : String) : Member :=
  ⟨⟨w.exprs.size⟩, ((w.newExpr cond (w.setState q).toOption).1.expr ⟨w.exprs.size⟩).listeners.next⟩

/-- **A quality set gets another condition** by making an expression and subscribing to it. -/
lemma insertQuality_of_lacks {q : SetId} {cond : String} {w : World}
    (lacks : w.hasQuality q cond = false) :
    (w.insertQuality q cond).1 =
      ((w.newExpr cond (w.setState q).toOption).1.onExpr ⟨w.exprs.size⟩ fun n =>
        { n with listeners := n.listeners.subscribe (.owner q) }).onSet q fun n =>
          { n with members := n.members ++ [w.newMember q cond] } := by
  rw [insertQuality, if_neg (by simp [lacks])]
  rcases state : (w.setState q).toOption with _ | s
  all_goals rw [newMember, state]; rfl

lemma insertQuality_of_has {q : SetId} {cond : String} {w : World}
    (has : w.hasQuality q cond = true) : (w.insertQuality q cond).1 = w := by
  rw [insertQuality, if_pos has]

lemma members_append (w : World) (q other : SetId) (m : Member) :
    (w.onSet q fun n => { n with members := n.members ++ [m] }).members other =
      if q = other then w.members other ++ [m.expr] else w.members other := by
  rw [members, members, set_onSet]
  split <;> simp

/-- A quality set gets a member that nobody has. -/
lemma Owned.append {live : Handle → Prop} {w : World} (h : w.Owned live) {q : SetId} {m : Member}
    (exist : m.expr.place < w.exprs.size) (new : ∀ other, m.expr ∉ w.members other) :
    (w.onSet q fun n => { n with members := n.members ++ [m] }).Owned live := by
  have has : ∀ {other e},
      e ∈ (w.onSet q fun n => { n with members := n.members ++ [m] }).members other →
      e ∈ w.members other ∨ (q = other ∧ e = m.expr) := by
    intro other e mem
    rw [members_append] at mem
    split at mem
    · next eq =>
        rcases List.mem_append.1 mem with mem | mem
        · exact .inl mem
        · exact .inr ⟨eq, List.mem_singleton.1 mem⟩
    · exact .inl mem
  refine { rooted := h.rooted, entry := h.entry, member := ?_, quality := ?_, distinct := ?_,
           oneSet := ?_, oneCard := h.oneCard }
  · intro other e mem
    rcases has mem with mem | ⟨-, rfl⟩
    · exact h.member mem
    · exact exist
  · intro c hc
    exact Nat.lt_of_lt_of_le (h.quality hc) (Table.size_le_modify _ _ _)
  · intro other
    rw [members_append]
    split
    · refine List.nodup_append.2 ⟨h.distinct other, List.pairwise_singleton _ _, ?_⟩
      rintro a mem b isNew rfl
      rw [List.mem_singleton.1 isNew] at mem
      exact new other mem
    · exact h.distinct other
  · intro q₁ q₂ e mem mem'
    rcases has mem with mem | ⟨rfl, rfl⟩
    · rcases has mem' with mem' | ⟨rfl, rfl⟩
      · exact h.oneSet mem mem'
      · exact absurd mem (new _)
    · rcases has mem' with mem' | ⟨rfl, -⟩
      · exact absurd mem' (new _)
      · rfl

/-- A set that has nothing yet is as good as none. -/
lemma set_addSet (w : World) (q : SetId) :
    ({ w with sets := w.sets.add .new } : World).set q = w.set q := by
  rw [set, set, Table.get_add]
  split
  · next eq => rw [eq, Table.get_of_size_le (Nat.le_refl _)]; rfl
  · rfl

lemma tighter_addSet (w : World) : w.Tighter gained { w with sets := w.sets.add .new } :=
  { (Tighter.refl w : w.Tighter gained w) with
    members := by
      intro q
      rw [members, set_addSet]
      exact .refl _
    sets := by rw [Table.size_add]; exact Nat.le_succ _ }

/-! ## Cards and decks -/

lemma tighter_subscribeSet (q : SetId) (c : CardId) (w : World) :
    w.Tighter gained (w.subscribeSet q c).1 :=
  tighter_onSet q fun _ => .refl _

/-- A card gets a set that none of the others has. -/
lemma Owned.takeSet {live live' : Handle → Prop} {w w' : World} (h : w.Owned live) (c : CardId)
    (t : ∀ q, w'.members q = w.members q) (decks : w'.decks = w.decks)
    (names : w'.names = w.names) (held : w'.held = w.held) (exprs : w'.exprs = w.exprs)
    (sets : w'.sets = w.sets) (cards : w.cards.size ≤ w'.cards.size)
    (others : ∀ c', live' (.card c') → c' = c ∨
      live (.card c') ∧ (w'.card c').qualities = (w.card c').qualities)
    (exist : (w'.card c).qualities.place < w.sets.size)
    (new : ∀ c', live (.card c') → (w.card c').qualities = (w'.card c).qualities → c' = c) :
    w'.Owned live' := by
  refine { rooted := ?_, entry := ?_, member := ?_, quality := ?_, distinct := ?_, oneSet := ?_,
           oneCard := ?_ }
  · intro c' rooted
    rw [isRooted, names, held] at rooted
    exact Nat.lt_of_lt_of_le (h.rooted rooted) cards
  · intro d c' mem
    rw [deck, decks] at mem
    exact Nat.lt_of_lt_of_le (h.entry mem) cards
  · intro q e mem
    rw [t] at mem
    rw [exprs]
    exact h.member mem
  · intro c' hc'
    rw [sets]
    rcases others c' hc' with rfl | ⟨was, same⟩
    · exact exist
    · rw [same]
      exact h.quality was
  · intro q
    rw [t]
    exact h.distinct q
  · intro q q' e mem mem'
    rw [t] at mem mem'
    exact h.oneSet mem mem'
  · intro c₁ c₂ h₁ h₂ eq
    rcases others c₁ h₁ with rfl | ⟨was₁, same₁⟩
    · rcases others c₂ h₂ with rfl | ⟨was₂, same₂⟩
      · rfl
      · exact (new c₂ was₂ (same₂.symm.trans eq.symm)).symm
    · rcases others c₂ h₂ with rfl | ⟨was₂, same₂⟩
      · exact new c₁ was₁ (same₁.symm.trans eq)
      · exact h.oneCard was₁ was₂ (same₁.symm.trans (eq.trans same₂))

/-- The places of a deck are for the cards that entered it. -/
lemma enterCards_cards (d : DeckId) (cards : List CardId) (w : World) :
    (w.enterCards d cards).2.map (·.card) = cards := by
  induction cards generalizing w with
  | nil => rfl
  | cons c rest ih => exact congrArg (c :: ·) (ih _)

lemma tighter_setEntries (d : DeckId) {entries : List Entry} (w : World)
    (h : ∀ entry ∈ entries, gained entry.card) :
    w.Tighter gained (w.onDeck d fun n => { n with entries }) := by
  refine tighter_onDeck d fun n c mem => ?_
  obtain ⟨entry, isEntry, rfl⟩ := List.mem_map.1 mem
  exact .inr (h entry isEntry)

lemma gained_enterCards {d : DeckId} {cards : List CardId} {w : World} (h : ∀ c ∈ cards, gained c) :
    ∀ entry ∈ (w.enterCards d cards).2, gained entry.card := by
  intro entry mem
  refine h _ ?_
  rw [← enterCards_cards d cards w]
  exact List.mem_map_of_mem mem

/-- A new deck before it gets its cards. -/
def emptyDeck (config : DeckConfig) (w : World) : World :=
  { w with decks := w.decks.add (.new config.generator) }

/-- A new deck before it is bound. -/
def bareDeck (config : DeckConfig) (cards : List CardId) (w : World) : World :=
  ((w.emptyDeck config).enterCards ⟨w.decks.size⟩ cards).1.onDeck ⟨w.decks.size⟩ fun n =>
    { n with entries := ((w.emptyDeck config).enterCards ⟨w.decks.size⟩ cards).2 }

lemma newDeck_eq (config : DeckConfig) (cards : List CardId) (state : Option StateId) (w : World) :
    (w.newDeck config cards state).1 =
      match state with
      | some s => (w.bareDeck config cards).attachDeck ⟨w.decks.size⟩ s
      | none => w.bareDeck config cards := by
  cases state <;> rfl

lemma tighter_emptyDeck (config : DeckConfig) (w : World) : w.Tighter gained (w.emptyDeck config) :=
  { (Tighter.refl w : w.Tighter gained w) with
    deckCards := by
      intro d c mem
      rw [emptyDeck, deck, Table.get_add] at mem
      split at mem
      · cases mem
      · exact .inl mem }

lemma tighter_bareDeck (config : DeckConfig) {cards : List CardId} (w : World)
    (h : ∀ c ∈ cards, gained c) : w.Tighter gained (w.bareDeck config cards) := by
  refine Tighter.trans ?_ (tighter_setEntries _ _ (gained_enterCards h))
  exact (tighter_emptyDeck config w).trans (tighter_enterCards _ cards _)

lemma tighter_newDeck (config : DeckConfig) {cards : List CardId} (state : Option StateId)
    (w : World)
    (h : ∀ c ∈ cards, gained c) : w.Tighter gained (w.newDeck config cards state).1 := by
  have bare := tighter_bareDeck config w h
  rw [newDeck_eq]
  cases state with
  | none => exact bare
  | some s => exact bare.trans (bindingsOnly_attachDeck _ s _).tighter

lemma tighter_replaceCards (d : DeckId) {cards : List CardId} (w : World)
    (h : ∀ c ∈ cards, gained c) : w.Tighter gained (w.replaceCards d cards) := by
  refine Tighter.trans ?_ (tighter_setEntries d _ (gained_enterCards h))
  refine Tighter.trans ?_ (tighter_note _ _)
  refine Tighter.trans ?_ (bindingsOnly_bindCardsWhere d cards _).tighter
  exact (tighter_clearCards d w).trans (tighter_enterCards d cards _)

lemma tighter_insertCard (d : DeckId) {c : CardId} (w : World) (h : gained c) :
    w.Tighter gained (w.insertCard d c).1 := by
  have bound := bindingsOnly_bindWhere d c w
  unfold insertCard
  rcases eq : w.bindWhere d c with ⟨v, fault | _⟩
  all_goals rw [eq] at bound
  · exact bound.tighter
  · refine Tighter.trans ?_ (tighter_onDeck d fun n other mem => ?_)
    · exact (bound.tighter.trans (tighter_note _ _)).trans (tighter_enterCard d c _)
    · rw [DeckNode.cards, List.map_append] at mem
      rcases List.mem_append.1 mem with old | new
      · exact .inl old
      · rw [List.mem_singleton.1 new]
        exact .inr h

lemma tighter_replaceCard (d : DeckId) {c : CardId} (index : Nat) (old : Entry) (w : World)
    (h : gained c) : w.Tighter gained (w.replaceCard d c index old).1 := by
  refine Tighter.trans ?_ (bindingsOnly_bindWhere d c _).tighter
  refine Tighter.trans ?_ (tighter_forgetEntry old _)
  refine Tighter.trans ?_ (bindingsOnly_unbindCard old.card _).tighter
  refine (tighter_enterCard d c w).trans (tighter_onDeck d fun n other mem => ?_)
  obtain ⟨entry, isEntry, rfl⟩ := List.mem_map.1 mem
  rcases List.mem_or_eq_of_mem_set isEntry with kept | rfl
  · exact .inl (List.mem_map_of_mem kept)
  · exact .inr h

/-! ## New cards and other sets -/

lemma attachExpr_cards (e : ExprId) (s : StateId) (w : World) :
    (w.attachExpr e s).cards = w.cards := by
  show (w.release (w.expr e).binding).cards = w.cards
  cases (w.expr e).binding <;> rfl

lemma insertQuality_cards (q : SetId) (cond : String) (w : World) :
    (w.insertQuality q cond).1.cards = w.cards := by
  unfold insertQuality
  split
  · rfl
  · cases (w.setState q).toOption with
    | none => rfl
    | some s => exact attachExpr_cards _ s _

/-- A new set on its own touches no card. -/
lemma newSet_cards (conds : List String) (w : World) : (w.newSet conds none).1.cards = w.cards := by
  have each : ∀ (conds : List String) (q : SetId) (w : World),
      (conds.foldl (fun w cond => (w.insertQuality q cond).1) w).cards = w.cards := by
    intro conds q
    induction conds with
    | nil => exact fun _ => rfl
    | cons cond rest ih => exact fun w => (ih _).trans (insertQuality_cards q cond w)
  exact each conds _ _

lemma insertQuality_sets (q : SetId) (cond : String) (w : World) :
    w.sets.size ≤ (w.insertQuality q cond).1.sets.size := by
  by_cases has : w.hasQuality q cond
  · exact Nat.le_of_eq (by rw [insertQuality_of_has has])
  · rw [insertQuality_of_lacks (by simpa using has)]
    refine Nat.le_trans ?_ (Table.size_le_modify _ _ _)
    have made : w.Tighter (fun _ => False) (w.newExpr cond (w.setState q).toOption).1 :=
      tighter_newExpr cond _ w
    exact made.sets

/-- A new set has the place after the last one. -/
lemma newSet_bound (conds : List String) (w : World) :
    w.sets.size < (w.newSet conds none).1.sets.size := by
  have each : ∀ (conds : List String) (q : SetId) (w : World),
      w.sets.size ≤ (conds.foldl (fun w cond => (w.insertQuality q cond).1) w).sets.size := by
    intro conds q
    induction conds with
    | nil => exact fun _ => Nat.le_refl _
    | cons cond rest ih => exact fun w => Nat.le_trans (insertQuality_sets q cond w) (ih _)
  refine Nat.lt_of_lt_of_le ?_ (each conds ⟨w.sets.size⟩ _)
  rw [Table.size_add]
  exact Nat.lt_succ_self _

/-- A new card has a set that nobody has. -/
lemma Owned.addCard {live : Handle → Prop} {w : World} (h : w.Owned live) (card : CardNode)
    (bounded : ∀ c, live (.card c) → c.place < w.cards.size)
    (exist : card.qualities.place < w.sets.size)
    (new : ∀ c, live (.card c) → (w.card c).qualities ≠ card.qualities) :
    ({ w with cards := w.cards.add card } : World).Owned
      fun x => live x ∨ x = .card ⟨w.cards.size⟩ := by
  have read : ∀ c : CardId, ({ w with cards := w.cards.add card } : World).card c =
      if c.place = w.cards.size then card else w.card c := fun c => Table.get_add _ _ _
  refine h.takeSet ⟨w.cards.size⟩ (fun _ => rfl) rfl rfl rfl rfl rfl ?_ ?_ ?_ ?_
  · rw [Table.size_add]
    exact Nat.le_succ _
  · rintro c (was | eq)
    · exact .inr ⟨was, by rw [read, if_neg (Nat.ne_of_lt (bounded c was))]⟩
    · exact .inl (Handle.card.inj eq)
  · rwa [read, if_pos rfl]
  · intro c was eq
    rw [read, if_pos rfl] at eq
    exact absurd eq (new c was)

/-- A new card before it is bound. -/
def bareCard (hash : CardHash) (content : String) (conds : List String) (w : World) : World :=
  let made := (w.newSet conds none).1
  let listening := (made.subscribeSet ⟨w.sets.size⟩ ⟨w.cards.size⟩).1
  { listening with
    cards := w.cards.add ⟨hash, content, ⟨w.sets.size⟩,
      (made.set ⟨w.sets.size⟩).listeners.next, none, .fresh, .empty, false⟩ }

lemma newCard_eq (hash : CardHash) (content : String) (conds : List String) (state : Option StateId)
    (w : World) :
    (w.newCard hash content conds state).1 =
      match state with
      | some s => (w.bareCard hash content conds).attachCard ⟨w.cards.size⟩ s
      | none => w.bareCard hash content conds := by
  have same := newSet_cards conds w
  have set : (w.newSet conds none).2 = ⟨w.sets.size⟩ := rfl
  have listening :
      ((w.newSet conds none).1.subscribeSet ⟨w.sets.size⟩ ⟨w.cards.size⟩).1.cards = w.cards := same
  unfold newCard
  dsimp only
  rw [set, same, listening]
  cases state <;>
  · unfold bareCard
    dsimp only
    rfl

lemma bindingsOnly_newCard (hash : CardHash) (content : String) (conds : List String)
    (state : Option StateId) (w : World) :
    (w.bareCard hash content conds).BindingsOnly (w.newCard hash content conds state).1 := by
  rw [newCard_eq]
  cases state with
  | none => exact .refl _
  | some s => exact bindingsOnly_attachCard _ s _

/-- A card listens to another set and turns to it. -/
def turnTo (c : CardId) (q : SetId) (w : World) : World :=
  (w.subscribeSet q c).1.onCard c fun n =>
    { n with qualities := q, number := (w.set q).listeners.next }

lemma exchangeSet_eq (c : CardId) (q : SetId) (w : World) :
    w.exchangeSet c q =
      ((w.turnTo c q).disposeSet (w.card c).qualities).onSet (w.card c).qualities fun n =>
        { n with listeners := n.listeners.remove (w.card c).number } := rfl

lemma card_turnTo (c other : CardId) (q : SetId) (w : World) :
    (w.turnTo c q).card other =
      if c = other then { w.card other with qualities := q, number := (w.set q).listeners.next }
      else w.card other :=
  card_onCard _ _ _ _

lemma tighter_exchangeSet (c : CardId) (q : SetId) (w : World) :
    (w.turnTo c q).Tighter gained (w.exchangeSet c q) := by
  rw [exchangeSet_eq]
  exact (tighter_disposeSet _ _).trans (tighter_onSet _ fun _ => .refl _)

/-- A card turns to a set that nobody has. -/
lemma Owned.turnTo {live : Handle → Prop} {w : World} (h : w.Owned live) {c : CardId} {q : SetId}
    (exist : q.place < w.sets.size) (new : ∀ c', live (.card c') → (w.card c').qualities ≠ q) :
    (w.turnTo c q).Owned live := by
  have listening := h.tighten (tighter_subscribeSet q c w)
  refine listening.takeSet c (fun _ => rfl) rfl rfl rfl rfl rfl
    (Table.size_le_modify _ _ _) ?_ ?_ ?_
  · intro c' was
    by_cases eq : c = c'
    · exact .inl eq.symm
    · exact .inr ⟨was, by rw [card_turnTo, if_neg eq]; rfl⟩
  · rw [card_turnTo, if_pos rfl]
    exact Nat.lt_of_lt_of_le exist (Table.size_le_modify _ _ _)
  · intro c' was eq
    rw [card_turnTo, if_pos rfl] at eq
    exact absurd eq (new c' was)

end StoryEngine.World
