import StoryEngine.Proofs.Life
import StoryEngine.World.Notify

/-!
# Reading changes caches only

To read a node computes results, keeps them and may make remarks.  Nothing else comes of it: no
binding, no registry, no owner and no value is touched.

* **`World.CachesOnly`** — two worlds that differ in nothing but caches and the trace.
* `World.cachesOnly_exprResult` and its like — every way of reading is of this kind, and so is
  forgetting a result.
* `World.CachesOnly.alive`, `World.CachesOnly.members_eq`, … — what such worlds have in common.
* `World.mem_offered` — only cards of a deck are offered.
-/

namespace StoryEngine.World

/-- **Worlds that differ only in caches and in what was recorded.** -/
structure CachesOnly (w w' : World) : Prop where
  stores : w'.stores = w.stores
  exprs : w.exprs.size ≤ w'.exprs.size
  sets : w.sets.size ≤ w'.sets.size
  cards : w'.cards = w.cards
  decks : w'.decks = w.decks
  boards : w'.boards = w.boards
  listeners : w'.listeners = w.listeners
  names : w'.names = w.names
  held : w'.held = w.held
  expr : ∀ e, w'.expr e = { w.expr e with cache := (w'.expr e).cache }
  set : ∀ q, w'.set q = { w.set q with cache := (w'.set q).cache }

lemma CachesOnly.refl (w : World) : w.CachesOnly w :=
  ⟨rfl, Nat.le_refl _, Nat.le_refl _, rfl, rfl, rfl, rfl, rfl, rfl, fun _ => rfl, fun _ => rfl⟩

lemma CachesOnly.trans {w w' w'' : World} (h : w.CachesOnly w') (h' : w'.CachesOnly w'') :
    w.CachesOnly w'' where
  stores := h'.stores.trans h.stores
  exprs := Nat.le_trans h.exprs h'.exprs
  sets := Nat.le_trans h.sets h'.sets
  cards := h'.cards.trans h.cards
  decks := h'.decks.trans h.decks
  boards := h'.boards.trans h.boards
  listeners := h'.listeners.trans h.listeners
  names := h'.names.trans h.names
  held := h'.held.trans h.held
  expr e := by rw [h'.expr e, h.expr e]
  set q := by rw [h'.set q, h.set q]

/-! ## Single changes -/

lemma cachesOnly_record (event : Event) (w : World) : w.CachesOnly (w.record event) :=
  ⟨rfl, Nat.le_refl _, Nat.le_refl _, rfl, rfl, rfl, rfl, rfl, rfl, fun _ => rfl, fun _ => rfl⟩

lemma cachesOnly_note (n : Note) (w : World) : w.CachesOnly (w.note n) :=
  cachesOnly_record _ w

lemma cachesOnly_onExpr (w : World) (e : ExprId) {f : ExprNode → ExprNode}
    (h : ∀ n, f n = { n with cache := (f n).cache }) : w.CachesOnly (w.onExpr e f) :=
  { CachesOnly.refl w with
    exprs := Table.size_le_modify _ _ _
    expr := by
      intro other
      rw [expr_onExpr]
      split
      · exact h _
      · rfl }

lemma cachesOnly_onSet (w : World) (q : SetId) {f : SetNode → SetNode}
    (h : ∀ n, f n = { n with cache := (f n).cache }) : w.CachesOnly (w.onSet q f) :=
  { CachesOnly.refl w with
    sets := Table.size_le_modify _ _ _
    set := by
      intro other
      rw [set_onSet]
      split
      · exact h _
      · rfl }

lemma cachesOnly_invalidateExpr (e : ExprId) (w : World) : w.CachesOnly (w.invalidateExpr e) :=
  cachesOnly_onExpr w e fun _ => rfl

lemma cachesOnly_invalidateSet (q : SetId) (w : World) : w.CachesOnly (w.invalidateSet q) :=
  cachesOnly_onSet w q fun _ => rfl

/-! ## Reading -/

lemma cachesOnly_checkAgainst (e : Expression) (s : StateId) (w : World) :
    w.CachesOnly (w.checkAgainst e s).1 := by
  unfold checkAgainst
  split
  · exact .refl w
  · exact cachesOnly_note _ w

lemma cachesOnly_exprResult (e : ExprId) (w : World) : w.CachesOnly (w.exprResult e).1 := by
  unfold exprResult
  split
  · exact .refl w
  · dsimp only
    split
    · exact .refl w
    · exact (cachesOnly_checkAgainst _ _ w).trans (cachesOnly_onExpr _ e fun _ => rfl)

lemma cachesOnly_allResults (es : List ExprId) (w : World) : w.CachesOnly (w.allResults es).1 := by
  induction es generalizing w with
  | nil => exact .refl w
  | cons e rest ih =>
      have first := cachesOnly_exprResult e w
      rw [allResults]
      rcases h : w.exprResult e with ⟨v, fault | _ | _⟩
      all_goals rw [h] at first
      · exact first
      · exact first
      · exact first.trans (ih v)

lemma cachesOnly_setResult (q : SetId) (w : World) : w.CachesOnly (w.setResult q).1 := by
  unfold setResult
  split
  · exact .refl w
  · dsimp only
    split
    · exact .refl w
    · have members := cachesOnly_allResults (w.members q) w
      rcases h : w.allResults (w.members q) with ⟨v, fault | value⟩
      all_goals rw [h] at members
      · exact members
      · exact members.trans (cachesOnly_onSet _ q fun _ => rfl)

lemma cachesOnly_allChecks (s : StateId) (es : List ExprId) (w : World) :
    w.CachesOnly (w.allChecks s es).1 := by
  induction es generalizing w with
  | nil => exact .refl w
  | cons e rest ih =>
      have first := cachesOnly_checkAgainst (w.expr e).expression s w
      rw [allChecks, exprCheck]
      rcases h : w.checkAgainst (w.expr e).expression s with ⟨v, _ | _⟩
      all_goals rw [h] at first
      · exact first
      · exact first.trans (ih v)

lemma cachesOnly_cardResult (c : CardId) (w : World) : w.CachesOnly (w.cardResult c).1 := by
  unfold cardResult
  split
  · exact .refl w
  · exact cachesOnly_setResult _ w

lemma cachesOnly_isOffered (c : CardId) (s : StateId) (w : World) :
    w.CachesOnly (w.isOffered c s).1 := by
  have read := cachesOnly_cardResult c w
  unfold isOffered
  rcases h : w.cardResult c with ⟨v, fault | value⟩
  all_goals rw [h] at read
  · exact (read.trans (cachesOnly_note _ _)).trans (cachesOnly_allChecks _ _ _)
  · exact read

lemma cachesOnly_offered (s : StateId) (cs : List CardId) (w : World) :
    w.CachesOnly (w.offered s cs).1 := by
  induction cs generalizing w with
  | nil => exact .refl w
  | cons c rest ih =>
      rw [offered]
      split
      · exact ih w
      · exact (cachesOnly_isOffered c s w).trans (ih _)

lemma cachesOnly_availableCards (d : DeckId) (w : World) :
    w.CachesOnly (w.availableCards d).1 := by
  unfold availableCards
  split
  · exact .refl w
  · exact cachesOnly_offered _ _ w

lemma cachesOnly_filterChecked (s : StateId) (cs : List CardId) (w : World) :
    w.CachesOnly (w.filterChecked s cs).1 := by
  induction cs generalizing w with
  | nil => exact .refl w
  | cons c rest ih => exact (cachesOnly_allChecks s _ w).trans (ih _)

lemma cachesOnly_availableIn (d : DeckId) (s : StateId) (w : World) :
    w.CachesOnly (w.availableIn d s).1 :=
  cachesOnly_filterChecked s _ w

/-- **Only cards asked about are offered.** -/
lemma mem_offered {s : StateId} {cs : List CardId} {w : World} {c : CardId}
    (mem : c ∈ (w.offered s cs).2) : c ∈ cs := by
  induction cs generalizing w with
  | nil => exact mem
  | cons other rest ih =>
      rw [offered] at mem
      split at mem
      · exact List.mem_cons_of_mem _ (ih mem)
      · dsimp only at mem
        split at mem
        · rcases List.mem_cons.1 mem with rfl | mem
          · exact List.mem_cons_self
          · exact List.mem_cons_of_mem _ (ih mem)
        · exact List.mem_cons_of_mem _ (ih mem)

/-! ## What such worlds have in common -/

namespace CachesOnly

variable {w w' : World} (h : w.CachesOnly w')
include h

lemma store_eq (s : StateId) : w'.store s = w.store s := by
  rw [World.store, World.store, h.stores]

lemma card_eq (c : CardId) : w'.card c = w.card c := by
  rw [World.card, World.card, h.cards]

lemma deck_eq (d : DeckId) : w'.deck d = w.deck d := by
  rw [World.deck, World.deck, h.decks]

lemma members_eq (q : SetId) : w'.members q = w.members q := by
  rw [members, members, h.set q]

lemma isRooted_eq (handle : Handle) : w'.isRooted handle = w.isRooted handle := by
  rw [isRooted, isRooted, h.names, h.held]

lemma stateAlive_eq (s : StateId) : w'.stateAlive s = w.stateAlive s := by
  rw [stateAlive, stateAlive, h.isRooted_eq, h.isRooted_eq]

lemma alive {handle : Handle} : w'.Alive handle ↔ w.Alive handle := by
  constructor
  · intro alive
    refine Alive.mono ?_ ?_ ?_ ?_ alive
    · intro x rooted
      exact .root (h.isRooted_eq x ▸ rooted)
    · intro d c mem deck
      exact .card (h.deck_eq d ▸ mem) deck
    · intro c bound card
      rw [h.card_eq c]
      exact .set (h.cards ▸ bound) card
    · intro q e mem set
      exact .expr (h.members_eq q ▸ mem) set
  · intro alive
    refine Alive.mono ?_ ?_ ?_ ?_ alive
    · intro x rooted
      exact .root ((h.isRooted_eq x).symm ▸ rooted)
    · intro d c mem deck
      exact .card ((h.deck_eq d).symm ▸ mem) deck
    · intro c bound card
      rw [← h.card_eq c]
      exact .set (h.cards.symm ▸ bound) card
    · intro q e mem set
      exact .expr ((h.members_eq q).symm ▸ mem) set

lemma setAlive_eq (q : SetId) : w'.setAlive q = w.setAlive q := by
  rw [Bool.eq_iff_iff, setAlive_iff, setAlive_iff, h.alive]

lemma exprEntries_eq (e : ExprId) : w'.exprEntries e = w.exprEntries e := by
  rw [exprEntries, exprEntries, h.expr e]
  refine List.filter_congr fun entry _ => ?_
  obtain ⟨_, _ | q⟩ := entry
  · rfl
  · exact h.setAlive_eq q

end CachesOnly

end StoryEngine.World
