import StoryEngine.Proofs.Fresh
import StoryEngine.Proofs.History
import StoryEngine.Script.Report

/-!
# What never goes back

Whatever happens to a world, some things only ever go one way.  Revisions do not fall, numbers of
subscriptions are not given out again, what has been disposed of stays so, subscribed listeners keep
what they listen to, and what was recorded stays recorded.

* `Registry.Later` — everyone registered was registered before, or has a number that was still free.
* **`World.Later`** — a world that may have come of another one.
* `World.Steady` — a later world in which names and holds are the same.
* `World.Onward` — one in which states are the same too, but for their listeners, and no cached
  result of an expression has become wrong.
* `World.onward_bindNode` and its like — each operation on nodes leads onward.
-/

namespace StoryEngine

/-! ## Registries -/

namespace Registry

variable {α : Type}

/-- **A later registry**: no number was given out again, and the order was kept. -/
structure Later (r r' : Registry α) : Prop where
  next : r.next ≤ r'.next
  entries : ∀ entry ∈ r'.entries, entry ∈ r.entries ∨ r.next ≤ entry.1
  ordered : r.Ordered → r'.Ordered

lemma Later.refl (r : Registry α) : r.Later r :=
  ⟨Nat.le_refl _, fun _ mem => .inl mem, id⟩

lemma Later.trans {r r' r'' : Registry α} (h : r.Later r') (h' : r'.Later r'') : r.Later r'' := by
  refine ⟨Nat.le_trans h.next h'.next, ?_, h'.ordered ∘ h.ordered⟩
  intro entry mem
  rcases h'.entries entry mem with mem | fresh
  · exact h.entries entry mem
  · exact .inr (Nat.le_trans h.next fresh)

lemma later_subscribe (r : Registry α) (a : α) : r.Later (r.subscribe a) := by
  refine ⟨Nat.le_succ _, ?_, fun ordered => ordered.subscribe a⟩
  intro entry mem
  rcases List.mem_append.1 mem with mem | mem
  · exact .inl mem
  · obtain rfl := List.mem_singleton.1 mem
    exact .inr (Nat.le_refl _)

lemma later_remove (r : Registry α) (number : Nat) : r.Later (r.remove number) :=
  ⟨Nat.le_refl _, fun _ mem => .inl (List.mem_filter.1 mem).1, fun ordered => ordered.remove number⟩

lemma later_clear (r : Registry α) : r.Later r.clear :=
  ⟨Nat.le_refl _, nofun, fun _ => Ordered.clear⟩

/-- A number that was registered before, and still is, stands for the same listener. -/
lemma Later.mem_of_has {r r' : Registry α} (h : r.Later r') (ordered : r.Ordered)
    {entry : Nat × α} (mem : entry ∈ r.entries) (has : r'.has entry.1) : entry ∈ r'.entries := by
  obtain ⟨other, mem', eq⟩ := List.any_eq_true.1 has
  replace eq : other.1 = entry.1 := eq_of_beq eq
  rcases h.entries other mem' with old | fresh
  · rw [← ordered.eq_of_number old mem eq]
    exact mem'
  · have := ordered.below entry mem
    omega

end Registry

/-! ## Worlds -/

/-- What only goes one way in a node: its registry, and that it has been disposed of. -/
structure NodeLater {α : Type} (listeners listeners' : Registry α) (disposed disposed' : Bool) :
    Prop where
  listeners : listeners.Later listeners'
  disposed : disposed = true → disposed' = true

lemma NodeLater.refl {α : Type} (listeners : Registry α) (disposed : Bool) :
    NodeLater listeners listeners disposed disposed :=
  ⟨.refl _, id⟩

lemma NodeLater.trans {α : Type} {l l' l'' : Registry α} {d d' d'' : Bool}
    (h : NodeLater l l' d d') (h' : NodeLater l' l'' d' d'') : NodeLater l l'' d d'' :=
  ⟨h.listeners.trans h'.listeners, h'.disposed ∘ h.disposed⟩

namespace World

/-- What a subscribed listener never changes: what it listens to, under which number, and what it
does. -/
structure SameListener (n n' : Listener) : Prop where
  emitter : n'.emitter = n.emitter
  number : n'.number = n.number
  program : n'.program = n.program

/-- **A later world.** -/
structure Later (w w' : World) : Prop where
  revision : ∀ s, (w.store s).revision ≤ (w'.store s).revision
  store : ∀ s, (w.store s).listeners.Later (w'.store s).listeners
  expr : ∀ e, NodeLater (w.expr e).listeners (w'.expr e).listeners
    (w.expr e).disposed (w'.expr e).disposed
  set : ∀ q, NodeLater (w.set q).listeners (w'.set q).listeners
    (w.set q).disposed (w'.set q).disposed
  card : ∀ c, NodeLater (w.card c).listeners (w'.card c).listeners
    (w.card c).disposed (w'.card c).disposed
  deck : ∀ d, NodeLater (w.deck d).listeners (w'.deck d).listeners
    (w.deck d).disposed (w'.deck d).disposed
  board : ∀ b, (w.board b).Later (w'.board b)
  listeners : w.listeners.size ≤ w'.listeners.size
  listener : ∀ l, l.place < w.listeners.size → SameListener (w.listener l) (w'.listener l)
  trace : w.trace <:+ w'.trace

lemma Later.refl (w : World) : w.Later w where
  revision _ := Nat.le_refl _
  store _ := .refl _
  expr _ := .refl _ _
  set _ := .refl _ _
  card _ := .refl _ _
  deck _ := .refl _ _
  board _ := .refl _
  listeners := Nat.le_refl _
  listener _ _ := ⟨rfl, rfl, rfl⟩
  trace := List.suffix_refl _

lemma Later.trans {w w' w'' : World} (h : w.Later w') (h' : w'.Later w'') : w.Later w'' where
  revision s := Nat.le_trans (h.revision s) (h'.revision s)
  store s := (h.store s).trans (h'.store s)
  expr e := (h.expr e).trans (h'.expr e)
  set q := (h.set q).trans (h'.set q)
  card c := (h.card c).trans (h'.card c)
  deck d := (h.deck d).trans (h'.deck d)
  board b := (h.board b).trans (h'.board b)
  listeners := Nat.le_trans h.listeners h'.listeners
  listener l bound := by
    have before := h.listener l bound
    have after := h'.listener l (Nat.lt_of_lt_of_le bound h.listeners)
    exact ⟨after.emitter.trans before.emitter, after.number.trans before.number,
      after.program.trans before.program⟩
  trace := h.trace.trans h'.trace

/-- **A later world with the same subscribed listeners, names and holds.** -/
structure Steady (w w' : World) : Prop extends Later w w' where
  table : w'.listeners = w.listeners
  names : w'.names = w.names
  held : w'.held = w.held

lemma Steady.refl (w : World) : w.Steady w :=
  { Later.refl w with table := rfl, names := rfl, held := rfl }

lemma Steady.trans {w w' w'' : World} (h : w.Steady w') (h' : w'.Steady w'') : w.Steady w'' :=
  { h.toLater.trans h'.toLater with
    table := h'.table.trans h.table
    names := h'.names.trans h.names
    held := h'.held.trans h.held }

/-- In a steady world the same objects are roots. -/
lemma Steady.isRooted_eq {w w' : World} (h : w.Steady w') (handle : Handle) :
    w'.isRooted handle = w.isRooted handle := by
  rw [isRooted, isRooted, h.names, h.held]

/-- So the same states are alive, and bindings give the same states. -/
lemma Steady.stateAlive_eq {w w' : World} (h : w.Steady w') (s : StateId) :
    w'.stateAlive s = w.stateAlive s := by
  rw [stateAlive, stateAlive, h.isRooted_eq, h.isRooted_eq]

lemma Steady.boundState_eq {w w' : World} (h : w.Steady w') (kind : NodeKind)
    (o : Option StateId) : w'.boundState kind o = w.boundState kind o := by
  cases o with
  | none => rfl
  | some s => rw [boundState, boundState, h.stateAlive_eq]

/-- **A steady world in which states are the same**, but for their listeners, and in which no cached
result of an expression has become wrong. -/
structure Onward (w w' : World) : Prop extends Steady w w' where
  states : ∀ s, w'.store s = { w.store s with listeners := (w'.store s).listeners }
  history : ∀ s, w'.history s = w.history s
  fresh : w.Fresh → w'.Fresh

lemma Onward.refl (w : World) : w.Onward w :=
  { Steady.refl w with states := fun _ => rfl, history := fun _ => rfl, fresh := id }

lemma Onward.trans {w w' w'' : World} (h : w.Onward w') (h' : w'.Onward w'') : w.Onward w'' :=
  { h.toSteady.trans h'.toSteady with
    states := fun s => by rw [h'.states, h.states]
    history := fun s => (h'.history s).trans (h.history s)
    fresh := h'.fresh ∘ h.fresh }

/-- A chain of steps. -/
lemma Onward.foldl {β : Type} {step : World → β → World} (h : ∀ (w : World) b, w.Onward (step w b))
    (bs : List β) (w : World) : w.Onward (bs.foldl step w) := by
  induction bs generalizing w with
  | nil => exact .refl w
  | cons b bs ih => exact (h w b).trans (ih _)

/-! ### Single changes -/

section
variable (w : World)

lemma later_record (event : Event) : w.Later (w.record event) :=
  { Later.refl w with trace := List.suffix_cons _ _ }

/-- Something happens that is nothing to any state. -/
lemma onward_record {event : Event} (aside : event.Aside) : w.Onward (w.record event) :=
  { Onward.refl w with
    trace := List.suffix_cons _ _
    history := history_record aside
    fresh := fun h => h.alike (fun _ => rfl) fun _ => rfl }

lemma onward_note (n : Note) : w.Onward (w.note n) :=
  w.onward_record fun _ => rfl

/-- Other names and holds. -/
def withRoots (names : List (String × Object)) (held : List Handle) : World :=
  { w with names, held }

lemma later_withRoots (names : List (String × Object)) (held : List Handle) :
    w.Later (w.withRoots names held) :=
  { Later.refl w with }

variable {w}

lemma later_onStore {s : StateId} {f : Store → Store}
    (revision : ∀ st : Store, st.revision ≤ (f st).revision)
    (listeners : ∀ st : Store, st.listeners.Later (f st).listeners) : w.Later (w.onStore s f) :=
  { Later.refl w with
    revision := by
      intro other
      rw [store_onStore]
      split
      · exact revision _
      · exact Nat.le_refl _
    store := by
      intro other
      rw [store_onStore]
      split
      · exact listeners _
      · exact .refl _ }

/-- The listeners of a state change. -/
lemma onward_onListeners {s : StateId} {f : Registry StateListener → Registry StateListener}
    (h : ∀ r : Registry StateListener, r.Later (f r)) :
    w.Onward (w.onStore s fun st => { st with listeners := f st.listeners }) :=
  { later_onStore (w := w) (s := s) (f := fun st => { st with listeners := f st.listeners })
      (fun _ => Nat.le_refl _) fun _ => h _ with
    table := rfl, names := rfl, held := rfl, history := fun _ => rfl
    states := by
      intro other
      rw [store_onStore]
      split <;> rfl
    fresh := fun fresh => fresh.onStore s (Nat.le_refl _) fun _ => rfl }

lemma onward_onExpr_of_fresh {e : ExprId} {f : ExprNode → ExprNode}
    (h : ∀ n, NodeLater n.listeners (f n).listeners n.disposed (f n).disposed)
    (fresh : w.Fresh → (w.onExpr e f).Fresh) : w.Onward (w.onExpr e f) :=
  { Onward.refl w with
    fresh
    expr := by
      intro other
      rw [expr_onExpr]
      split
      · exact h _
      · exact .refl _ _ }

lemma onward_onExpr {e : ExprId} {f : ExprNode → ExprNode}
    (h : ∀ n, NodeLater n.listeners (f n).listeners n.disposed (f n).disposed)
    (keeps : ∀ n : ExprNode, n.Keeps (f n)) : w.Onward (w.onExpr e f) :=
  onward_onExpr_of_fresh h fun fresh => fresh.keepExpr e (keeps _)

/-- The listeners of an expression change. -/
lemma onward_onExprListeners {e : ExprId} {f : Registry ExprListener → Registry ExprListener}
    (h : ∀ r : Registry ExprListener, r.Later (f r)) :
    w.Onward (w.onExpr e fun n => { n with listeners := f n.listeners }) :=
  onward_onExpr (fun _ => ⟨h _, id⟩) fun _ => .same rfl rfl rfl

lemma onward_onSet {q : SetId} {f : SetNode → SetNode}
    (h : ∀ n, NodeLater n.listeners (f n).listeners n.disposed (f n).disposed) :
    w.Onward (w.onSet q f) :=
  { Onward.refl w with
    fresh := fun h => h.alike (fun _ => rfl) fun _ => rfl
    set := by
      intro other
      rw [set_onSet]
      split
      · exact h _
      · exact .refl _ _ }

lemma onward_onCard {c : CardId} {f : CardNode → CardNode}
    (h : ∀ n, NodeLater n.listeners (f n).listeners n.disposed (f n).disposed) :
    w.Onward (w.onCard c f) :=
  { Onward.refl w with
    fresh := fun h => h.alike (fun _ => rfl) fun _ => rfl
    card := by
      intro other
      rw [card_onCard]
      split
      · exact h _
      · exact .refl _ _ }

lemma onward_onDeck {d : DeckId} {f : DeckNode → DeckNode}
    (h : ∀ n, NodeLater n.listeners (f n).listeners n.disposed (f n).disposed) :
    w.Onward (w.onDeck d f) :=
  { Onward.refl w with
    fresh := fun h => h.alike (fun _ => rfl) fun _ => rfl
    deck := by
      intro other
      rw [deck_onDeck]
      split
      · exact h _
      · exact .refl _ _ }

lemma onward_onBoard {b : BoardId} {f : Registry ListenerId → Registry ListenerId}
    (h : ∀ r : Registry ListenerId, r.Later (f r)) : w.Onward (w.onBoard b f) :=
  { Onward.refl w with
    fresh := fun h => h.alike (fun _ => rfl) fun _ => rfl
    board := by
      intro other
      rw [board_onBoard]
      split
      · exact h _
      · exact .refl _ }

lemma later_onListener {l : ListenerId} {f : Listener → Listener}
    (h : ∀ n, SameListener n (f n)) : w.Later (w.onListener l f) :=
  { Later.refl w with
    listeners := Table.size_le_modify _ _ _
    listener := by
      intro other _
      rw [listener_onListener]
      split
      · exact h _
      · exact ⟨rfl, rfl, rfl⟩ }

end

/-! ### Reading -/

lemma onward_checkAgainst (e : Expression) (s : StateId) (w : World) :
    w.Onward (w.checkAgainst e s).1 := by
  unfold checkAgainst
  split
  · exact .refl w
  · exact onward_note w _

lemma onward_exprResult (e : ExprId) (w : World) : w.Onward (w.exprResult e).1 := by
  unfold exprResult
  split
  · exact .refl w
  · next s state =>
    dsimp only
    split
    · exact .refl w
    · refine (onward_checkAgainst (w.expr e).expression s w).trans ?_
      refine onward_onExpr_of_fresh (fun _ => .refl _ _) fun fresh => ?_
      have still := (checkAgainst_exprState (w.expr e).expression s w e).trans state
      have right : (w.checkAgainst (w.expr e).expression s).2 =
          (w.checkAgainst (w.expr e).expression s).1.exprHolds e s := by
        rw [exprHolds, checkAgainst_expr, checkAgainst_store, checkAgainst_value]
      have kept := fresh.keepResult still right
      rwa [checkAgainst_store] at kept

lemma onward_allResults (es : List ExprId) (w : World) : w.Onward (w.allResults es).1 := by
  induction es generalizing w with
  | nil => exact .refl w
  | cons e rest ih =>
      have first := onward_exprResult e w
      rw [allResults]
      rcases h : w.exprResult e with ⟨v, fault | _ | _⟩
      all_goals rw [h] at first
      · exact first
      · exact first
      · exact first.trans (ih v)

lemma onward_setResult (q : SetId) (w : World) : w.Onward (w.setResult q).1 := by
  unfold setResult
  split
  · exact .refl w
  · dsimp only
    split
    · exact .refl w
    · have members := onward_allResults (w.members q) w
      rcases h : w.allResults (w.members q) with ⟨v, fault | value⟩
      all_goals rw [h] at members
      · exact members
      · exact members.trans (onward_onSet fun n => .refl _ _)

/-! ### Binding -/

lemma onward_subscribeState (s : StateId) (l : StateListener) (w : World) :
    w.Onward (w.subscribeState s l).1 :=
  onward_onListeners fun _ => Registry.later_subscribe _ _

lemma onward_release (binding : Option Binding) (w : World) : w.Onward (w.release binding) := by
  cases binding with
  | none => exact .refl w
  | some b => exact onward_onListeners fun _ => Registry.later_remove _ _

lemma onward_unbindExpr (e : ExprId) (w : World) : w.Onward (w.unbindExpr e) :=
  (onward_release _ w).trans (onward_onExpr (fun _ => .refl _ _) fun _ => .forgotten nofun)

lemma onward_attachExpr (e : ExprId) (s : StateId) (w : World) : w.Onward (w.attachExpr e s) :=
  ((onward_unbindExpr e w).trans (onward_subscribeState s _ _)).trans
    (onward_onExpr (fun _ => .refl _ _) fun _ => .forgotten nofun)

lemma onward_disposeExpr (e : ExprId) (w : World) : w.Onward (w.disposeExpr e) :=
  (onward_unbindExpr e w).trans
    (onward_onExpr (fun _ => ⟨Registry.later_clear _, fun _ => rfl⟩) fun _ => .same rfl rfl rfl)

lemma onward_forgetMember (m : Member) (w : World) : w.Onward (w.forgetMember m) :=
  onward_onExprListeners fun _ => Registry.later_remove _ _

lemma onward_unbindSet (q : SetId) (w : World) : w.Onward (w.unbindSet q) := by
  refine Onward.trans ?_ (onward_onSet fun _ => .refl _ _)
  refine Onward.trans ?_ (Onward.foldl (fun w e => onward_unbindExpr e w) _ _)
  exact (onward_release _ w).trans (onward_onSet fun _ => .refl _ _)

lemma onward_attachSet (q : SetId) (s : StateId) (w : World) : w.Onward (w.attachSet q s) := by
  refine Onward.trans ?_ (onward_onSet fun _ => .refl _ _)
  refine Onward.trans ?_ (onward_subscribeState s _ _)
  exact (onward_unbindSet q w).trans (Onward.foldl (fun w e => onward_attachExpr e s w) _ _)

lemma onward_bindSet (q : SetId) (s : StateId) (w : World) : w.Onward (w.bindSet q s).1 := by
  unfold bindSet
  split
  · exact .refl w
  · exact onward_attachSet q s w

lemma onward_disposeSet (q : SetId) (w : World) : w.Onward (w.disposeSet q) := by
  refine Onward.trans ?_ (onward_onSet fun _ => ⟨Registry.later_clear _, fun _ => rfl⟩)
  refine Onward.trans ?_ (Onward.foldl (fun w m => onward_forgetMember m w) _ _)
  refine Onward.trans ?_ (Onward.foldl (fun w (m : Member) => onward_disposeExpr m.expr w) _ _)
  exact (onward_unbindSet q w).trans (onward_onSet fun _ => .refl _ _)

lemma onward_unbindCard (c : CardId) (w : World) : w.Onward (w.unbindCard c) := by
  refine Onward.trans ?_ (onward_unbindSet _ _)
  split
  · refine Onward.trans ?_ (onward_note _ _)
    exact onward_onCard fun _ => .refl _ _
  · exact .refl w

lemma onward_attachCard (c : CardId) (s : StateId) (w : World) : w.Onward (w.attachCard c s) := by
  unfold attachCard
  refine (onward_unbindCard c w).trans ?_
  dsimp only
  have bound := onward_bindSet ((w.unbindCard c).card c).qualities s (w.unbindCard c)
  rcases h : (w.unbindCard c).bindSet ((w.unbindCard c).card c).qualities s with ⟨v, fault | _⟩
  all_goals rw [h] at bound
  · exact bound.trans (onward_note _ _)
  · refine Onward.trans ?_ (onward_note _ _)
    exact bound.trans (onward_onCard fun _ => .refl _ _)

lemma onward_bindCard (c : CardId) (s : StateId) (w : World) : w.Onward (w.bindCard c s).1 := by
  unfold bindCard
  split
  · exact .refl w
  · dsimp only
    exact onward_attachCard c s w

lemma onward_disposeCard (c : CardId) (w : World) : w.Onward (w.disposeCard c) := by
  refine Onward.trans ?_ (onward_onCard fun _ => ⟨Registry.later_clear _, fun _ => rfl⟩)
  exact (onward_unbindCard c w).trans (onward_disposeSet _ _)

lemma onward_enterCard (d : DeckId) (c : CardId) (w : World) : w.Onward (w.enterCard d c).1 :=
  onward_onCard fun _ => ⟨Registry.later_subscribe _ _, id⟩

lemma onward_forgetEntry (entry : Entry) (w : World) : w.Onward (w.forgetEntry entry) :=
  onward_onCard fun _ => ⟨Registry.later_remove _ _, id⟩

lemma onward_bindOrSkip (s : StateId) (w : World) (c : CardId) : w.Onward (bindOrSkip s w c) := by
  have bound := onward_bindCard c s w
  unfold bindOrSkip
  rcases h : w.bindCard c s with ⟨v, fault | _⟩
  all_goals rw [h] at bound
  · exact bound.trans (onward_note _ _)
  · exact bound

lemma onward_unbindDeck (d : DeckId) (w : World) : w.Onward (w.unbindDeck d) := by
  refine Onward.trans ?_ (Onward.foldl (fun w c => onward_unbindCard c w) _ _)
  split
  · refine Onward.trans ?_ (onward_note _ _)
    exact (onward_release _ w).trans (onward_onDeck fun _ => .refl _ _)
  · exact .refl w

lemma onward_attachDeck (d : DeckId) (s : StateId) (w : World) : w.Onward (w.attachDeck d s) := by
  refine Onward.trans ?_ (onward_note _ _)
  refine Onward.trans ?_ (onward_onDeck fun _ => .refl _ _)
  refine Onward.trans ?_ (onward_subscribeState s _ _)
  exact (onward_unbindDeck d w).trans (Onward.foldl (onward_bindOrSkip s) _ _)

lemma onward_bindDeck (d : DeckId) (s : StateId) (w : World) : w.Onward (w.bindDeck d s).1 := by
  unfold bindDeck
  split
  · exact .refl w
  · exact onward_attachDeck d s w

lemma onward_disposeDeck (d : DeckId) (w : World) : w.Onward (w.disposeDeck d) := by
  refine Onward.trans ?_ (onward_note _ _)
  refine Onward.trans ?_ (onward_onDeck fun _ => ⟨Registry.later_clear _, fun _ => rfl⟩)
  refine Onward.trans ?_ (Onward.foldl (fun w entry => onward_forgetEntry entry w) _ _)
  refine Onward.trans ?_
    (Onward.foldl (fun w (entry : Entry) => onward_disposeCard entry.card w) _ _)
  exact (onward_unbindDeck d w).trans (onward_onDeck fun _ => .refl _ _)

lemma onward_bindNode (n : NodeId) (s : StateId) (w : World) : w.Onward (w.bindNode n s).1 := by
  cases n with
  | expr e =>
      show w.Onward (w.bindExpr e s).1
      unfold bindExpr
      split
      · exact .refl w
      · exact onward_attachExpr e s w
  | set q => exact onward_bindSet q s w
  | card c => exact onward_bindCard c s w
  | deck d => exact onward_bindDeck d s w

lemma onward_unbindNode (n : NodeId) (w : World) : w.Onward (w.unbindNode n) := by
  cases n with
  | expr e => exact onward_unbindExpr e w
  | set q => exact onward_unbindSet q w
  | card c => exact onward_unbindCard c w
  | deck d => exact onward_unbindDeck d w

lemma onward_disposeNode (n : NodeId) (w : World) : w.Onward (w.disposeNode n) := by
  cases n with
  | expr e => exact onward_disposeExpr e w
  | set q => exact onward_disposeSet q w
  | card c => exact onward_disposeCard c w
  | deck d => exact onward_disposeDeck d w

/-! ### Making and editing nodes -/

/-- A state that has nothing yet is as good as none. -/
lemma store_addStore (w : World) (s : StateId) :
    ({ w with stores := w.stores.add .empty } : World).store s = w.store s := by
  rw [store, store, Table.get_add]
  split
  · next eq => rw [eq, Table.get_of_size_le (Nat.le_refl _)]; rfl
  · rfl

lemma onward_addStore (w : World) : w.Onward { w with stores := w.stores.add .empty } :=
  { Onward.refl w with
    revision := fun s => Nat.le_of_eq (by rw [store_addStore])
    store := fun s => by rw [store_addStore]; exact .refl _
    states := fun s => by rw [store_addStore]
    fresh := fun h => h.alike (store_addStore w) fun _ => rfl }

lemma onward_addExpr (cond : String) (w : World) :
    w.Onward { w with exprs := w.exprs.add (.new cond) } :=
  { Onward.refl w with
    fresh := fun h => h.addExpr cond
    expr := by
      intro e
      simp only [expr, Table.get_add]
      split
      · next eq =>
          rw [eq, Table.get_of_size_le (Nat.le_refl _)]
          exact ⟨.refl _, fun gone => absurd gone Bool.false_ne_true⟩
      · exact .refl _ _ }

lemma onward_addSet (w : World) {n : SetNode} (new : n.listeners = .empty) :
    w.Onward { w with sets := w.sets.add n } :=
  { Onward.refl w with
    fresh := fun h => h.alike (fun _ => rfl) fun _ => rfl
    set := by
      intro q
      simp only [set, Table.get_add]
      split
      · next eq =>
          rw [eq, Table.get_of_size_le (Nat.le_refl _), new]
          exact ⟨.refl _, fun gone => absurd gone Bool.false_ne_true⟩
      · exact .refl _ _ }

lemma onward_addCard (w : World) {n : CardNode} (new : n.listeners = .empty) :
    w.Onward { w with cards := w.cards.add n } :=
  { Onward.refl w with
    fresh := fun h => h.alike (fun _ => rfl) fun _ => rfl
    card := by
      intro c
      simp only [card, Table.get_add]
      split
      · next eq =>
          rw [eq, Table.get_of_size_le (Nat.le_refl _), new]
          exact ⟨.refl _, fun gone => absurd gone Bool.false_ne_true⟩
      · exact .refl _ _ }

lemma onward_addDeck (w : World) {n : DeckNode} (new : n.listeners = .empty) :
    w.Onward { w with decks := w.decks.add n } :=
  { Onward.refl w with
    fresh := fun h => h.alike (fun _ => rfl) fun _ => rfl
    deck := by
      intro d
      simp only [deck, Table.get_add]
      split
      · next eq =>
          rw [eq, Table.get_of_size_le (Nat.le_refl _), new]
          exact ⟨.refl _, fun gone => absurd gone Bool.false_ne_true⟩
      · exact .refl _ _ }

lemma onward_addBoard (w : World) : w.Onward { w with boards := w.boards.add .empty } :=
  { Onward.refl w with
    fresh := fun h => h.alike (fun _ => rfl) fun _ => rfl
    board := by
      intro b
      simp only [board, Table.get_add]
      split
      · next eq => rw [eq, Table.get_of_size_le (Nat.le_refl _)]; exact .refl _
      · exact .refl _ }

lemma later_addListener (w : World) (n : Listener) :
    w.Later { w with listeners := w.listeners.add n } :=
  { Later.refl w with
    listeners := by simp [Table.size, Table.add]
    listener := by
      intro l bound
      simp only [listener, Table.get_add]
      rw [if_neg (Nat.ne_of_lt bound)]
      exact ⟨rfl, rfl, rfl⟩ }

lemma onward_newExpr (cond : String) (state : Option StateId) (w : World) :
    w.Onward (w.newExpr cond state).1 := by
  cases state with
  | none => exact onward_addExpr cond w
  | some s => exact (onward_addExpr cond w).trans (onward_attachExpr _ _ _)

lemma onward_invalidateExpr (e : ExprId) (w : World) : w.Onward (w.invalidateExpr e) :=
  onward_onExpr (fun _ => .refl _ _) fun n => .forgotten (Cache.invalidate_ne n.cache)

lemma onward_rewriteExpr (e : ExprId) (cond : String) (w : World) :
    w.Onward (w.rewriteExpr e cond) := by
  rw [rewriteExpr, invalidateExpr, onExpr_onExpr]
  exact onward_onExpr (fun _ => .refl _ _) fun n => .forgotten (Cache.invalidate_ne n.cache)

lemma onward_insertQuality (q : SetId) (cond : String) (w : World) :
    w.Onward (w.insertQuality q cond).1 := by
  unfold insertQuality
  split
  · exact .refl w
  · refine Onward.trans ?_ (onward_onSet fun _ => .refl _ _)
    exact (onward_newExpr _ _ w).trans
      (onward_onExprListeners fun _ => Registry.later_subscribe _ _)

lemma onward_newSet (conds : List String) (state : Option StateId) (w : World) :
    w.Onward (w.newSet conds state).1 := by
  refine Onward.trans ?_ (Onward.foldl (fun w cond => onward_insertQuality _ cond w) _ _)
  cases state with
  | none => exact onward_addSet w rfl
  | some s => exact (onward_addSet w rfl).trans (onward_attachSet _ _ _)

lemma onward_subscribeSet (q : SetId) (c : CardId) (w : World) : w.Onward (w.subscribeSet q c).1 :=
  onward_onSet fun _ => ⟨Registry.later_subscribe _ _, id⟩

lemma onward_newCard (hash : CardHash) (content : String) (conds : List String)
    (state : Option StateId) (w : World) : w.Onward (w.newCard hash content conds state).1 := by
  have made := onward_newSet conds none w
  unfold newCard
  rcases h : w.newSet conds none with ⟨v, q⟩
  rw [h] at made
  refine made.trans ?_
  have listened := (onward_subscribeSet q ⟨v.cards.size⟩ v).trans (onward_addCard _
    (n := ⟨hash, content, q, (v.subscribeSet q ⟨v.cards.size⟩).2, none, .fresh, .empty, false⟩) rfl)
  cases state with
  | none =>
      dsimp only
      exact listened
  | some s =>
      dsimp only
      exact listened.trans (onward_attachCard _ _ _)

lemma onward_enterCards (d : DeckId) (cards : List CardId) (w : World) :
    w.Onward (w.enterCards d cards).1 := by
  induction cards generalizing w with
  | nil => exact .refl w
  | cons c rest ih => exact (onward_enterCard d c w).trans (ih _)

lemma onward_newDeck (config : DeckConfig) (cards : List CardId) (state : Option StateId)
    (w : World) : w.Onward (w.newDeck config cards state).1 := by
  have made := (onward_addDeck w (n := .new config.generator) rfl).trans
    (onward_enterCards ⟨w.decks.size⟩ cards _)
  cases state with
  | none => exact made.trans (onward_onDeck fun _ => .refl _ _)
  | some s =>
      refine Onward.trans ?_ (onward_attachDeck _ _ _)
      exact made.trans (onward_onDeck fun _ => .refl _ _)

lemma onward_invalidateSet (q : SetId) (w : World) : w.Onward (w.invalidateSet q) :=
  onward_onSet fun _ => .refl _ _

lemma onward_dropMember (q : SetId) (m : Member) (w : World) : w.Onward (w.dropMember q m) := by
  refine Onward.trans ?_ (onward_invalidateSet q _)
  refine Onward.trans ?_ (onward_forgetMember m _)
  refine Onward.trans ?_ (onward_disposeExpr _ _)
  exact onward_onSet fun _ => .refl _ _

lemma onward_exchangeSet (c : CardId) (q : SetId) (w : World) : w.Onward (w.exchangeSet c q) := by
  refine Onward.trans ?_ (onward_onSet fun _ => ⟨Registry.later_remove _ _, id⟩)
  refine Onward.trans ?_ (onward_disposeSet _ _)
  exact (onward_subscribeSet q c w).trans (onward_onCard fun _ => .refl _ _)

lemma onward_bindSetWhere (c : CardId) (q : SetId) (w : World) :
    w.Onward (w.bindSetWhere c q).1 := by
  unfold bindSetWhere
  split
  · exact onward_bindSet _ _ w
  · exact .refl w

lemma onward_replaceQualities (c : CardId) (conds : List String) (w : World) :
    w.Onward (w.replaceQualities c conds).1 := by
  have made := (onward_newSet conds none w).trans
    (onward_bindSetWhere c (w.newSet conds none).2 (w.newSet conds none).1)
  unfold replaceQualities
  rcases h : (w.newSet conds none).1.bindSetWhere c (w.newSet conds none).2 with ⟨v, fault | _⟩
  all_goals rw [h] at made
  · simpa only [h] using made
  · simpa only [h] using made.trans (onward_exchangeSet _ _ _)

lemma onward_clearCards (d : DeckId) (w : World) : w.Onward (w.clearCards d) := by
  refine Onward.trans ?_ (Onward.foldl (fun w entry => onward_forgetEntry entry w) _ _)
  refine Onward.trans ?_
    (Onward.foldl (fun w (entry : Entry) => onward_unbindCard entry.card w) _ _)
  exact onward_onDeck fun _ => .refl _ _

lemma onward_bindCardsWhere (d : DeckId) (cards : List CardId) (w : World) :
    w.Onward (w.bindCardsWhere d cards) := by
  unfold bindCardsWhere
  split
  · exact Onward.foldl (onward_bindOrSkip _) _ _
  · exact .refl w

lemma onward_replaceCards (d : DeckId) (cards : List CardId) (w : World) :
    w.Onward (w.replaceCards d cards) := by
  refine Onward.trans ?_ (onward_onDeck fun _ => .refl _ _)
  refine Onward.trans ?_ (onward_note _ _)
  refine Onward.trans ?_ (onward_bindCardsWhere d cards _)
  exact (onward_clearCards d w).trans (onward_enterCards d cards _)

lemma onward_bindWhere (d : DeckId) (c : CardId) (w : World) : w.Onward (w.bindWhere d c).1 := by
  unfold bindWhere
  split
  · exact onward_bindCard _ _ w
  · exact .refl w

lemma onward_insertCard (d : DeckId) (c : CardId) (w : World) : w.Onward (w.insertCard d c).1 := by
  have bound := onward_bindWhere d c w
  unfold insertCard
  rcases h : w.bindWhere d c with ⟨v, fault | _⟩
  all_goals rw [h] at bound
  · exact bound
  · refine Onward.trans ?_ (onward_onDeck fun _ => .refl _ _)
    exact (bound.trans (onward_note _ _)).trans (onward_enterCard d c _)

lemma onward_takeCard (d : DeckId) (c : CardId) (gone kept : List Entry) (w : World) :
    w.Onward (w.takeCard d c gone kept) := by
  refine Onward.trans ?_ (onward_note _ _)
  refine Onward.trans ?_ (Onward.foldl (fun w entry => onward_forgetEntry entry w) _ _)
  refine Onward.trans ?_ (onward_unbindCard c _)
  exact onward_onDeck fun _ => .refl _ _

lemma onward_replaceCard (d : DeckId) (c : CardId) (index : Nat) (old : Entry) (w : World) :
    w.Onward (w.replaceCard d c index old).1 := by
  refine Onward.trans ?_ (onward_bindWhere d c _)
  refine Onward.trans ?_ (onward_forgetEntry old _)
  refine Onward.trans ?_ (onward_unbindCard _ _)
  exact (onward_enterCard d c w).trans (onward_onDeck fun _ => .refl _ _)

/-! ### Subscribing -/

lemma onward_subscribeTo (emitter : Emitter) (l : ListenerId) (w : World) :
    w.Onward (w.subscribeTo emitter l).1 := by
  cases emitter with
  | state s => exact onward_subscribeState s _ w
  | expr e => exact onward_onExprListeners fun _ => Registry.later_subscribe _ _
  | set q => exact onward_onSet fun _ => ⟨Registry.later_subscribe _ _, id⟩
  | card c => exact onward_onCard fun _ => ⟨Registry.later_subscribe _ _, id⟩
  | deck d => exact onward_onDeck fun _ => ⟨Registry.later_subscribe _ _, id⟩
  | board b => exact onward_onBoard fun _ => Registry.later_subscribe _ _

lemma onward_unsubscribeFrom (emitter : Emitter) (number : Nat) (w : World) :
    w.Onward (w.unsubscribeFrom emitter number) := by
  cases emitter with
  | state s => exact onward_release (some ⟨s, number⟩) w
  | expr e => exact onward_onExprListeners fun _ => Registry.later_remove _ _
  | set q => exact onward_onSet fun _ => ⟨Registry.later_remove _ _, id⟩
  | card c => exact onward_onCard fun _ => ⟨Registry.later_remove _ _, id⟩
  | deck d => exact onward_onDeck fun _ => ⟨Registry.later_remove _ _, id⟩
  | board b => exact onward_onBoard fun _ => Registry.later_remove _ _

lemma onward_clearListeners (emitter : Emitter) (w : World) :
    w.Onward (w.clearListeners emitter) := by
  cases emitter with
  | state s => exact onward_onListeners fun _ => Registry.later_clear _
  | expr e => exact onward_onExprListeners fun _ => Registry.later_clear _
  | set q => exact onward_onSet fun _ => ⟨Registry.later_clear _, id⟩
  | card c => exact onward_onCard fun _ => ⟨Registry.later_clear _, id⟩
  | deck d => exact onward_onDeck fun _ => ⟨Registry.later_clear _, id⟩
  | board b => exact onward_onBoard fun _ => Registry.later_clear _

lemma later_newListener (emitter : Emitter) (name : String) (program : List Step) (times : Nat)
    (w : World) : w.Later (w.newListener emitter name program times).1 :=
  (onward_subscribeTo emitter _ w).toLater.trans (later_addListener _ _)

lemma newListener_held (emitter : Emitter) (name : String) (program : List Step) (times : Nat)
    (w : World) : (w.newListener emitter name program times).1.held = w.held :=
  (onward_subscribeTo emitter _ w).held

end World

end StoryEngine
