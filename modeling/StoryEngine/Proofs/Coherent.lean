import StoryEngine.Proofs.EngineStep

/-!
# Caches that agree with their states

A cached result counts as long as its stamp is the revision of the state.  That it is right while it
counts is no matter of the cache alone: the members of a quality set have to be bound where the set
is, and the set has to be the first listener of each of its members.

* `World.exprHolds`, `World.setHolds` — what a result should be.
* **`World.Coherent`** — cached results are right while they count, and everything that this rests
  on.
* `World.Coherent.onExpr`, `World.Coherent.onSet` and their like — what a change of one object has
  to respect.
-/

namespace StoryEngine.World

/-! ## What results should be -/

/-- **Whether a quality set holds** in a state: whether all its members do. -/
def setHolds (w : World) (q : SetId) (s : StateId) : Bool :=
  (w.members q).all fun e => w.exprHolds e s

/-- Sets with the same members, which hold alike, hold alike. -/
lemma setHolds_congr {w w' : World} {q : SetId} {s : StateId} (members : w'.members q = w.members q)
    (holds : ∀ e ∈ w.members q, w'.exprHolds e s = w.exprHolds e s) :
    w'.setHolds q s = w.setHolds q s := by
  rw [setHolds, setHolds, members, Bool.eq_iff_iff, List.all_eq_true, List.all_eq_true]
  exact forall₂_congr fun e mem => by rw [holds e mem]

lemma CachesOnly.exprHolds_eq {w w' : World} (h : w.CachesOnly w') (e : ExprId) (s : StateId) :
    w'.exprHolds e s = w.exprHolds e s := by
  rw [exprHolds, exprHolds, h.expr e, h.store_eq s]

lemma CachesOnly.setHolds_eq {w w' : World} (h : w.CachesOnly w') (q : SetId) (s : StateId) :
    w'.setHolds q s = w.setHolds q s := by
  simp only [setHolds, h.members_eq, h.exprHolds_eq]

lemma allChecks_value (s : StateId) (es : List ExprId) (w : World) :
    (w.allChecks s es).2 = es.all fun e => w.exprHolds e s := by
  induction es generalizing w with
  | nil => rfl
  | cons e rest ih =>
      have value := checkAgainst_value (w.expr e).expression s w
      have only := cachesOnly_checkAgainst (w.expr e).expression s w
      rw [allChecks, exprCheck, List.all_cons, exprHolds]
      rcases h : w.checkAgainst (w.expr e).expression s with ⟨v, _ | _⟩
      all_goals rw [h] at value only
      · simp [← value]
      · simp only [← value, ih, only.exprHolds_eq, Bool.true_and]

/-- **To check a quality set is to check all its members.** -/
theorem setCheck_value (q : SetId) (s : StateId) (w : World) :
    (w.setCheck q s).2 = w.setHolds q s :=
  allChecks_value s _ w

/-! ## The invariant -/

/-- **Caches agree with states.**  `live` says which sets and cards this is about.  A set that is
`stale` has not yet been notified that a member has another condition. -/
structure Coherent (live : Handle → Prop) (stale : SetId → Prop) (w : World) : Prop extends
    Owned live w, Fresh w where
  /-- No result comes from the future. -/
  stamp : ∀ {q b value stamp}, (w.set q).binding = some b → (w.set q).cache = .valid value stamp →
    stamp ≤ (w.store b.state).revision
  /-- Nothing is bound to a state that does not exist yet. -/
  watched : ∀ {q b}, (w.set q).binding = some b → 0 < (w.store b.state).listeners.next
  placed : ∀ {c s}, (w.card c).binding = some s → 0 < (w.store s).listeners.next
  /-- Members are bound where their set is. -/
  bound : ∀ {q s e}, live (.set q) → w.boundTo (.set q) = some s → w.stateAlive s →
    e ∈ w.members q → w.boundTo (.expr e) = some s
  /-- A cached result of a set is right while it counts. -/
  result : ∀ {q s value}, live (.set q) → ¬ stale q → w.boundTo (.set q) = some s →
    w.stateAlive s → (w.set q).cache.get? (w.store s).revision = some value →
    value = w.setHolds q s
  /-- A set is the first listener of its members. -/
  firstListener : ∀ {q m}, live (.set q) → m ∈ (w.set q).members →
    (w.expr m.expr).listeners.entries.head? = some (m.number, .owner q)
  /-- The set of a card is bound where the card is. -/
  card : ∀ {c s}, live (.card c) → w.boundTo (.card c) = some s → w.stateAlive s →
    w.boundTo (.set (w.card c).qualities) = some s

theorem Coherent.empty : World.empty.Coherent World.empty.Alive fun _ => False := by
  have card : ∀ c, ¬ World.empty.Alive (.card c) :=
    fun c alive => absurd (CardsExist.empty.bounded alive) (Nat.not_lt_zero _)
  refine { CardsExist.empty, Fresh.empty with
           member := nofun, quality := ?_, distinct := ?_, oneSet := nofun, oneCard := ?_,
           stamp := nofun, watched := nofun, placed := nofun, bound := nofun, result := nofun,
           firstListener := nofun, card := nofun }
  · exact fun alive => absurd alive (card _)
  · exact fun _ => List.nodup_nil
  · exact fun alive => absurd alive (card _)

/-! ## Changes of one object -/

section
variable {live : Handle → Prop} {stale stale' : SetId → Prop} {w : World}

lemma boundTo_onExpr (e other : ExprId) (f : ExprNode → ExprNode) :
    (w.onExpr e f).boundTo (.expr other) =
      if e = other then (f (w.expr e)).binding.map (·.state) else w.boundTo (.expr other) := by
  rw [boundTo, expr_onExpr]
  split
  · next eq => rw [eq]
  · rfl

lemma boundTo_onSet (q other : SetId) (f : SetNode → SetNode) :
    (w.onSet q f).boundTo (.set other) =
      if q = other then (f (w.set q)).binding.map (·.state) else w.boundTo (.set other) := by
  rw [boundTo, set_onSet]
  split
  · next eq => rw [eq]
  · rfl

/-- **A change of an expression.**  It has to leave the expression bound where its set is, listened
to first by its set, and with a right result; a set with another member condition is stale. -/
lemma Coherent.onExpr (h : w.Coherent live stale) (e : ExprId) {f : ExprNode → ExprNode}
    (fresh : (w.onExpr e f).Fresh)
    (bound : ∀ {q s}, live (.set q) → w.boundTo (.set q) = some s → w.stateAlive s →
      e ∈ w.members q → (f (w.expr e)).binding.map (·.state) = some s)
    (firstListener : ∀ {q m}, live (.set q) → m ∈ (w.set q).members → m.expr = e →
      (f (w.expr e)).listeners.entries.head? = some (m.number, .owner q))
    (same : ∀ {q}, ¬ stale' q → ¬ stale q ∧
      (e ∈ w.members q → (f (w.expr e)).expression = (w.expr e).expression)) :
    (w.onExpr e f).Coherent live stale' := by
  have holds : ∀ {other s}, (e = other → (f (w.expr e)).expression = (w.expr e).expression) →
      (w.onExpr e f).exprHolds other s = w.exprHolds other s := by
    intro other s eq
    rw [exprHolds, exprHolds, expr_onExpr]
    split
    · next here =>
        subst here
        rw [eq rfl]
        rfl
    · rfl
  refine { h.toOwned.tighten (tighter_onExpr e f), fresh with
           stamp := h.stamp, watched := h.watched, placed := h.placed, bound := ?_,
           result := ?_, firstListener := ?_, card := h.card }
  · intro q s other hq hs alive mem
    rw [boundTo_onExpr]
    split
    · next here => exact bound hq hs alive (here ▸ mem)
    · exact h.bound hq hs alive mem
  · intro q s value hq fresh hs alive cached
    obtain ⟨was, eq⟩ := same fresh
    rw [h.result hq was hs alive cached]
    symm
    refine setHolds_congr rfl fun other mem => ?_
    exact holds fun here => eq (here ▸ mem)
  · intro q m hq mem
    rw [expr_onExpr]
    split
    · next here =>
        rw [← here]
        exact firstListener hq mem here.symm
    · exact h.firstListener hq mem

/-- **A change of a quality set.**  It has to leave its members bound where it is, itself bound
where its card is, and its result right unless the set is stale. -/
lemma Coherent.onSet (h : w.Coherent live stale) (q : SetId) {f : SetNode → SetNode}
    (owned : (w.onSet q f).Owned live)
    (stamp : ∀ {b value stamp}, (f (w.set q)).binding = some b →
      (f (w.set q)).cache = .valid value stamp → stamp ≤ (w.store b.state).revision)
    (watched : ∀ {b}, (f (w.set q)).binding = some b → 0 < (w.store b.state).listeners.next)
    (bound : ∀ {s e}, live (.set q) → (f (w.set q)).binding.map (·.state) = some s →
      w.stateAlive s →
      e ∈ (f (w.set q)).members.map (·.expr) → w.boundTo (.expr e) = some s)
    (result : ∀ {s value}, live (.set q) → ¬ stale' q →
      (f (w.set q)).binding.map (·.state) = some s → w.stateAlive s →
      (f (w.set q)).cache.get? (w.store s).revision = some value →
      value = ((f (w.set q)).members.map (·.expr)).all fun e => w.exprHolds e s)
    (firstListener : ∀ {m}, live (.set q) → m ∈ (f (w.set q)).members →
      (w.expr m.expr).listeners.entries.head? = some (m.number, .owner q))
    (card : ∀ {c s}, live (.card c) → (w.card c).qualities = q → w.boundTo (.card c) = some s →
      w.stateAlive s → (f (w.set q)).binding.map (·.state) = some s)
    (others : ∀ {other}, q ≠ other → ¬ stale' other → ¬ stale other) :
    (w.onSet q f).Coherent live stale' := by
  have members : ∀ {other}, (w.onSet q f).members other =
      if q = other then (f (w.set q)).members.map (·.expr) else w.members other := by
    intro other
    rw [World.members, set_onSet]
    split
    · next here => rw [here]
    · rfl
  refine { owned with
           right := h.right, stamp := ?_, watched := ?_, placed := h.placed, bound := ?_,
           result := ?_, firstListener := ?_, card := ?_ }
  · intro other b value stamp' binding cache
    rw [set_onSet] at binding cache
    split at binding
    · next here =>
        subst here
        rw [if_pos rfl] at cache
        exact stamp binding cache
    · next elsewhere =>
        rw [if_neg elsewhere] at cache
        exact h.stamp binding cache
  · intro other b binding
    rw [set_onSet] at binding
    split at binding
    · next here =>
        subst here
        exact watched binding
    · exact h.watched binding
  · intro other s e hq hs alive mem
    rw [boundTo_onSet] at hs
    rw [members] at mem
    split at hs
    · next here =>
        subst here
        rw [if_pos rfl] at mem
        exact bound hq hs alive mem
    · next elsewhere =>
        rw [if_neg elsewhere] at mem
        exact h.bound hq hs alive mem
  · intro other s value hq fresh hs alive cached
    rw [boundTo_onSet] at hs
    rw [set_onSet] at cached
    rw [setHolds, members]
    split at hs
    · next here =>
        subst here
        rw [if_pos rfl] at cached ⊢
        exact result hq fresh hs alive cached
    · next elsewhere =>
        rw [if_neg elsewhere] at cached ⊢
        exact h.result hq (others elsewhere fresh) hs alive cached
  · intro other m hq mem
    rw [set_onSet] at mem
    split at mem
    · next here =>
        subst here
        exact firstListener hq mem
    · exact h.firstListener hq mem
  · intro c s hc hs alive
    rw [boundTo_onSet]
    split
    · next here => exact card hc here.symm hs alive
    · exact h.card hc hs alive

/-- **A change of a card.**  It has to leave the card bound where its set is. -/
lemma Coherent.onCard (h : w.Coherent live stale) (c : CardId) {f : CardNode → CardNode}
    (owned : (w.onCard c f).Owned live)
    (placed : ∀ {s}, (f (w.card c)).binding = some s → 0 < (w.store s).listeners.next)
    (card : ∀ {s}, live (.card c) → (f (w.card c)).binding = some s → w.stateAlive s →
      w.boundTo (.set (f (w.card c)).qualities) = some s) :
    (w.onCard c f).Coherent live stale := by
  refine { owned with
           right := h.right, stamp := h.stamp, watched := h.watched, placed := ?_, bound := h.bound,
           result := h.result, firstListener := h.firstListener, card := ?_ }
  · intro other s binding
    rw [card_onCard] at binding
    split at binding
    · next here =>
        subst here
        exact placed binding
    · exact h.placed binding
  · intro other s hc hs alive
    have hs : ((w.onCard c f).card other).binding = some s := hs
    rw [card_onCard] at hs ⊢
    split at hs
    · next here =>
        subst here
        rw [if_pos rfl]
        exact card hc hs alive
    · next elsewhere =>
        rw [if_neg elsewhere]
        exact h.card hc hs alive

/-- **A change of a state.**  With other contents the state has to come to a new revision. -/
lemma Coherent.onStore (h : w.Coherent live stale) (s : StateId) {f : Store → Store}
    (next : (w.store s).listeners.next ≤ (f (w.store s)).listeners.next)
    (revision : (w.store s).revision ≤ (f (w.store s)).revision)
    (contents : (f (w.store s)).revision = (w.store s).revision →
      (f (w.store s)).contents = (w.store s).contents) :
    (w.onStore s f).Coherent live stale := by
  have later : ∀ other, (w.store other).revision ≤ ((w.onStore s f).store other).revision := by
    intro other
    rw [store_onStore]
    split
    · next here => exact here ▸ revision
    · exact Nat.le_refl _
  have nexts : ∀ other, (w.store other).listeners.next ≤
      ((w.onStore s f).store other).listeners.next := by
    intro other
    rw [store_onStore]
    split
    · next here => exact here ▸ next
    · exact Nat.le_refl _
  have holds : ∀ {e other}, ((w.onStore s f).store other).revision = (w.store other).revision →
      (w.onStore s f).exprHolds e other = w.exprHolds e other := by
    intro e other same
    have kept : ((w.onStore s f).store other).contents = (w.store other).contents := by
      rw [store_onStore] at same ⊢
      split at same
      · next here =>
          subst here
          rw [if_pos rfl]
          exact contents same
      · next elsewhere => rw [if_neg elsewhere]
    have look : ((w.onStore s f).store other).get? = (w.store other).get? := by
      funext key
      rw [Store.get?, Store.get?, kept]
    rw [exprHolds, exprHolds, look]
    rfl
  refine { h.toOwned.tighten (tighter_onStore s f), h.toFresh.onStore s revision contents with
           stamp := ?_, watched := ?_, placed := ?_, bound := h.bound, result := ?_,
           firstListener := h.firstListener, card := h.card }
  · intro q b value stamp binding cache
    exact Nat.le_trans (h.stamp binding cache) (later _)
  · intro q b binding
    exact Nat.lt_of_lt_of_le (h.watched binding) (nexts _)
  · intro c other binding
    exact Nat.lt_of_lt_of_le (h.placed binding) (nexts _)
  · intro q other value hq fresh hs alive cached
    have same : ((w.onStore s f).store other).revision = (w.store other).revision := by
      obtain ⟨b, binding, rfl⟩ := Option.map_eq_some_iff.1 hs
      have cache : (w.set q).cache = .valid value _ := Cache.get?_eq_some.1 cached
      exact Nat.le_antisymm (h.stamp binding cache) (later _)
    rw [same] at cached
    rw [h.result hq fresh hs alive cached]
    symm
    refine setHolds_congr rfl fun e _ => ?_
    exact holds same

/-- A change of a deck. -/
lemma Coherent.onDeck (h : w.Coherent live stale) (d : DeckId) {f : DeckNode → DeckNode}
    (owned : (w.onDeck d f).Owned live) : (w.onDeck d f).Coherent live stale :=
  { owned with
    right := h.right, stamp := h.stamp, watched := h.watched, placed := h.placed, bound := h.bound,
    result := h.result, firstListener := h.firstListener, card := h.card }

lemma Coherent.record (h : w.Coherent live stale) (event : Event) :
    (w.record event).Coherent live stale :=
  { h.toOwned.tighten (cachesOnly_record event w).bindingsOnly.tighter with
    right := h.right, stamp := h.stamp, watched := h.watched, placed := h.placed, bound := h.bound,
    result := h.result, firstListener := h.firstListener, card := h.card }

lemma Coherent.note (h : w.Coherent live stale) (n : Note) : (w.note n).Coherent live stale :=
  h.record _

/-- **What a world looks like matters**, not how it is put down.  A state that nobody ever listened
to may come alive. -/
lemma Coherent.alike {w' : World} (h : w.Coherent live stale) (owned : w'.Owned live)
    (store : ∀ s, w'.store s = w.store s) (expr : ∀ e, w'.expr e = w.expr e)
    (set : ∀ q, w'.set q = w.set q) (card : ∀ c, w'.card c = w.card c)
    (alive : ∀ s, w'.stateAlive s → w.stateAlive s ∨ (w.store s).listeners.next = 0) :
    w'.Coherent live stale := by
  have members : ∀ q, w'.members q = w.members q := fun q => by rw [members, members, set]
  have holds : ∀ e s, w'.exprHolds e s = w.exprHolds e s := fun e s => by
    rw [exprHolds, exprHolds, expr, store]
  have stillSet : ∀ {q s}, w.boundTo (.set q) = some s → w'.stateAlive s → w.stateAlive s := by
    intro q s bound now
    obtain ⟨b, binding, rfl⟩ := Option.map_eq_some_iff.1 bound
    exact (alive _ now).resolve_right (Nat.ne_of_gt (h.watched binding))
  refine { owned, h.toFresh.alike store expr with
           stamp := ?_, watched := ?_, placed := ?_, bound := ?_, result := ?_,
           firstListener := ?_, card := ?_ }
  · intro q b value stamp
    rw [set, store]
    exact h.stamp
  · intro q b
    rw [set, store]
    exact h.watched
  · intro c s
    rw [card, store]
    exact h.placed
  · intro q s e hq bound now mem
    rw [boundTo, set] at bound
    rw [members] at mem
    rw [boundTo, expr]
    exact h.bound hq bound (stillSet bound now) mem
  · intro q s value hq fresh bound now cached
    rw [boundTo, set] at bound
    rw [set, store] at cached
    rw [h.result hq fresh bound (stillSet bound now) cached, setHolds, setHolds, members]
    simp only [holds]
  · intro q m hq
    rw [set, expr]
    exact h.firstListener hq
  · intro c s hc bound now
    rw [boundTo, card] at bound
    rw [boundTo, set, card]
    exact h.card hc bound ((alive s now).resolve_right (Nat.ne_of_gt (h.placed bound)))

/-- It may be about fewer sets and cards, and more sets may be stale. -/
lemma Coherent.mono {live' : Handle → Prop} (h : w.Coherent live stale)
    (sub : ∀ x, live' x → live x) (more : ∀ q, stale q → stale' q) : w.Coherent live' stale' :=
  { h.toOwned.mono fun _ => sub _ with
    right := h.right, stamp := h.stamp, watched := h.watched, placed := h.placed
    bound := fun hq => h.bound (sub _ hq)
    result := fun hq fresh => h.result (sub _ hq) fun was => fresh (more _ was)
    firstListener := fun hq => h.firstListener (sub _ hq)
    card := fun hc => h.card (sub _ hc) }

/-! ## Forgetting and passing on -/

/-- A change of an expression's cache that leaves no result there, or of its gate. -/
lemma Coherent.invalidateExpr (h : w.Coherent live stale) (e : ExprId) :
    (w.invalidateExpr e).Coherent live stale := by
  refine h.onExpr e (h.toFresh.keepExpr e (.forgotten (Cache.invalidate_ne _))) h.bound ?_ ?_
  · rintro q m hq mem rfl
    exact h.firstListener hq mem
  · exact fun fresh => ⟨fresh, fun _ => rfl⟩

/-- **A set without a cached result is not stale any more.** -/
lemma Coherent.emptySet (h : w.Coherent live stale) (q : SetId) {f : Cache → Cache}
    (none : ∀ c revision, (f c).get? revision = none) :
    (w.onSet q fun n => { n with cache := f n.cache }).Coherent live
      fun other => stale other ∧ q ≠ other := by
  refine h.onSet q ?_ ?_ h.watched h.bound ?_ h.firstListener ?_ ?_
  · exact h.toOwned.tighten (tighter_onSet q fun _ => .refl _)
  · intro b value stamp _ cache
    have cached := none (w.set q).cache stamp
    rw [Cache.get?_eq_some.2 cache] at cached
    cases cached
  · intro s value _ _ _ _ cached
    rw [none] at cached
    cases cached
  · rintro c s hc rfl hs alive
    exact h.card hc hs alive
  · exact fun elsewhere fresh was => fresh ⟨was, elsewhere⟩

lemma Coherent.invalidateSet (h : w.Coherent live stale) (q : SetId) :
    (w.invalidateSet q).Coherent live fun other => stale other ∧ q ≠ other :=
  h.emptySet q Cache.get?_invalidate

lemma Coherent.admitExpr (h : w.Coherent live stale) (e : ExprId) (cause : Option Nat) :
    (w.onExpr e fun n => { n with gate := n.gate.after cause }).Coherent live stale := by
  refine h.onExpr e (h.toFresh.keepExpr e (.same rfl rfl rfl)) h.bound ?_ ?_
  · rintro q m hq mem rfl
    exact h.firstListener hq mem
  · exact fun fresh => ⟨fresh, fun _ => rfl⟩

/-- What does not matter to a quality set's result: its gate, its listeners, and whether it has been
disposed of. -/
lemma Coherent.keepSet (h : w.Coherent live stale) (q : SetId) {f : SetNode → SetNode}
    (same : ∀ n, f n = { n with
      gate := (f n).gate, listeners := (f n).listeners, disposed := (f n).disposed }) :
    (w.onSet q f).Coherent live stale := by
  have members : ∀ n, (f n).members = n.members := fun n => by rw [same]
  have binding : (f (w.set q)).binding = (w.set q).binding := by rw [same]
  have cache : (f (w.set q)).cache = (w.set q).cache := by rw [same]
  refine h.onSet q ?_ ?_ ?_ ?_ ?_ ?_ ?_ fun _ => id
  · exact h.toOwned.tighten (tighter_onSet q fun n => by simp only [members, List.Sublist.refl])
  · rw [binding, cache]
    exact h.stamp
  · rw [binding]
    exact h.watched
  · rw [binding, members]
    exact h.bound
  · rw [binding, cache, members]
    exact h.result
  · rw [members]
    exact h.firstListener
  · rw [binding]
    rintro c s hc rfl hs alive
    exact h.card hc hs alive

/-- What does not matter to a card's result. -/
lemma Coherent.keepCard (h : w.Coherent live stale) (c : CardId) {f : CardNode → CardNode}
    (qualities : ∀ n, (f n).qualities = n.qualities) (binding : ∀ n, (f n).binding = n.binding) :
    (w.onCard c f).Coherent live stale := by
  refine h.onCard c (h.toOwned.tighten (tighter_onCard c qualities)) ?_ ?_
  · rw [binding]
    exact h.placed
  · rw [binding, qualities]
    exact h.card

/-! ## Reading -/

/-- **The result of an expression is right.** -/
lemma Coherent.exprResult_value (h : w.Coherent live stale) {e : ExprId} {s : StateId}
    (bound : w.boundTo (.expr e) = some s) (alive : w.stateAlive s) :
    (w.exprResult e).2 = .ok (w.exprHolds e s) :=
  h.toFresh.exprResult_value (boundState_ok.2 ⟨bound, alive⟩)

lemma Coherent.check (h : w.Coherent live stale) (e : Expression) (s : StateId) :
    (w.checkAgainst e s).1.Coherent live stale := by
  rw [checkAgainst]
  split
  · exact h
  · exact h.note _

/-- To read an expression leaves all caches right. -/
lemma Coherent.readExpr (h : w.Coherent live stale) (e : ExprId) :
    (w.exprResult e).1.Coherent live stale := by
  have fresh := (onward_exprResult e w).fresh h.toFresh
  rw [exprResult] at fresh ⊢
  split
  · exact h
  · next s state =>
      have checked := h.check (w.expr e).expression s
      rw [state] at fresh
      dsimp only at fresh ⊢
      split
      · exact h
      · next stale =>
          rw [stale] at fresh
          refine checked.onExpr e fresh checked.bound ?_ fun was => ⟨was, fun _ => rfl⟩
          rintro q m hq mem rfl
          exact checked.firstListener hq mem

/-- The members of a set are all right. -/
lemma Coherent.allResults_value (h : w.Coherent live stale) {s : StateId} (alive : w.stateAlive s)
    {es : List ExprId} (bound : ∀ e ∈ es, w.boundTo (.expr e) = some s) :
    (w.allResults es).2 = .ok (es.all fun e => w.exprHolds e s) := by
  induction es generalizing w with
  | nil => rfl
  | cons e rest ih =>
      have value := h.exprResult_value (bound e List.mem_cons_self) alive
      have next := h.readExpr e
      have only := cachesOnly_exprResult e w
      rw [allResults, List.all_cons]
      rcases read : w.exprResult e with ⟨v, fault | _ | _⟩
      all_goals rw [read] at value next only
      all_goals simp only [Except.ok.injEq, reduceCtorEq] at value
      · rw [← value]
        rfl
      · have elsewhere : ∀ e ∈ rest, v.boundTo (.expr e) = some s := by
          intro other mem
          rw [boundTo, only.expr other]
          exact bound other (List.mem_cons_of_mem _ mem)
        rw [← value, ih next (by rwa [only.stateAlive_eq]) elsewhere]
        simp only [only.exprHolds_eq, Bool.true_and]

lemma Coherent.readAll (h : w.Coherent live stale) (es : List ExprId) :
    (w.allResults es).1.Coherent live stale := by
  induction es generalizing w with
  | nil => exact h
  | cons e rest ih =>
      have next := h.readExpr e
      rw [allResults]
      rcases read : w.exprResult e with ⟨v, fault | _ | _⟩
      all_goals rw [read] at next
      · exact next
      · exact next
      · exact ih next

/-- **The result of a quality set is right**: it is the conjunction over the members. -/
theorem Coherent.setResult_value (h : w.Coherent live stale) {q : SetId} {s : StateId}
    (hq : live (.set q)) (fresh : ¬ stale q) (bound : w.boundTo (.set q) = some s)
    (alive : w.stateAlive s) : (w.setResult q).2 = .ok (w.setHolds q s) := by
  have state : w.setState q = .ok s := boundState_ok.2 ⟨bound, alive⟩
  have value := h.allResults_value alive fun e mem => h.bound hq bound alive mem
  rw [setResult, state]
  dsimp only
  split
  · next cached => rw [h.result hq fresh bound alive cached]
  · rcases read : w.allResults (w.members q) with ⟨v, fault | value'⟩
    all_goals rw [read] at value
    · cases value
    · exact value

/-- To read a quality set leaves all caches right. -/
lemma Coherent.readSet (h : w.Coherent live stale) (q : SetId) :
    (w.setResult q).1.Coherent live stale := by
  rw [setResult]
  split
  · exact h
  · next s state =>
      obtain ⟨bound, alive⟩ := boundState_ok.1 state
      have next := h.readAll (w.members q)
      have only := cachesOnly_allResults (w.members q) w
      dsimp only
      split
      · exact h
      · rcases read : w.allResults (w.members q) with ⟨v, fault | value'⟩
        all_goals rw [read] at next only
        · exact next
        · have same : (v.set q).binding = (w.set q).binding := by rw [only.set q]
          refine next.onSet q ?_ ?_ next.watched next.bound ?_ next.firstListener ?_ fun _ => id
          · exact next.toOwned.tighten (tighter_onSet q fun _ => .refl _)
          · intro b value stamp binding cache
            obtain ⟨rfl, rfl⟩ := Cache.store_eq_valid cache
            have binding : (v.set q).binding = some b := binding
            rw [same] at binding
            rw [binding] at bound
            obtain rfl := Option.some.inj bound
            exact Nat.le_of_eq (by rw [only.store_eq])
          · intro s' value hq fresh bound' alive' cached
            obtain ⟨rfl, -⟩ := Cache.store_eq_valid (Cache.get?_eq_some.1 cached)
            have bound' : (v.set q).binding.map (·.state) = some s' := bound'
            rw [same, bound] at bound'
            obtain rfl := Option.some.inj bound'
            have expected := h.allResults_value alive fun e mem => h.bound hq bound alive mem
            rw [read] at expected
            rw [Except.ok.inj expected]
            exact (only.setHolds_eq q s).symm
          · rintro c s' hc rfl bound' alive'
            exact next.card hc bound' alive'

end

end StoryEngine.World
