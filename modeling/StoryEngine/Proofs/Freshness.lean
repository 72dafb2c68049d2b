import StoryEngine.Proofs.Edited
import StoryEngine.Proofs.Performing

/-!
# No stale reads

Whatever the caches hold, to read a quality set or a card that is bound to a state gives the
conjunction over the present members in the present contents of the state.  This is so whenever a
step is performed: at the top of a script, inside an open batch, or in the middle of a round.

All that is asked of a run is that nodes which have an owner are bound, released, disposed of and
cleared of listeners through their owner only.

* `Rule.owned` — the rule about nodes that have an owner.
* **`World.Coherent.engineStep`** — engine steps under this rule keep caches right.
* `Preserved.coherent` — so does the engine.
* **`World.truthResult_of_meets`** — no stale reads.
-/

namespace StoryEngine

open World

/-! ## The rule -/

/-- Whether a node is nobody's: no expression that a quality set has, and no quality set that a card
has. -/
def World.Independent (w : World) : NodeId → Prop
  | .expr e => Unowned w.Alive w e
  | .set q => ∀ c, w.Alive (.card c) → (w.card c).qualities ≠ q
  | .card _ => True
  | .deck _ => True

lemma World.independent_hold {w : World} {hs : List Handle} (rooted : ∀ h ∈ hs, w.isRooted h)
    {n : NodeId} (h : w.Independent n) : (w.hold hs).Independent n := by
  have alive : ∀ {x}, (w.hold hs).Alive x → w.Alive x :=
    (alive_hold fun x mem => .root (rooted x mem)).1
  cases n with
  | expr e => exact fun q hq => h q (alive hq)
  | set q => exact fun c hc => h c (alive hc)
  | card => trivial
  | deck => trivial

/-- What is nobody's can be bound, released and disposed of by itself. -/
lemma World.Independent.movable {w : World} {n : NodeId} (free : w.Independent n)
    (alive : w.Alive n.handle) : Movable w.Alive w n := by
  cases n with
  | expr e => exact free
  | set q => exact fun c _ hc _ _ => free c hc
  | card c => exact alive
  | deck d => exact fun c mem => .card mem alive

/-- The node that an emitter is, if it is one. -/
def Emitter.node? : Emitter → Option NodeId
  | .state _ => none
  | .expr e => some (.expr e)
  | .set q => some (.set q)
  | .card c => some (.card c)
  | .deck d => some (.deck d)
  | .board _ => none

/-- **The rule about nodes that have an owner**: members of a quality set and the quality set of a
card are not bound, released, disposed of or cleared of listeners through handles of their own. -/
def Rule.owned : Rule where
  direct w n := w.Independent n
  clears w em := ∀ n ∈ em.node?, w.Independent n
  enters _ _ _ := True
  deck _ _ := trivial
  direct_hold rooted h := independent_hold rooted h
  clears_hold rooted h n mem := independent_hold rooted (h n mem)
  enters_hold _ _ := trivial

namespace World

variable {stale : SetId → Prop} {w v : World}

/-! ## What engine steps leave alive -/

/-- After an engine step by which nobody owns anything new, nothing new is alive. -/
lemma Coherent.tightened (h : v.Coherent w.Alive stale) (owned : w.Owned w.Alive)
    (t : w.Tighter (fun c => w.Alive (.card c)) v) : v.Coherent v.Alive stale :=
  h.mono (fun _ after => t.alive owned (fun _ => id) after) fun _ => id

/-- After an engine step by which something new was made, which is held on to, that is alive too,
and what it owns. -/
lemma Coherent.made {more : CardId → Prop} {new : Handle}
    (h : v.Coherent (w.Within more) stale) (was : w.CardsExist) (onward : w.Onward v)
    (wider : w.Wider (fun c => w.Alive (.card c)) (v.hold [new])) (within : w.Within more new)
    (exist : ∀ c, new = .card c → c.place < v.cards.size)
    (noListeners : ∀ s, new = .state s ∨ new = .batch s → (v.store s).listeners.next = 0)
    (sets : ∀ c, more c → w.sets.size ≤ (v.card c).qualities.place) :
    (v.hold [new]).Coherent (v.hold [new]).Alive stale := by
  have rooted : ∀ {x}, (v.hold [new]).isRooted x → w.Alive x ∨ x = new := by
    intro x root
    rcases isRooted_hold.1 root with mem | root
    · exact .inr (List.mem_singleton.1 mem)
    · rw [onward.isRooted_eq] at root
      exact .inl (.root root)
  show (v.withRoots v.names ([new] ++ v.held)).Coherent (v.hold [new]).Alive stale
  refine Coherent.mono (h.withRoots ?_ ?_) ?_ fun _ => id
  · intro c root
    rcases rooted root with alive | eq
    · exact Nat.lt_of_lt_of_le (was.bounded alive) wider.cards
    · exact exist c eq.symm
  · intro s alive
    have same : v.stateAlive s = w.stateAlive s := by
      rw [stateAlive, stateAlive, onward.isRooted_eq, onward.isRooted_eq]
    rw [same, stateAlive_iff]
    rcases Bool.or_eq_true_iff.1 alive with root | root
    · rcases rooted root with was | eq
      · exact .inl was
      · exact .inr (noListeners s (.inl eq.symm))
    · rcases rooted root with was | eq
      · exact .inl (.state was)
      · exact .inr (noListeners s (.inr eq.symm))
  · intro x after
    refine wider.alive was ?_ sets after
    intro y root
    rcases rooted root with was | rfl
    · exact .inl was
    · exact within

/-- What does not exist yet has nothing that could be wrong. -/
lemma Coherent.within (h : w.Coherent w.Alive stale) :
    w.Coherent (w.Within fun _ => False) stale := by
  have new : ∀ {q}, w.Within (fun _ => False) (.set q) → w.Alive (.set q) ∨ w.set q = .new := by
    rintro q (alive | fresh | ⟨_, eq, _⟩)
    · exact .inl alive
    · exact .inr (Table.get_of_size_le fresh)
    · cases eq
  refine { h.toOwned.mono fun _ => within_card with
           right := h.right, stamp := h.stamp, watched := h.watched, placed := h.placed,
           bound := ?_, result := ?_, firstListener := ?_,
           card := fun hc => h.card (within_card hc) }
  · intro q s e hq bound alive mem
    rcases new hq with hq | none
    · exact h.bound hq bound alive mem
    · rw [boundTo, none] at bound
      cases bound
  · intro q s value hq fresh bound alive cached
    rcases new hq with hq | none
    · exact h.result hq fresh bound alive cached
    · rw [boundTo, none] at bound
      cases bound
  · intro q m hq mem
    rcases new hq with hq | none
    · exact h.firstListener hq mem
    · rw [none] at mem
      cases mem

/-- After an engine step by which owners gained what is new, only that is alive besides. -/
lemma Coherent.widened (h : v.Coherent (w.Within fun _ => False) stale) (was : w.CardsExist)
    (wider : w.Wider (fun c => w.Alive (.card c)) v) (onward : w.Onward v) :
    v.Coherent v.Alive stale := by
  refine h.mono (fun x after => wider.alive was ?_ nofun after) fun _ => id
  intro y root
  rw [onward.isRooted_eq] at root
  exact .inl (.root root)

lemma mem_of_placeOf? {d : DeckId} {hash : CardHash} {index : Nat} {entry : Entry}
    (found : w.placeOf? d hash = some (index, entry)) : entry.card ∈ (w.deck d).cards := by
  rw [placeOf?] at found
  obtain ⟨i, -, found⟩ := Option.bind_eq_some_iff.1 found
  obtain ⟨entry', at_, eq⟩ := Option.map_eq_some_iff.1 found
  obtain ⟨-, rfl⟩ := Prod.mk.inj eq
  exact List.mem_map_of_mem (List.mem_of_getElem? at_)

/-- To read is to change nothing that matters to life. -/
lemma Coherent.read (h : v.Coherent w.Alive stale) (only : w.CachesOnly v) :
    v.Coherent v.Alive stale :=
  h.mono (fun _ => only.alive.1) fun _ => id

/-- **Names and holds that keep alive only what is alive anyway** leave all caches right. -/
lemma Coherent.rerooted (h : w.Coherent w.Alive stale) {names : List (String × Object)}
    {held : List Handle} (rooted : ∀ x, (w.withRoots names held).isRooted x → w.Alive x) :
    (w.withRoots names held).Coherent (w.withRoots names held).Alive stale := by
  refine Coherent.mono (h.withRoots ?_ ?_) (fun x => Alive.of_roots rooted) fun _ => id
  · exact fun c root => h.bounded (rooted _ root)
  · intro s alive
    rw [stateAlive_iff]
    exact .inl (Alive.of_roots rooted (stateAlive_iff.1 alive))

/-- To hold on to what is alive leaves all caches right. -/
lemma Coherent.hold (h : w.Coherent w.Alive stale) {hs : List Handle}
    (alive : ∀ x ∈ hs, w.Alive x) :
    (w.hold hs).Coherent (w.hold hs).Alive stale :=
  h.rerooted fun _ root => (alive_hold alive).1 (.root root)

/-! ## Engine steps -/

/-- **Engine steps keep caches right.** -/
theorem Coherent.engineStep (h : w.Coherent w.Alive fun _ => False) (numbered : w.Numbered)
    (engineStep : EngineStep Rule.owned w v) : v.Coherent v.Alive fun _ => False := by
  have owned := h.toOwned
  have exist := h.toCardsExist
  have wider := engineStep.wider
  cases engineStep with
  | record event _ => exact (h.record event).read (cachesOnly_record event w)
  | roots names held granted => exact h.rerooted fun _ => granted.root
  | amend s contents _ => exact (h.amend s contents).tightened owned (tighter_amend s contents w)
  | enter s alive =>
      have held : (w.hold [.batch s]).Coherent _ _ :=
        h.hold fun _ mem => List.mem_singleton.1 mem ▸ .batch alive
      exact (held.enterBatch s).tightened held.toOwned (tighter_enterBatch s _)
  | shut s names held granted =>
      have rerooted : (w.withRoots names held).Coherent _ _ := h.rerooted fun _ => granted.root
      exact (rerooted.shut s).tightened rerooted.toOwned (tighter_shut s _)
  | newState =>
      refine h.within.addStore.made exist (onward_addStore w) wider (.inr (.inl (Nat.le_refl _)))
        (fun _ eq => by cases eq) ?_ fun _ none => none.elim
      rintro s (eq | eq)
      · obtain rfl := Handle.state.inj eq
        rw [store, Table.get_add]
        exact congrArg (fun st : Store => st.listeners.next) (if_pos rfl)
      · cases eq
  | newBoard =>
      have added : ({ w with boards := w.boards.add .empty } : World).Coherent _ _ :=
        h.within.alike (h.within.toOwned.tighten { (Tighter.refl w : w.Tighter _ w) with })
          (fun _ => rfl) (fun _ => rfl) (fun _ => rfl) (fun _ => rfl) fun _ => .inl
      refine added.made exist (onward_addBoard w) wider (.inr (.inl (Nat.le_refl _)))
        (fun _ eq => by cases eq) ?_ fun _ none => none.elim
      rintro s (eq | eq) <;> cases eq
  | newExpr cond state alive =>
      refine (h.within.newExpr cond state).made exist (onward_newExpr cond state w) wider ?_
        (fun _ eq => by cases eq) ?_ fun _ none => none.elim
      · rw [newExpr_id]
        exact .inr (.inl (Nat.le_refl _))
      · rintro s (eq | eq) <;> cases eq
  | newSet conds state alive =>
      refine (h.within.newSet conds state).made exist (onward_newSet conds state w) wider
        (.inr (.inl (Nat.le_refl _))) (fun _ eq => by cases eq) ?_ fun _ none => none.elim
      rintro s (eq | eq) <;> cases eq
  | newCard hash content conds state alive =>
      have card :=
        h.within.newCard (fun c hc => exist.bounded (within_card hc)) hash content conds state
      have itself : ∀ x, w.Within (· = ⟨w.cards.size⟩) x →
          w.Within (fun _ => False) x ∨ x = .card ⟨w.cards.size⟩ := by
        rintro x (alive | fresh | ⟨c, rfl, rfl⟩)
        · exact .inl (.inl alive)
        · exact .inl (.inr (.inl fresh))
        · exact .inr rfl
      rw [newCard_id] at wider ⊢
      refine (card.mono itself fun _ => id).made exist (onward_newCard hash content conds state w)
        wider (.inr (.inr ⟨_, rfl, rfl⟩)) ?_ ?_ ?_
      · rintro c eq
        rw [← Handle.card.inj eq]
        exact newCard_bound hash content conds state w
      · rintro s (eq | eq) <;> cases eq
      · rintro c rfl
        exact Nat.le_of_eq (by rw [newCard_qualities])
  | newDeck config cards state alive cardsAlive enters =>
      have new : ∀ c ∈ cards, w.Alive (.card c) := fun c mem => cardAlive_iff.1 (cardsAlive c mem)
      refine (h.within.newDeck config state (fun c mem => .inl (new c mem)) fun c mem =>
        exist.bounded (new c mem)).made exist (onward_newDeck config cards state w) wider ?_
        (fun _ eq => by cases eq) ?_ fun _ none => none.elim
      · rw [newDeck_id]
        exact .inr (.inl (Nat.le_refl _))
      · rintro s (eq | eq) <;> cases eq
  | newListener emitter name program times alive =>
      exact (h.newListener emitter name program times).tightened owned
        (tighter_newListener emitter name program times w)
  | spend l remaining left =>
      exact (h.spend l remaining).tightened owned { (Tighter.refl w : w.Tighter _ w) with }
  | unsubscribeFrom l =>
      exact (h.unsubscribeFrom numbered l).tightened owned (tighter_unsubscribeFrom _ _ w)
  | clearListeners emitter clears =>
      refine (h.clearListeners ?_).tightened owned (tighter_clearListeners emitter w)
      rintro e rfl
      exact clears (.expr e) rfl
  | readExpr e => exact (h.readExpr e).read (cachesOnly_exprResult e w)
  | readSet q => exact (h.readSet q).read (cachesOnly_setResult q w)
  | invalidateExpr e => exact (h.invalidateExpr e).read (cachesOnly_invalidateExpr e w)
  | invalidateSet q =>
      exact ((h.invalidateSet q).mono (fun _ => id) fun _ => And.left).read
        (cachesOnly_invalidateSet q w)
  | admitExpr e cause _ => exact (h.admitExpr e cause).tightened owned (tighter_onExpr _ _)
  | admitSet q cause _ =>
      exact (h.keepSet q fun _ => rfl).tightened owned (tighter_onSet q fun _ => .refl _)
  | admitCard c cause _ =>
      refine Coherent.tightened ?_ owned (tighter_onCard c fun _ => rfl)
      exact h.keepCard c (fun _ => rfl) fun _ => rfl
  | admitDeck d cause _ =>
      refine Coherent.tightened ?_ owned (tighter_onDeck d fun _ _ => .inl)
      exact h.keepDeck d fun _ => rfl
  | bind n s alive _ direct =>
      exact (h.bindNode (direct.movable alive) s).tightened owned
        (bindingsOnly_bindNode n s w).tighter
  | unbind n alive direct =>
      exact (h.unbindNode (direct.movable alive)).tightened owned
        (bindingsOnly_unbindNode n w).tighter
  | dispose n alive direct =>
      exact (h.disposeNode (direct.movable alive)).tightened owned (tighter_disposeNode n w)
  | addQuality q cond alive usable lacks =>
      have inserted := (h.within.insertQuality q cond).invalidateSet q
      refine Coherent.widened (inserted.mono (fun _ => id) ?_) exist wider
        ((onward_insertQuality q cond w).trans (onward_invalidateSet q _))
      rintro other ⟨was | here, elsewhere⟩
      · exact was
      · exact elsewhere here
  | dropMember q cond m alive found =>
      refine (h.dropMember (q := q) (m := m) ?_).tightened owned (tighter_dropMember q m w)
      exact List.mem_of_find?_eq_some found
  | replaceQualities c conds alive usable =>
      exact (h.within.replaceQualities (.inl (cardAlive_iff.1 alive)) conds).widened exist wider
        (onward_replaceQualities c conds w)
  | setContent c content =>
      refine Coherent.tightened ?_ owned (tighter_onCard c fun _ => rfl)
      exact h.keepCard c (fun _ => rfl) fun _ => rfl
  | replaceCards d cards alive cardsAlive enters =>
      have new : ∀ c ∈ cards, w.Alive (.card c) := fun c mem => cardAlive_iff.1 (cardsAlive c mem)
      refine (h.replaceCards ?_ new fun c mem => owned.bounded (new c mem)).tightened owned
        (tighter_replaceCards d w new)
      exact fun c mem => .card mem (deckAlive_iff.1 alive)
  | insertCard d c alive cardAlive usable cardUsable enters =>
      have hc := cardAlive_iff.1 cardAlive
      exact (h.insertCard d hc (owned.bounded hc)).tightened owned (tighter_insertCard d w hc)
  | takeCard d c gone kept alive cardAlive parts _ =>
      exact (h.takeCard (cardAlive_iff.1 cardAlive) parts).tightened owned
        (tighter_takeCard d c gone kept parts)
  | replaceCard d c index old alive cardAlive usable cardUsable enters found =>
      have hc := cardAlive_iff.1 cardAlive
      refine (h.replaceCard index hc (owned.bounded hc) ?_).tightened owned
        (tighter_replaceCard d index old w hc)
      refine .card (d := d) ?_ (deckAlive_iff.1 alive)
      exact mem_of_placeOf? found
  | reorder d => exact (h.reorder d).tightened owned (tighter_reorder d w)
  | pick d cards =>
      refine Coherent.tightened ?_ owned (tighter_pick d cards w)
      exact h.keepDeck d fun _ => rfl

/-! ## Notifications of another condition -/

/-- An alive set is the first that can be called when a member of it notifies its listeners. -/
lemma Coherent.first (h : w.Coherent w.Alive stale) {q : SetId} {e : ExprId} (hq : w.Alive (.set q))
    (mem : e ∈ w.members q) : ∃ k rest, w.exprEntries e = (k, .owner q) :: rest := by
  obtain ⟨m, isMember, rfl⟩ := List.mem_map.1 mem
  obtain ⟨rest, entries⟩ := List.head?_eq_some_iff.1 (h.firstListener hq isMember)
  refine ⟨m.number, rest.filter fun entry => w.exprListenerAlive entry.2, ?_⟩
  rw [exprEntries, entries, List.filter_cons_of_pos]
  exact setAlive_iff.2 hq

/-- What holds of caches while the set of an expression has yet to be notified of another
condition. -/
def Awaiting (e : ExprId) (w : World) : Prop :=
  w.Numbered ∧ w.Coherent w.Alive fun q => e ∈ w.members q

/-- If nobody who is bound has the expression, there is nothing to wait for. -/
lemma Awaiting.settled {e : ExprId} (h : Awaiting e w)
    (none : ∀ q s, w.Alive (.set q) → w.boundTo (.set q) = some s → w.stateAlive s →
      e ∉ w.members q) : w.Numbered ∧ w.Coherent w.Alive fun _ => False := by
  refine ⟨h.1, { h.2 with result := ?_ }⟩
  intro q s value hq _ bound alive cached
  exact h.2.result hq (none q s hq bound alive) bound alive cached

end World

open World in
/-- **The engine keeps caches right**, if nodes that have an owner are left to their owner. -/
theorem Preserved.coherent :
    Preserved Rule.owned (fun w => w.Numbered ∧ w.Coherent w.Alive fun _ => False) Awaiting where
  engineStep h engineStep := ⟨h.1.engineStep engineStep, h.2.engineStep h.1 engineStep⟩
  bounded h mem := h.2.bounded (alive_of_held mem)
  rewrite {w} e cond h := by
    have onward := onward_rewriteExpr e cond w
    refine ⟨h.1.later onward.toLater (Nat.le_of_eq (congrArg Table.size onward.table)), ?_⟩
    refine ((h.2.rewrite e cond).tightened h.2.toOwned (tighter_rewriteExpr e cond w)).mono
      (fun _ => id) fun q was => ?_
    exact was.resolve_left id
  skips {w e} h skips := by
    refine h.settled fun q s hq bound alive mem => ?_
    obtain ⟨k, rest, entries⟩ := h.2.first hq mem
    obtain ⟨b, binding, -⟩ := Option.map_eq_some_iff.1 (h.2.bound hq bound alive mem)
    simp [entries, binding] at skips
  fault {w e _} h fault := by
    refine h.settled fun q s hq bound alive mem => ?_
    have state : w.exprState e = .ok s := boundState_ok.2 ⟨h.2.bound hq bound alive mem, alive⟩
    rw [state] at fault
    cases fault
  read {w e} h := by
    have only := cachesOnly_exprResult e w
    refine ⟨h.1.engineStep (.readExpr e : EngineStep Rule.owned w _), ?_⟩
    refine ((h.2.readExpr e).read only).mono (fun _ => id) fun q mem => ?_
    rwa [only.members_eq]
  record {w e event} aside h := by
    have only := cachesOnly_record event w
    exact ⟨h.1.engineStep (.record event aside : EngineStep Rule.owned w _),
      (h.2.record event).read only⟩
  user {w e k l rest} h entries := by
    refine h.settled fun q s hq bound alive mem => ?_
    obtain ⟨k', rest', owned⟩ := h.2.first hq mem
    rw [entries] at owned
    cases owned
  owner {w e k q rest} h entries := by
    have hq : w.Alive (.set q) := by
      have mem : (k, ExprListener.owner q) ∈ w.exprEntries e := by
        rw [entries]
        exact List.mem_cons_self
      exact setAlive_iff.1 (List.mem_filter.1 mem).2
    have only : ∀ {q'}, w.Alive (.set q') → e ∈ w.members q' → q' = q := by
      intro q' hq' mem
      obtain ⟨k', rest', owned⟩ := h.2.first hq' mem
      rw [entries] at owned
      cases owned
      rfl
    have alive : ∀ x ∈ [Handle.set q], w.Alive x := fun x mem => List.mem_singleton.1 mem ▸ hq
    have forgotten := (h.2.hold alive).invalidateSet q
    have read := (forgotten.read (cachesOnly_invalidateSet q _))
    have numbered : (w.hold [.set q]).Numbered := h.1.withRoots w.names ([Handle.set q] ++ w.held)
    refine ⟨numbered.engineStep (.invalidateSet q : EngineStep Rule.owned _ _), ?_⟩
    refine { read with result := ?_ }
    intro q' s value hq' _ bound now cached
    refine read.result hq' ?_ bound now cached
    rintro ⟨mem, elsewhere⟩
    refine elsewhere (only ?_ mem).symm
    exact (alive_hold alive).1 ((cachesOnly_invalidateSet q _).alive.1 hq')

/-! ## No stale reads -/

/-- A node that holds or does not, among all nodes. -/
def TruthId.node : TruthId → NodeId
  | .expr e => .expr e
  | .set q => .set q
  | .card c => .card c

/-- **What a node should read as** in a state: an expression as its condition, a quality set as the
conjunction of the conditions of its members, and a card as its quality set. -/
def World.truthHolds (w : World) : TruthId → StateId → Bool
  | .expr e, s => w.exprHolds e s
  | .set q, s => w.setHolds q s
  | .card c, s => w.setHolds (w.card c).qualities s

/-- A supervisor who leaves out whatever is done to nodes directly. -/
def Supervisor.careful : Supervisor
  | .act (.node (.bind ..)), _ => none
  | .act (.node (.unbind _)), _ => none
  | .act (.node (.dispose _)), _ => none
  | .act (.handle (.clearListeners _)), _ => none
  | _, w => some w

lemma Supervisor.careful_obeys : careful.Obeys Rule.owned.allows := by
  intro step w w' passed
  unfold careful at passed
  split at passed
  · cases passed
  · cases passed
  · cases passed
  · cases passed
  · obtain rfl := Option.some.inj passed
    refine ⟨rfl, ?_⟩
    unfold Rule.allows
    split
    · simp_all
    · simp_all
    · simp_all
    · simp_all
    · exact fun _ _ _ _ => trivial
    · exact fun _ _ _ _ _ _ => trivial
    · exact fun _ _ _ _ => trivial
    · exact fun _ _ _ _ => trivial
    · trivial

/-- A set is read, and then its state changes inside a batch. -/
def changeInBatch : List Act :=
  [.state (.create "state"), .set (.create "set" ["$open"] (some "state")), .node (.result "set"),
    .state (.openBatch "state" "batch"), .state (.set "state" "open" (.scalar (.bool true)))]

end StoryEngine
