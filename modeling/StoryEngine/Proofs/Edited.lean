import Mathlib.Data.List.Nodup
import StoryEngine.Proofs.Bound
import StoryEngine.Proofs.Numbered

/-!
# Editing keeps caches right

A quality set that gets or loses a member invalidates its cache in the same stroke.  An expression
that gets another condition leaves its set stale for a moment, until the set has been notified of
it.

* `World.Coherent.rewrite` — an expression gets another condition.
* `World.Coherent.insertQuality`, `World.Coherent.dropMember` — a set gets and loses a member.
* `World.Coherent.newSet`, `World.Coherent.newCard`, `World.Coherent.replaceQualities` — new owners.
* `World.Coherent.replaceCards` and its like — the cards of a deck.
* `World.Coherent.unsubscribeFrom` — a listener goes, but the set of an expression stays its first
  listener.
-/

namespace StoryEngine.World

variable {live : Handle → Prop} {stale stale' : SetId → Prop} {w w' : World}

/-! ## Members -/

/-- **An expression gets another condition**; its set has yet to be notified of it. -/
lemma Coherent.rewrite (h : w.Coherent live stale) (e : ExprId) (cond : String) :
    (w.rewriteExpr e cond).Coherent live fun q => stale q ∨ e ∈ w.members q := by
  have fresh := h.toFresh.rewriteExpr e cond
  rw [rewriteExpr, World.invalidateExpr, onExpr_onExpr] at fresh ⊢
  refine h.onExpr e fresh h.bound ?_ ?_
  · rintro q m hq mem rfl
    exact h.firstListener hq mem
  · intro q fresh
    rw [not_or] at fresh
    exact ⟨fresh.1, fun mem => absurd mem fresh.2⟩

/-- A new expression is nobody's. -/
lemma Coherent.unowned_new (h : w.Coherent live stale) : Unowned live w ⟨w.exprs.size⟩ :=
  fun _ _ mem => absurd (h.member mem) (Nat.lt_irrefl _)

lemma Coherent.addExpr (h : w.Coherent live stale) (cond : String) :
    ({ w with exprs := w.exprs.add (.new cond) } : World).Coherent live stale := by
  have read : ∀ e : ExprId, ({ w with exprs := w.exprs.add (.new cond) } : World).expr e =
      if e.place = w.exprs.size then .new cond else w.expr e := fun e => Table.get_add _ _ _
  have member : ∀ {q e}, e ∈ w.members q →
      ({ w with exprs := w.exprs.add (.new cond) } : World).expr e = w.expr e := by
    intro q e mem
    rw [read, if_neg (Nat.ne_of_lt (h.member mem))]
  refine { h.toOwned.tighten ?_, h.toFresh.addExpr cond with
           stamp := h.stamp, watched := h.watched, placed := h.placed, bound := ?_,
           result := ?_, firstListener := ?_, card := h.card }
  · refine { (Tighter.refl w : w.Tighter _ w) with exprs := ?_ }
    rw [Table.size_add]
    exact Nat.le_succ _
  · intro q s e hq bound alive mem
    rw [boundTo, member mem]
    exact h.bound hq bound alive mem
  · intro q s value hq fresh bound alive cached
    rw [h.result hq fresh bound alive cached]
    symm
    refine setHolds_congr rfl fun e mem => ?_
    rw [exprHolds, member mem]
    rfl
  · intro q m hq mem
    rw [member (q := q) (List.mem_map_of_mem mem)]
    exact h.firstListener hq mem

lemma Coherent.newExpr (h : w.Coherent live stale) (cond : String) (state : Option StateId) :
    (w.newExpr cond state).1.Coherent live stale := by
  have added := h.addExpr cond
  have unowned : Unowned live ({ w with exprs := w.exprs.add (.new cond) } : World)
      ⟨w.exprs.size⟩ := fun q hq => h.unowned_new q hq
  cases state with
  | none => exact added
  | some s => exact added.attachExpr unowned.untied s

/-- A new expression is bound to the state it is given, and nobody listens to it yet. -/
lemma newExpr_expr (cond : String) (state : Option StateId) (w : World) :
    ((w.newExpr cond state).1.expr ⟨w.exprs.size⟩).binding.map (·.state) = state ∧
      ((w.newExpr cond state).1.expr ⟨w.exprs.size⟩).listeners = .empty := by
  have listeners := (bindingsOnly_newExpr cond state w).exprListeners_eq ⟨w.exprs.size⟩
  have new : ({ w with exprs := w.exprs.add (.new cond) } : World).expr ⟨w.exprs.size⟩ =
      .new cond := by
    rw [expr, Table.get_add, if_pos rfl]
  rw [listeners, new]
  refine ⟨?_, rfl⟩
  cases state with
  | none =>
      show Option.map _ (({ w with exprs := w.exprs.add (.new cond) } : World).expr _).binding = _
      rw [new]
      rfl
  | some s => exact (boundTo_attachExpr _ _ s _).trans (if_pos rfl)

lemma sameSets_newExpr (cond : String) (state : Option StateId) (w : World) :
    w.SameSets (w.newExpr cond state).1 := by
  cases state with
  | none => exact ⟨rfl, rfl, rfl, rfl, rfl⟩
  | some s =>
      have added : w.SameSets { w with exprs := w.exprs.add (.new cond) } :=
        ⟨rfl, rfl, rfl, rfl, rfl⟩
      exact added.trans (sameSets_attachExpr _ s _)

/-- A set gets a member that is bound where the set is and that it is the first listener of. -/
lemma Coherent.append (h : w.Coherent live stale) {q : SetId} {m : Member}
    (exist : m.expr.place < w.exprs.size) (new : ∀ other, m.expr ∉ w.members other)
    (bound : ∀ s, w.boundTo (.set q) = some s → w.stateAlive s → w.boundTo (.expr m.expr) = some s)
    (firstListener : (w.expr m.expr).listeners.entries.head? = some (m.number, .owner q)) :
    (w.onSet q fun n => { n with members := n.members ++ [m] }).Coherent live
      fun other => stale other ∨ q = other := by
  refine h.onSet q (h.toOwned.append exist new) h.stamp h.watched ?_ ?_ ?_ ?_ ?_
  · intro s e hq tied alive mem
    rw [List.map_append, List.mem_append] at mem
    rcases mem with old | mem
    · exact h.bound hq tied alive old
    · rw [List.mem_singleton.1 mem]
      exact bound s tied alive
  · exact fun _ fresh => absurd (.inr rfl) fresh
  · intro m' hq mem
    rcases List.mem_append.1 mem with old | mem
    · exact h.firstListener hq old
    · rwa [List.mem_singleton.1 mem]
  · rintro c s hc rfl tied alive
    exact h.card hc tied alive
  · exact fun _ fresh was => fresh (.inl was)

/-- **A set gets another member**, and does not know yet what it is worth. -/
lemma Coherent.insertQuality (h : w.Coherent live stale) (q : SetId) (cond : String) :
    (w.insertQuality q cond).1.Coherent live fun other => stale other ∨ q = other := by
  by_cases has : w.hasQuality q cond
  · rw [insertQuality_of_has has]
    exact h.mono (fun _ => id) fun _ => .inl
  · rw [insertQuality_of_lacks (by simpa using has)]
    have same := sameSets_newExpr cond (w.setState q).toOption w
    have made := h.newExpr cond (w.setState q).toOption
    obtain ⟨bound, listeners⟩ := newExpr_expr cond (w.setState q).toOption w
    have new : ∀ other, (⟨w.exprs.size⟩ : ExprId) ∉
        (w.newExpr cond (w.setState q).toOption).1.members other := by
      intro other mem
      rw [same.members_eq] at mem
      exact absurd (h.member mem) (Nat.lt_irrefl _)
    have listening := made.onExpr ⟨w.exprs.size⟩
      (f := fun n => { n with listeners := n.listeners.subscribe (.owner q) })
      (made.toFresh.keepExpr _ (.same rfl rfl rfl)) made.bound
      (fun {_ m} _ mem eq => absurd (List.mem_map_of_mem mem) (eq ▸ new _))
      fun fresh => ⟨fresh, fun _ => rfl⟩
    refine listening.append ?_ new ?_ ?_
    · exact Nat.lt_of_lt_of_le (newExpr_bound cond _ w) (Table.size_le_modify _ _ _)
    · intro s tied alive
      have tied : (w.newExpr cond (w.setState q).toOption).1.boundTo (.set q) = some s := tied
      have alive : (w.newExpr cond (w.setState q).toOption).1.stateAlive s := alive
      rw [boundTo, same.set_eq] at tied
      rw [same.sameCards.stateAlive_eq] at alive
      have state : w.setState q = .ok s := boundState_ok.2 ⟨tied, alive⟩
      refine (boundTo_onExpr _ _ _).trans ((if_pos rfl).trans ?_)
      refine bound.trans ?_
      rw [state]
      rfl
    · rw [expr_onExpr]
      refine (congrArg (fun n : ExprNode => n.listeners.entries.head?) (if_pos rfl)).trans ?_
      rw [newMember]
      simp [listeners, Registry.subscribe, Registry.empty]

/-! ## Losing members -/

lemma not_mem_erase {ms : List Member} (distinct : (ms.map (·.expr)).Nodup) {m : Member}
    (mem : m ∈ ms) : m.expr ∉ (ms.erase m).map (·.expr) := by
  rintro again
  obtain ⟨m', mem', eq⟩ := List.mem_map.1 again
  have same : m' = m := List.inj_on_of_nodup_map distinct (List.mem_of_mem_erase mem') mem eq
  exact ((List.Nodup.of_map _ distinct).mem_erase_iff.1 (same ▸ mem')).1 rfl

/-- **A set loses a member** and invalidates its cache. -/
lemma Coherent.dropMember (h : w.Coherent live stale) {q : SetId} {m : Member}
    (mem : m ∈ (w.set q).members) : (w.dropMember q m).Coherent live stale := by
  have without : (w.onSet q fun n => { n with members := n.members.erase m }).Coherent live
      fun other => stale other ∨ q = other := by
    refine h.onSet q ?_ h.stamp h.watched ?_ ?_ ?_ ?_ ?_
    · exact h.toOwned.tighten (tighter_onSet q fun _ => List.erase_sublist)
    · exact fun hq bound alive mem => h.bound hq bound alive ((List.erase_sublist.map _).subset mem)
    · exact fun _ fresh => absurd (.inr rfl) fresh
    · exact fun hq mem => h.firstListener hq (List.mem_of_mem_erase mem)
    · rintro c s hc rfl bound alive
      exact h.card hc bound alive
    · exact fun _ fresh was => fresh (.inl was)
  have unowned :
      Unowned live (w.onSet q fun n => { n with members := n.members.erase m }) m.expr := by
    intro other _ again
    rw [members, set_onSet] at again
    split at again
    · next here =>
        subst here
        exact not_mem_erase (h.distinct q) mem again
    · next elsewhere => exact elsewhere (h.oneSet (List.mem_map_of_mem mem) again)
  have disposed := without.disposeExpr unowned
  have forgotten := disposed.forgetMember ((sameSets_disposeExpr m.expr _).unowned unowned)
  refine (forgotten.invalidateSet q).mono (fun _ => id) ?_
  rintro other ⟨was | here, elsewhere⟩
  · exact was
  · exact absurd here elsewhere

/-! ## New sets and cards -/

/-- A set that has no cached result is not stale. -/
lemma Coherent.unstale (h : w.Coherent live stale) {q : SetId}
    (none : ∀ revision, (w.set q).cache.get? revision = none) :
    w.Coherent live fun other => stale other ∧ q ≠ other :=
  { h with
    result := by
      intro other s value hq fresh bound alive cached
      by_cases here : q = other
      · rw [← here, none] at cached
        cases cached
      · exact h.result hq (fun was => fresh ⟨was, here⟩) bound alive cached }

/-- **Nothing about sets changes but their members** when one of them gets a condition. -/
lemma set_insertQuality (q other : SetId) (cond : String) (w : World) :
    (w.insertQuality q cond).1.set other =
      { w.set other with members := ((w.insertQuality q cond).1.set other).members } := by
  by_cases has : w.hasQuality q cond
  · rw [insertQuality_of_has has]
  · have same := (sameSets_newExpr cond (w.setState q).toOption w).set_eq other
    rw [insertQuality_of_lacks (by simpa using has), set_onSet, ← same]
    split <;> rfl

/-- Nor does anything about the expressions that there were. -/
lemma expr_insertQuality {e : ExprId} (old : e.place < w.exprs.size) (q : SetId)
    (cond : String) : (w.insertQuality q cond).1.expr e = w.expr e := by
  have other : (⟨w.exprs.size⟩ : ExprId) ≠ e := by
    rintro rfl
    exact Nat.lt_irrefl _ old
  have added : ({ w with exprs := w.exprs.add (.new cond) } : World).expr e = w.expr e := by
    rw [expr, Table.get_add, if_neg (Nat.ne_of_lt old)]
    rfl
  by_cases has : w.hasQuality q cond
  · rw [insertQuality_of_has has]
  · rw [insertQuality_of_lacks (by simpa using has)]
    refine (expr_onExpr _ _ _ _).trans ((if_neg other).trans ?_)
    rcases (w.setState q).toOption with _ | s
    · exact added
    · exact (expr_attachExpr other s _).trans added

/-- A set that has no cached result yet gets its first members. -/
lemma Coherent.insertAll (h : w.Coherent live stale) {q : SetId}
    (none : ∀ revision, (w.set q).cache.get? revision = none) (conds : List String) :
    (conds.foldl (fun w cond => (w.insertQuality q cond).1) w).Coherent live stale := by
  induction conds generalizing w with
  | nil => exact h
  | cons cond rest ih =>
      have still : ∀ revision, ((w.insertQuality q cond).1.set q).cache.get? revision = .none := by
        rw [set_insertQuality]
        exact none
      refine ih (((h.insertQuality q cond).unstale still).mono (fun _ => id) ?_) still
      rintro other ⟨was | here, elsewhere⟩
      · exact was
      · exact absurd here elsewhere

/-- **A new set** with its first members. -/
lemma Coherent.newSet (h : w.Coherent live stale) (conds : List String) (state : Option StateId) :
    (w.newSet conds state).1.Coherent live stale := by
  have added : ({ w with sets := w.sets.add .new } : World).Coherent live stale :=
    h.alike (h.toOwned.tighten (tighter_addSet w)) (fun _ => rfl) (fun _ => rfl) (set_addSet w)
      (fun _ => rfl) fun _ => .inl
  have new : ({ w with sets := w.sets.add .new } : World).set ⟨w.sets.size⟩ = .new := by
    rw [set, Table.get_add, if_pos rfl]
  cases state with
  | none =>
      refine added.insertAll (fun _ => ?_) conds
      rw [new]
      rfl
  | some s =>
      have loose : Loose live ({ w with sets := w.sets.add .new } : World) ⟨w.sets.size⟩ := by
        intro c _ hc _ _ eq
        exact absurd (congrArg SetId.place eq) (Nat.ne_of_lt (h.quality hc))
      refine (added.attachSet loose s).insertAll (fun _ => ?_) conds
      rw [World.attachSet, set_onSet, if_pos rfl]
      rfl

lemma Coherent.subscribeSet (h : w.Coherent live stale) (q : SetId) (c : CardId) :
    (w.subscribeSet q c).1.Coherent live stale :=
  h.keepSet q fun _ => rfl

lemma Coherent.addCard (h : w.Coherent live stale) (card : CardNode)
    (bounded : ∀ c, live (.card c) → c.place < w.cards.size)
    (exist : card.qualities.place < w.sets.size)
    (new : ∀ c, live (.card c) → (w.card c).qualities ≠ card.qualities)
    (unbound : card.binding = none) :
    ({ w with cards := w.cards.add card } : World).Coherent
      (fun x => live x ∨ x = .card ⟨w.cards.size⟩) stale := by
  have read : ∀ c : CardId, ({ w with cards := w.cards.add card } : World).card c =
      if c.place = w.cards.size then card else w.card c := fun c => Table.get_add _ _ _
  have old : ∀ {q}, (live (.set q) ∨ Handle.set q = .card ⟨w.cards.size⟩) → live (.set q) :=
    fun hq => hq.resolve_right nofun
  refine { h.toOwned.addCard card bounded exist new with
           right := h.right, stamp := h.stamp, watched := h.watched, placed := ?_,
           bound := fun hq => h.bound (old hq), result := fun hq => h.result (old hq),
           firstListener := fun hq => h.firstListener (old hq), card := ?_ }
  · intro c s binding
    rw [read] at binding
    split at binding
    · rw [unbound] at binding
      cases binding
    · exact h.placed binding
  · intro c s hc bound alive
    rw [boundTo, read] at bound
    rw [read]
    split at bound
    · rw [unbound] at bound
      cases bound
    · next other =>
        rw [if_neg other]
        refine h.card (hc.resolve_right fun eq => other ?_) bound alive
        rw [Handle.card.inj eq]

/-- **A new card** with a new set. -/
lemma Coherent.newCard (h : w.Coherent live stale)
    (bounded : ∀ c, live (.card c) → c.place < w.cards.size) (hash : CardHash) (content : String)
    (conds : List String) (state : Option StateId) :
    (w.newCard hash content conds state).1.Coherent
      (fun x => live x ∨ x = .card ⟨w.cards.size⟩) stale := by
  have cards := newSet_cards conds w
  have same :
      ((w.newSet conds none).1.subscribeSet ⟨w.sets.size⟩ ⟨w.cards.size⟩).1.cards = w.cards := cards
  have listening := (h.newSet conds none).subscribeSet ⟨w.sets.size⟩ ⟨w.cards.size⟩
  have bare : (w.bareCard hash content conds).Coherent
      (fun x => live x ∨ x = .card ⟨w.cards.size⟩) stale := by
    have added := listening.addCard ⟨hash, content, ⟨w.sets.size⟩,
      ((w.newSet conds none).1.set ⟨w.sets.size⟩).listeners.next, none, .fresh, .empty, false⟩
      ?_ ?_ ?_ rfl
    · rw [same] at added
      exact added
    · intro c was
      rw [same]
      exact bounded c was
    · exact Nat.lt_of_lt_of_le (newSet_bound conds w) (Table.size_le_modify _ _ _)
    · intro c was eq
      rw [World.card, same] at eq
      exact absurd (congrArg SetId.place eq) (Nat.ne_of_lt (h.quality was))
  rw [newCard_eq]
  cases state with
  | none => exact bare
  | some s => exact bare.attachCard (.inr rfl) s

/-! ## Other sets -/

/-- A card turns to a set that is bound where the card is. -/
lemma Coherent.turnTo (h : w.Coherent live stale) {c : CardId} {q : SetId}
    (exist : q.place < w.sets.size) (new : ∀ c', live (.card c') → (w.card c').qualities ≠ q)
    (bound : ∀ s, w.boundTo (.card c) = some s → w.stateAlive s → w.boundTo (.set q) = some s) :
    (w.turnTo c q).Coherent live stale := by
  have listening := h.subscribeSet q c
  refine listening.onCard c (h.toOwned.turnTo exist new) listening.placed ?_
  intro s _ tied alive
  have same : ((w.subscribeSet q c).1.boundTo (.set q)) = w.boundTo (.set q) := by
    refine (boundTo_onSet _ _ _).trans ?_
    rw [if_pos rfl]
    rfl
  exact same.trans (bound s tied alive)

/-- The set that a card has turned away from is loose. -/
lemma Coherent.loose_turned (h : w.Coherent live stale) {c : CardId} {q : SetId}
    (hc : live (.card c)) (new : ∀ c', live (.card c') → (w.card c').qualities ≠ q) :
    Loose live (w.turnTo c q) (w.card c).qualities := by
  intro other s hother _ _ eq
  rw [card_turnTo] at eq
  split at eq
  · exact new c hc eq.symm
  · next elsewhere => exact elsewhere (h.oneCard hother hc eq).symm

/-- **A card turns to another set**, and the one it had is disposed of. -/
lemma Coherent.exchangeSet (h : w.Coherent live stale) {c : CardId} {q : SetId}
    (hc : live (.card c))
    (exist : q.place < w.sets.size) (new : ∀ c', live (.card c') → (w.card c').qualities ≠ q)
    (bound : ∀ s, w.boundTo (.card c) = some s → w.stateAlive s → w.boundTo (.set q) = some s) :
    (w.exchangeSet c q).Coherent live stale := by
  rw [exchangeSet_eq]
  exact ((h.turnTo exist new bound).disposeSet (h.loose_turned hc new)).keepSet _ fun _ => rfl

lemma Coherent.bindSetWhere (h : w.Coherent live stale) (c : CardId) {q : SetId}
    (loose : Loose live w q) : (w.bindSetWhere c q).1.Coherent live stale := by
  rw [World.bindSetWhere]
  split
  · exact h.bindSet loose _
  · exact h

lemma sameCards_bindSetWhere (c : CardId) (q : SetId) (w : World) :
    w.SameCards (w.bindSetWhere c q).1 := by
  rw [World.bindSetWhere]
  split
  · exact sameCards_bindSet _ _ w
  · exact .refl w

/-- A set is bound where a card is. -/
lemma boundTo_bindSetWhere {c : CardId} {q : SetId} {v : World}
    (done : w.bindSetWhere c q = (v, .ok ())) {s : StateId} (bound : w.boundTo (.card c) = some s)
    (alive : w.stateAlive s) : v.boundTo (.set q) = some s := by
  have state : w.cardState c = .ok s := boundState_ok.2 ⟨bound, alive⟩
  rw [World.bindSetWhere, state] at done
  dsimp only at done
  rw [bindSet] at done
  split at done
  · cases done
  · obtain ⟨rfl, -⟩ := Prod.mk.inj done
    exact boundTo_attachSet q s w

/-- **A card has a new set**, bound where the card is. -/
lemma Coherent.replaceQualities (h : w.Coherent live stale) {c : CardId} (hc : live (.card c))
    (conds : List String) : (w.replaceQualities c conds).1.Coherent live stale := by
  have made := h.newSet conds none
  have new : ∀ other, live (.card other) →
      ((w.newSet conds none).1.card other).qualities ≠ ⟨w.sets.size⟩ := by
    intro other hother eq
    rw [World.card, newSet_cards] at eq
    exact absurd (congrArg SetId.place eq) (Nat.ne_of_lt (h.quality hother))
  have placed := made.bindSetWhere c (q := (w.newSet conds none).2) fun other _ hother _ _ =>
    new other hother
  have only := bindingsOnly_bindSetWhere c (w.newSet conds none).2 (w.newSet conds none).1
  have same := sameCards_bindSetWhere c (w.newSet conds none).2 (w.newSet conds none).1
  rw [World.replaceQualities]
  dsimp only
  rcases done : (w.newSet conds none).1.bindSetWhere c (w.newSet conds none).2 with ⟨v, fault | _⟩
  all_goals rw [done] at placed only same
  · exact placed
  · refine placed.exchangeSet hc ?_ ?_ ?_
    · exact Nat.lt_of_lt_of_le (newSet_bound conds w) only.sets
    · intro other hother
      rw [only.qualities_eq]
      exact new other hother
    · intro s bound alive
      rw [boundTo, same.card_eq] at bound
      rw [same.stateAlive_eq] at alive
      exact boundTo_bindSetWhere done bound alive

/-! ## Decks -/

lemma Coherent.enterCard (h : w.Coherent live stale) (d : DeckId) (c : CardId) :
    (w.enterCard d c).1.Coherent live stale :=
  h.keepCard c (fun _ => rfl) fun _ => rfl

lemma Coherent.enterCards (h : w.Coherent live stale) (d : DeckId) (cards : List CardId) :
    (w.enterCards d cards).1.Coherent live stale := by
  induction cards generalizing w with
  | nil => exact h
  | cons c rest ih => exact ih (h.enterCard d c)

/-- A deck has other cards, all of which exist. -/
lemma Coherent.setEntries (h : w.Coherent live stale) (d : DeckId) {f : List Entry → List Entry}
    (exist : ∀ entries, ∀ entry ∈ f entries, entry ∈ entries ∨ entry.card.place < w.cards.size) :
    (w.onDeck d fun n => { n with entries := f n.entries }).Coherent live stale := by
  have tight : w.Tighter (fun c => c.place < w.cards.size)
      (w.onDeck d fun n => { n with entries := f n.entries }) := by
    refine tighter_onDeck d fun n c mem => ?_
    obtain ⟨entry, isEntry, rfl⟩ := List.mem_map.1 mem
    exact (exist n.entries entry isEntry).imp_left List.mem_map_of_mem
  exact h.onDeck d (h.toOwned.tighter tight fun _ => id)

lemma Coherent.clearCards (h : w.Coherent live stale) {d : DeckId}
    (cards : ∀ c ∈ (w.deck d).cards, live (.card c)) : (w.clearCards d).Coherent live stale := by
  have emptied := h.setEntries d (f := fun _ => []) nofun
  have released := Coherent.foldl (w.deck d).entries
    (fun v entry mem hv => hv.unbindCard (cards entry.card (List.mem_map_of_mem mem))) emptied
  exact Coherent.foldl _ (fun v entry _ hv => hv.forgetEntry entry) released

lemma Coherent.bindCardsWhere (h : w.Coherent live stale) (d : DeckId) {cards : List CardId}
    (alive : ∀ c ∈ cards, live (.card c)) : (w.bindCardsWhere d cards).Coherent live stale := by
  rw [World.bindCardsWhere]
  split
  · exact Coherent.foldl _ (fun v c mem hv => hv.bindOrSkip (alive c mem) _) h
  · exact h

lemma Coherent.bindWhere (h : w.Coherent live stale) (d : DeckId) {c : CardId}
    (hc : live (.card c)) : (w.bindWhere d c).1.Coherent live stale := by
  rw [World.bindWhere]
  split
  · exact h.bindCard hc _
  · exact h

/-- **A deck gets other cards**, which are bound where it is. -/
lemma Coherent.replaceCards (h : w.Coherent live stale) {d : DeckId} {cards : List CardId}
    (old : ∀ c ∈ (w.deck d).cards, live (.card c)) (new : ∀ c ∈ cards, live (.card c))
    (exist : ∀ c ∈ cards, c.place < w.cards.size) :
    (w.replaceCards d cards).Coherent live stale := by
  have entered := (h.clearCards old).enterCards d cards
  have bound := (entered.bindCardsWhere d new).note
    (.cardsReplaced ((w.clearCards d).enterCards d cards).2.length)
  have cleared : w.Tighter (fun _ => False) (w.clearCards d) := tighter_clearCards d w
  have grown : w.cards.size ≤ ((w.clearCards d).enterCards d cards).1.cards.size :=
    (cleared.trans (tighter_enterCards d cards _)).cards
  have still := Nat.le_trans grown (bindingsOnly_bindCardsWhere d cards _).cards
  refine bound.setEntries d (f := fun _ => ((w.clearCards d).enterCards d cards).2) ?_
  intro _ entry mem
  refine .inr (Nat.lt_of_lt_of_le (exist entry.card ?_) still)
  rw [← enterCards_cards d cards (w.clearCards d)]
  exact List.mem_map_of_mem mem

lemma Coherent.insertCard (h : w.Coherent live stale) (d : DeckId) {c : CardId}
    (hc : live (.card c)) (exist : c.place < w.cards.size) :
    (w.insertCard d c).1.Coherent live stale := by
  have bound := h.bindWhere d hc
  have only := bindingsOnly_bindWhere d c w
  rw [World.insertCard]
  rcases done : w.bindWhere d c with ⟨v, fault | _⟩
  all_goals rw [done] at bound only
  · exact bound
  · have entered := (bound.note (.cardAdded (v.card c).hash)).enterCard d c
    refine entered.setEntries d (f := fun entries =>
      entries ++ [((v.note (.cardAdded (v.card c).hash)).enterCard d c).2]) ?_
    intro entries entry mem
    rcases List.mem_append.1 mem with was | new
    · exact .inl was
    · rw [List.mem_singleton.1 new]
      exact .inr (Nat.lt_of_lt_of_le exist (Nat.le_trans only.cards (Table.size_le_modify _ _ _)))

lemma Coherent.takeCard (h : w.Coherent live stale) {d : DeckId} {c : CardId}
    {gone kept : List Entry}
    (hc : live (.card c)) (parts : (w.deck d).entries.partition (·.card == c) = (gone, kept)) :
    (w.takeCard d c gone kept).Coherent live stale := by
  have fewer : ∀ entry ∈ kept, entry ∈ (w.deck d).entries := by
    rw [List.partition_eq_filter_filter] at parts
    obtain ⟨-, rfl⟩ := Prod.mk.inj parts
    exact fun entry mem => (List.mem_filter.1 mem).1
  have removed := h.setEntries d (f := fun _ => kept) fun _ entry mem =>
    .inr (h.entry (List.mem_map_of_mem (fewer entry mem)))
  have released := removed.unbindCard hc
  exact (Coherent.foldl gone (fun v entry _ hv => hv.forgetEntry entry) released).note _

lemma Coherent.replaceCard (h : w.Coherent live stale) {d : DeckId} {c : CardId} {old : Entry}
    (index : Nat) (hc : live (.card c)) (exist : c.place < w.cards.size)
    (hold : live (.card old.card)) : (w.replaceCard d c index old).1.Coherent live stale := by
  have entered := h.enterCard d c
  have placed := entered.setEntries d
    (f := fun entries => entries.set index ⟨c, (w.card c).listeners.next⟩) ?_
  · exact ((placed.unbindCard hold).forgetEntry old).bindWhere d hc
  · intro entries entry mem
    rcases List.mem_or_eq_of_mem_set mem with was | rfl
    · exact .inl was
    · exact .inr (Nat.lt_of_lt_of_le exist (Table.size_le_modify _ _ _))

lemma Coherent.reorder (h : w.Coherent live stale) (d : DeckId) :
    (w.reorder d).Coherent live stale :=
  h.onDeck d (h.toOwned.tighten (tighter_reorder d w))

/-- **A new deck**, whose cards are bound where it is. -/
lemma Coherent.newDeck (h : w.Coherent live stale) (config : DeckConfig) {cards : List CardId}
    (state : Option StateId) (alive : ∀ c ∈ cards, live (.card c))
    (exist : ∀ c ∈ cards, c.place < w.cards.size) :
    (w.newDeck config cards state).1.Coherent live stale := by
  have made : (w.emptyDeck config).Coherent live stale :=
    h.alike (h.toOwned.tighten (tighter_emptyDeck config w)) (fun _ => rfl) (fun _ => rfl)
      (fun _ => rfl) (fun _ => rfl) fun _ => .inl
  have entered := made.enterCards ⟨w.decks.size⟩ cards
  have bare : (w.bareDeck config cards).Coherent live stale := by
    refine entered.onDeck ⟨w.decks.size⟩ (h.toOwned.tighter (tighter_bareDeck config w ?_) exist)
    exact fun _ => id
  have itsCards : ((w.bareDeck config cards).deck ⟨w.decks.size⟩).cards = cards := by
    rw [bareDeck, deck_onDeck, if_pos rfl]
    exact enterCards_cards _ cards _
  rw [newDeck_eq]
  cases state with
  | none => exact bare
  | some s =>
      refine bare.attachDeck ?_ s
      rw [itsCards]
      exact alive

/-! ## Listeners -/

/-- The listeners of an expression change, but not the first if that is the expression's set. -/
lemma Coherent.onListeners (h : w.Coherent live stale) (e : ExprId)
    {f : Registry ExprListener → Registry ExprListener}
    (firstListener : ∀ {q m}, live (.set q) → m ∈ (w.set q).members → m.expr = e →
      (f (w.expr e).listeners).entries.head? = some (m.number, .owner q)) :
    (w.onExpr e fun n => { n with listeners := f n.listeners }).Coherent live stale :=
  h.onExpr e (h.toFresh.keepExpr e (.same rfl rfl rfl)) h.bound firstListener
    fun fresh => ⟨fresh, fun _ => rfl⟩

lemma Coherent.onBoard (h : w.Coherent live stale) (b : BoardId)
    (f : Registry ListenerId → Registry ListenerId) : (w.onBoard b f).Coherent live stale :=
  h.alike (h.toOwned.tighten { (Tighter.refl w : w.Tighter _ w) with }) (fun _ => rfl)
    (fun _ => rfl)
    (fun _ => rfl) (fun _ => rfl) fun _ => .inl

lemma Coherent.keepDeck (h : w.Coherent live stale) (d : DeckId) {f : DeckNode → DeckNode}
    (same : ∀ n, (f n).entries = n.entries) : (w.onDeck d f).Coherent live stale := by
  refine h.onDeck d (h.toOwned.tighten (tighter_onDeck d fun n c mem => .inl ?_))
  rwa [DeckNode.cards, same] at mem

/-- **A new listener comes last.** -/
lemma Coherent.subscribeTo (h : w.Coherent live stale) (emitter : Emitter) (l : ListenerId) :
    (w.subscribeTo emitter l).1.Coherent live stale := by
  cases emitter with
  | state s => exact h.subscribeState s _
  | expr e =>
      refine h.onListeners e (f := fun r => r.subscribe (.user l)) ?_
      rintro q m hq mem rfl
      simp [Registry.subscribe, h.firstListener hq mem]
  | set q => exact h.keepSet q fun _ => rfl
  | card c => exact h.keepCard c (fun _ => rfl) fun _ => rfl
  | deck d => exact h.keepDeck d fun _ => rfl
  | board b => exact h.onBoard b _

lemma Coherent.newListener (h : w.Coherent live stale) (emitter : Emitter) (name : String)
    (program : List Step) (times : Nat) :
    (w.newListener emitter name program times).1.Coherent live stale := by
  have owned := h.toOwned.tighten (tighter_newListener emitter name program times w)
  exact (h.subscribeTo emitter ⟨w.listeners.size⟩).alike owned (fun _ => rfl) (fun _ => rfl)
    (fun _ => rfl)
    (fun _ => rfl) fun _ => .inl

lemma Coherent.spend (h : w.Coherent live stale) (l : ListenerId) (remaining : Nat) :
    (w.spend l remaining).Coherent live stale :=
  h.alike (h.toOwned.tighten { (Tighter.refl w : w.Tighter _ w) with }) (fun _ => rfl)
    (fun _ => rfl)
    (fun _ => rfl) (fun _ => rfl) fun _ => .inl

/-- The number of a subscribed listener is no set's subscription to a member. -/
lemma Coherent.number_ne (h : w.Coherent live stale) (numbered : w.Numbered) {l : ListenerId}
    {q : SetId}
    {m : Member} (hq : live (.set q)) (mem : m ∈ (w.set q).members)
    (emitter : (w.listener l).emitter = .expr m.expr) : m.number ≠ (w.listener l).number := by
  intro same
  have bound : l.place < w.listeners.size := by
    by_contra out
    rw [listener, Table.get_of_size_le (Nat.le_of_not_lt out)] at emitter
    cases emitter
  have first : (m.number, Subscriber.node (.set q)) ∈ (w.registry (.expr m.expr)).entries := by
    refine Registry.mem_map.2 ⟨.owner q, ?_, rfl⟩
    exact List.mem_of_mem_head? (h.firstListener hq mem)
  rw [← emitter] at first
  cases numbered.mine l bound _ first same

/-- **A subscription ends.**  It is no set's subscription to a member. -/
lemma Coherent.unsubscribeFrom (h : w.Coherent live stale) (numbered : w.Numbered)
    (l : ListenerId) :
    (w.unsubscribeFrom (w.listener l).emitter (w.listener l).number).Coherent live stale := by
  rcases emitter : (w.listener l).emitter with s | e | q | c | d | b
  · exact h.onStore s (Nat.le_refl _) (Nat.le_refl _) fun _ => rfl
  · refine h.onListeners e (f := fun r => r.remove (w.listener l).number) ?_
    rintro q m hq mem rfl
    have other := h.number_ne numbered hq mem emitter
    obtain ⟨rest, entries⟩ := List.head?_eq_some_iff.1 (h.firstListener hq mem)
    simp [Registry.remove, entries, other]
  · exact h.keepSet q fun _ => rfl
  · exact h.keepCard c (fun _ => rfl) fun _ => rfl
  · exact h.keepDeck d fun _ => rfl
  · exact h.onBoard b _

/-- **All listeners go**, but only from an expression that no set has. -/
lemma Coherent.clearListeners (h : w.Coherent live stale) {emitter : Emitter}
    (unowned : ∀ e, emitter = .expr e → Unowned live w e) :
    (w.clearListeners emitter).Coherent live stale := by
  cases emitter with
  | state s => exact h.onStore s (Nat.le_refl _) (Nat.le_refl _) fun _ => rfl
  | expr e =>
      refine h.onListeners e (f := fun r => r.clear) ?_
      rintro q m hq mem rfl
      exact absurd (List.mem_map_of_mem mem) (unowned _ rfl q hq)
  | set q => exact h.keepSet q fun _ => rfl
  | card c => exact h.keepCard c (fun _ => rfl) fun _ => rfl
  | deck d => exact h.keepDeck d fun _ => rfl
  | board b => exact h.onBoard b _

/-! ## States and names -/

/-- A new state was never listened to. -/
lemma Coherent.addStore (h : w.Coherent live stale) :
    ({ w with stores := w.stores.add .empty } : World).Coherent live stale := by
  exact h.alike (h.toOwned.tighten { (Tighter.refl w : w.Tighter _ w) with }) (store_addStore w)
    (fun _ => rfl) (fun _ => rfl) (fun _ => rfl) fun _ => .inl

lemma Coherent.beginRound (h : w.Coherent live stale) (s : StateId) :
    (w.beginRound s).Coherent live stale :=
  (h.note _).record _

lemma Coherent.alter (h : w.Coherent live stale) (s : StateId) (contents : Contents) :
    (w.alter s contents).Coherent live stale := by
  refine (h.onStore s (Nat.le_refl _) (Nat.le_succ _) fun same => ?_).record _
  exact absurd same (Nat.succ_ne_self _)

lemma Coherent.amend (h : w.Coherent live stale) (s : StateId) (contents : Contents) :
    (w.amend s contents).Coherent live stale := by
  unfold World.amend
  split
  · exact (h.alter s contents).beginRound s
  · exact h.alter s contents

lemma Coherent.enterBatch (h : w.Coherent live stale) (s : StateId) :
    (w.enterBatch s).Coherent live stale :=
  (h.onStore s (Nat.le_refl _) (Nat.le_refl _) fun _ => rfl).record _

lemma Coherent.closeBatch (h : w.Coherent live stale) (s : StateId) :
    (w.closeBatch s).Coherent live stale :=
  (h.onStore s (Nat.le_refl _) (Nat.le_refl _) fun _ => rfl).record _

lemma Coherent.settle (h : w.Coherent live stale) (s : StateId) :
    (w.settle s).Coherent live stale :=
  (h.onStore s (Nat.le_refl _) (Nat.le_refl _) fun _ => rfl).note _

lemma Coherent.shut (h : w.Coherent live stale) (s : StateId) :
    (w.shut s).Coherent live stale := by
  unfold World.shut
  split
  · exact ((h.closeBatch s).settle s).beginRound s
  · exact h.closeBatch s

/-- **Other names and holds.**  A state that comes alive by them was never listened to, and the
cards that they hold on to exist. -/
lemma Coherent.withRoots (h : w.Coherent live stale) {names : List (String × Object)}
    {held : List Handle}
    (exist : ∀ c, (w.withRoots names held).isRooted (.card c) → c.place < w.cards.size)
    (alive : ∀ s, (w.withRoots names held).stateAlive s →
      w.stateAlive s ∨ (w.store s).listeners.next = 0) :
    (w.withRoots names held).Coherent live stale :=
  h.alike { h.toOwned with rooted := fun rooted => exist _ rooted } (fun _ => rfl) (fun _ => rfl)
    (fun _ => rfl) (fun _ => rfl) alive

end StoryEngine.World
