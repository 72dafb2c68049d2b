import StoryEngine.Proofs.AtRest

/-!
# Each condition once

A quality set takes in a condition only if it does not have it yet.  That keeps the texts of its
members apart as long as they are edited through the set; a member that gets another condition on
its own does not ask.

* `World.SameTexts` — operations that leave all conditions as they are.
* `World.conditions_insertQuality`, `World.conditions_dropMember` — what a set has after it was
  asked to take in or to drop a condition.
* `World.EachOnce` — **no set has a condition twice**.
* `World.EachOnce.engineStep` — every engine step keeps it so.
* `World.EachOnce.dropped` — and then a condition that a set has dropped is gone.
* `World.EachOnce.rewriteExpr_iff` — another condition for an expression keeps it so exactly if no
  other member of a set with the expression has it.
* **`World.ReachedWithoutDuplicates.eachOnce`** — so no set has a condition twice unless a member
  was given one while another member had it.

What a set has is two things: who its members are (`World.Tighter`) and what their texts are
(`World.SameTexts`).  Members are taken in by `World.insertQuality` alone and texts are altered by
`World.rewriteExpr` alone; whatever else is done, a set can only lose members.
-/

namespace StoryEngine.World

variable {w v u : World}

/-- The text of an expression's condition. -/
def textOf (w : World) (e : ExprId) : String :=
  (w.expr e).expression.source

lemma conditions_eq (w : World) (q : SetId) : w.conditions q = (w.members q).map w.textOf := rfl

lemma hasQuality_iff {q : SetId} {cond : String} : w.hasQuality q cond ↔ cond ∈ w.conditions q := by
  rw [hasQuality, List.contains_iff_mem]

/-! ## Conditions stay as they are -/

/-- **No expression that there was has another condition.** -/
structure SameTexts (w v : World) : Prop where
  exprs : w.exprs.size ≤ v.exprs.size
  text : ∀ e : ExprId, e.place < w.exprs.size → v.textOf e = w.textOf e

namespace SameTexts

lemma refl (w : World) : w.SameTexts w :=
  ⟨Nat.le_refl _, fun _ _ => rfl⟩

lemma trans (h : w.SameTexts v) (h' : v.SameTexts u) : w.SameTexts u :=
  ⟨Nat.le_trans h.exprs h'.exprs, fun e there =>
    (h'.text e (Nat.lt_of_lt_of_le there h.exprs)).trans (h.text e there)⟩

lemma foldl {β : Type} {step : World → β → World} (h : ∀ (w : World) b, w.SameTexts (step w b))
    (bs : List β) (w : World) : w.SameTexts (bs.foldl step w) := by
  induction bs generalizing w with
  | nil => exact .refl w
  | cons b bs ih => exact (h w b).trans (ih _)

/-- Where the expressions are the same, so are their conditions. -/
lemma of_exprs (same : v.exprs = w.exprs) : w.SameTexts v :=
  ⟨Nat.le_of_eq (congrArg Table.size same.symm), fun e _ => by
    rw [textOf, textOf, expr, expr, same]⟩

end SameTexts

lemma BindingsOnly.sameTexts (h : w.BindingsOnly v) : w.SameTexts v :=
  ⟨h.exprs, fun e _ => by rw [textOf, textOf, h.expr e]⟩

lemma CachesOnly.sameTexts (h : w.CachesOnly v) : w.SameTexts v :=
  h.bindingsOnly.sameTexts

/-! ### Single changes -/

lemma sameTexts_onExpr (e : ExprId) {f : ExprNode → ExprNode}
    (h : ∀ n, (f n).expression = n.expression) : w.SameTexts (w.onExpr e f) := by
  refine ⟨Table.size_le_modify _ _ _, fun other _ => ?_⟩
  rw [textOf, textOf, expr_onExpr]
  split
  · rw [h]
  · rfl

lemma sameTexts_onSet (q : SetId) (f : SetNode → SetNode) : w.SameTexts (w.onSet q f) :=
  .of_exprs rfl

lemma sameTexts_onCard (c : CardId) (f : CardNode → CardNode) : w.SameTexts (w.onCard c f) :=
  .of_exprs rfl

lemma sameTexts_onDeck (d : DeckId) (f : DeckNode → DeckNode) : w.SameTexts (w.onDeck d f) :=
  .of_exprs rfl

lemma sameTexts_note (n : Note) : w.SameTexts (w.note n) :=
  .of_exprs rfl

/-! ### Operations -/

lemma sameTexts_disposeExpr (e : ExprId) (w : World) : w.SameTexts (w.disposeExpr e) :=
  (bindingsOnly_unbindExpr e w).sameTexts.trans (sameTexts_onExpr e fun _ => rfl)

lemma sameTexts_forgetMember (m : Member) (w : World) : w.SameTexts (w.forgetMember m) :=
  sameTexts_onExpr m.expr fun _ => rfl

lemma sameTexts_letGo (ms : List Member) (w : World) : w.SameTexts (w.letGo ms) :=
  (SameTexts.foldl (fun w (m : Member) => sameTexts_disposeExpr m.expr w) ms w).trans
    (SameTexts.foldl (fun w m => sameTexts_forgetMember m w) ms _)

lemma sameTexts_disposeSet (q : SetId) (w : World) : w.SameTexts (w.disposeSet q) := by
  rw [disposeSet_eq]
  refine SameTexts.trans ?_ (sameTexts_onSet q _)
  refine SameTexts.trans ?_ (sameTexts_letGo _ _)
  exact (bindingsOnly_unbindSet q w).sameTexts.trans (sameTexts_onSet q _)

lemma sameTexts_disposeCard (c : CardId) (w : World) : w.SameTexts (w.disposeCard c) := by
  refine SameTexts.trans ?_ (sameTexts_onCard c _)
  exact (bindingsOnly_unbindCard c w).sameTexts.trans (sameTexts_disposeSet _ _)

lemma sameTexts_forgetEntry (entry : Entry) (w : World) : w.SameTexts (w.forgetEntry entry) :=
  sameTexts_onCard _ _

lemma sameTexts_disposeDeck (d : DeckId) (w : World) : w.SameTexts (w.disposeDeck d) := by
  refine SameTexts.trans ?_ (sameTexts_note _)
  refine SameTexts.trans ?_ (sameTexts_onDeck d _)
  refine SameTexts.trans ?_ (SameTexts.foldl (fun w entry => sameTexts_forgetEntry entry w) _ _)
  refine SameTexts.trans ?_
    (SameTexts.foldl (fun w (entry : Entry) => sameTexts_disposeCard entry.card w) _ _)
  exact (bindingsOnly_unbindDeck d w).sameTexts.trans (sameTexts_onDeck d _)

lemma sameTexts_disposeNode (n : NodeId) (w : World) : w.SameTexts (w.disposeNode n) := by
  cases n with
  | expr e => exact sameTexts_disposeExpr e w
  | set q => exact sameTexts_disposeSet q w
  | card c => exact sameTexts_disposeCard c w
  | deck d => exact sameTexts_disposeDeck d w

lemma sameTexts_dropMember (q : SetId) (m : Member) (w : World) :
    w.SameTexts (w.dropMember q m) := by
  refine SameTexts.trans ?_ (sameTexts_onSet q _)
  refine SameTexts.trans ?_ (sameTexts_forgetMember m _)
  refine SameTexts.trans ?_ (sameTexts_disposeExpr m.expr _)
  exact sameTexts_onSet q _

lemma sameTexts_subscribeTo (em : Emitter) (l : ListenerId) (w : World) :
    w.SameTexts (w.subscribeTo em l).1 := by
  cases em with
  | expr e => exact sameTexts_onExpr e fun _ => rfl
  | _ => exact .of_exprs rfl

lemma sameTexts_unsubscribeFrom (em : Emitter) (number : Nat) (w : World) :
    w.SameTexts (w.unsubscribeFrom em number) := by
  cases em with
  | expr e => exact sameTexts_onExpr e fun _ => rfl
  | _ => exact .of_exprs rfl

lemma sameTexts_clearListeners (em : Emitter) (w : World) : w.SameTexts (w.clearListeners em) := by
  cases em with
  | expr e => exact sameTexts_onExpr e fun _ => rfl
  | _ => exact .of_exprs rfl

lemma sameTexts_amend (s : StateId) (contents : Contents) (w : World) :
    w.SameTexts (w.amend s contents) := by
  unfold amend
  split <;> exact .of_exprs rfl

lemma sameTexts_shut (s : StateId) (w : World) : w.SameTexts (w.shut s) := by
  unfold shut
  split <;> exact .of_exprs rfl

lemma sameTexts_enterCards (d : DeckId) (cards : List CardId) (w : World) :
    w.SameTexts (w.enterCards d cards).1 := by
  induction cards generalizing w with
  | nil => exact .refl w
  | cons c rest ih => exact SameTexts.trans (sameTexts_onCard c _) (ih (w.enterCard d c).1)

lemma sameTexts_newDeck (config : DeckConfig) (cards : List CardId) (state : Option StateId)
    (w : World) : w.SameTexts (w.newDeck config cards state).1 := by
  have empty : w.SameTexts (w.emptyDeck config) := .of_exprs rfl
  have bare : w.SameTexts (w.bareDeck config cards) :=
    (empty.trans (sameTexts_enterCards _ cards _)).trans (sameTexts_onDeck _ _)
  rw [newDeck_eq]
  cases state with
  | none => exact bare
  | some s => exact bare.trans (bindingsOnly_attachDeck _ s _).sameTexts

lemma sameTexts_clearCards (d : DeckId) (w : World) : w.SameTexts (w.clearCards d) := by
  refine SameTexts.trans ?_ (SameTexts.foldl (fun w entry => sameTexts_forgetEntry entry w) _ _)
  refine SameTexts.trans ?_ (SameTexts.foldl
    (fun w (entry : Entry) => (bindingsOnly_unbindCard entry.card w).sameTexts) _ _)
  exact sameTexts_onDeck d _

lemma sameTexts_replaceCards (d : DeckId) (cards : List CardId) (w : World) :
    w.SameTexts (w.replaceCards d cards) := by
  refine SameTexts.trans ?_ (sameTexts_onDeck d _)
  refine SameTexts.trans ?_ (sameTexts_note _)
  refine SameTexts.trans ?_ (bindingsOnly_bindCardsWhere d cards _).sameTexts
  exact (sameTexts_clearCards d w).trans (sameTexts_enterCards d cards _)

lemma sameTexts_insertCard (d : DeckId) (c : CardId) (w : World) :
    w.SameTexts (w.insertCard d c).1 := by
  have bound := (bindingsOnly_bindWhere d c w).sameTexts
  unfold insertCard
  rcases done : w.bindWhere d c with ⟨v, fault | _⟩
  all_goals rw [done] at bound
  · exact bound
  · exact bound.trans (.of_exprs rfl)

lemma sameTexts_takeCard (d : DeckId) (c : CardId) (gone kept : List Entry) (w : World) :
    w.SameTexts (w.takeCard d c gone kept) := by
  refine SameTexts.trans ?_ (sameTexts_note _)
  refine SameTexts.trans ?_ (SameTexts.foldl (fun w entry => sameTexts_forgetEntry entry w) _ _)
  exact (sameTexts_onDeck d _).trans (bindingsOnly_unbindCard c _).sameTexts

lemma sameTexts_replaceCard (d : DeckId) (c : CardId) (index : Nat) (old : Entry) (w : World) :
    w.SameTexts (w.replaceCard d c index old).1 := by
  refine SameTexts.trans ?_ (bindingsOnly_bindWhere d c _).sameTexts
  refine SameTexts.trans ?_ (sameTexts_forgetEntry old _)
  refine SameTexts.trans ?_ (bindingsOnly_unbindCard old.card _).sameTexts
  exact (sameTexts_onCard c _).trans (sameTexts_onDeck d _)

/-! ## No condition twice -/

/-- **No set has a condition twice**; and members exist. -/
structure EachOnce (w : World) : Prop where
  bounded : ∀ {q e}, e ∈ w.members q → e.place < w.exprs.size
  once : ∀ q, (w.conditions q).Nodup

/-- The conditions of expressions that were there. -/
lemma SameTexts.map_textOf (same : w.SameTexts v) {es : List ExprId}
    (exist : ∀ e ∈ es, e.place < w.exprs.size) : es.map v.textOf = es.map w.textOf :=
  List.map_congr_left fun e mem => same.text e (exist e mem)

namespace EachOnce

theorem empty : World.empty.EachOnce :=
  ⟨nofun, fun _ => List.nodup_nil⟩

/-- Two members of a set that have the same condition are one. -/
lemma eq_of_text (h : w.EachOnce) {q : SetId} {e e' : ExprId} (mem : e ∈ w.members q)
    (mem' : e' ∈ w.members q) (same : w.textOf e = w.textOf e') : e = e' :=
  List.inj_on_of_nodup_map (h.once q) mem mem' same

/-- The conditions of the members that are left are among those that there were. -/
lemma tighter (h : w.EachOnce) (tight : w.Tighter (fun _ => True) v) (same : w.SameTexts v) :
    v.EachOnce := by
  refine ⟨fun mem => ?_, fun q => ?_⟩
  · exact Nat.lt_of_lt_of_le (h.bounded ((tight.members _).subset mem)) same.exprs
  · have kept : v.conditions q = (v.members q).map w.textOf :=
      same.map_textOf fun e mem => h.bounded ((tight.members q).subset mem)
    rw [kept]
    exact (h.once q).sublist ((tight.members q).map _)

lemma bindingsOnly (h : w.EachOnce) (only : w.BindingsOnly v) : v.EachOnce :=
  h.tighter only.tighter only.sameTexts

lemma cachesOnly (h : w.EachOnce) (only : w.CachesOnly v) : v.EachOnce :=
  h.bindingsOnly only.bindingsOnly

/-- Only expressions and sets matter. -/
lemma alike (h : w.EachOnce) (exprs : v.exprs = w.exprs)
    (members : ∀ q, v.members q = w.members q) : v.EachOnce := by
  refine ⟨fun mem => ?_, fun q => ?_⟩
  · rw [members] at mem
    rw [exprs]
    exact h.bounded mem
  · have same : v.textOf = w.textOf := by
      funext e
      rw [textOf, textOf, expr, expr, exprs]
    rw [conditions_eq, same, members]
    exact h.once q

end EachOnce

/-! ### A condition more -/

lemma sameTexts_newExpr (cond : String) (state : Option StateId) (w : World) :
    w.SameTexts (w.newExpr cond state).1 := by
  refine SameTexts.trans ⟨?_, fun e there => ?_⟩ (bindingsOnly_newExpr cond state w).sameTexts
  · rw [Table.size_add]
    exact Nat.le_succ _
  · rw [textOf, textOf, expr, Table.get_add, if_neg (Nat.ne_of_lt there)]
    rfl

lemma textOf_newExpr (cond : String) (state : Option StateId) (w : World) :
    (w.newExpr cond state).1.textOf ⟨w.exprs.size⟩ = cond := by
  rw [textOf, (bindingsOnly_newExpr cond state w).expr, expr, Table.get_add, if_pos rfl]
  rfl

/-- A set that lacks a condition gets a new member, and no other set does. -/
lemma members_insertQuality {q : SetId} {cond : String} (lacks : w.hasQuality q cond = false)
    (other : SetId) :
    (w.insertQuality q cond).1.members other =
      if q = other then w.members other ++ [⟨w.exprs.size⟩] else w.members other := by
  rw [insertQuality_of_lacks lacks, members_append]
  have made := (bindingsOnly_newExpr cond (w.setState q).toOption w).members_eq other
  show (if q = other then (w.newExpr cond (w.setState q).toOption).1.members other ++ _
    else (w.newExpr cond (w.setState q).toOption).1.members other) = _
  rw [made]
  rfl

/-- Who listens to an expression, and who has it, is nothing to its condition. -/
lemma sameTexts_enrol (e : ExprId) (q : SetId) (m : Member) (w : World) :
    w.SameTexts ((w.onExpr e fun n =>
      { n with listeners := n.listeners.subscribe (.owner q) }).onSet q fun n =>
        { n with members := n.members ++ [m] }) := by
  refine SameTexts.trans ?_ (sameTexts_onSet q _)
  exact sameTexts_onExpr e fun _ => rfl

lemma sameTexts_insertQuality (q : SetId) (cond : String) (w : World) :
    w.SameTexts (w.insertQuality q cond).1 := by
  by_cases has : w.hasQuality q cond
  · rw [insertQuality_of_has has]
    exact .refl w
  · rw [insertQuality_of_lacks (by simpa using has)]
    exact (sameTexts_newExpr cond _ w).trans (sameTexts_enrol _ q _ _)

/-- The new member of a set exists, and has the condition. -/
lemma insertQuality_new {q : SetId} {cond : String} (lacks : w.hasQuality q cond = false) :
    w.exprs.size < (w.insertQuality q cond).1.exprs.size ∧
      (w.insertQuality q cond).1.textOf ⟨w.exprs.size⟩ = cond := by
  have exist := newExpr_bound cond (w.setState q).toOption w
  have enrolled := sameTexts_enrol ⟨w.exprs.size⟩ q (w.newMember q cond)
    (w.newExpr cond (w.setState q).toOption).1
  rw [insertQuality_of_lacks lacks]
  exact ⟨Nat.lt_of_lt_of_le exist enrolled.exprs,
    (enrolled.text _ exist).trans (textOf_newExpr cond _ w)⟩

/-- **A set that lacks a condition gets it at the end**, and no other set does. -/
lemma conditions_insertQuality {q : SetId} {cond : String} (lacks : w.hasQuality q cond = false)
    {other : SetId} (exist : ∀ e ∈ w.members other, e.place < w.exprs.size) :
    (w.insertQuality q cond).1.conditions other =
      if q = other then w.conditions other ++ [cond] else w.conditions other := by
  have old := (sameTexts_insertQuality q cond w).map_textOf exist
  rw [conditions_eq, members_insertQuality lacks]
  split
  · rw [List.map_append, old, List.map_singleton, (insertQuality_new lacks).2]
    rfl
  · exact old

namespace EachOnce

/-- **A set takes in a condition only if it lacks it.** -/
lemma insertQuality (h : w.EachOnce) (q : SetId) (cond : String) :
    (w.insertQuality q cond).1.EachOnce := by
  by_cases has : w.hasQuality q cond
  · rwa [insertQuality_of_has has]
  -- the new member is the expression that is made now, so no text of another one can have moved
  have lacks : w.hasQuality q cond = false := by simpa using has
  have bound := (insertQuality_new lacks).1
  refine ⟨fun {other e} mem => ?_, fun other => ?_⟩
  · have old (mem : e ∈ w.members other) : e.place < (w.insertQuality q cond).1.exprs.size :=
      Nat.lt_trans (h.bounded mem) bound
    rw [members_insertQuality lacks] at mem
    split at mem
    · rcases List.mem_append.1 mem with mem | new
      · exact old mem
      · rw [List.mem_singleton.1 new]
        exact bound
    · exact old mem
  · rw [conditions_insertQuality lacks fun e => h.bounded]
    split
    · next eq =>
        subst eq
        refine List.nodup_append.2 ⟨h.once q, List.pairwise_singleton _ _, ?_⟩
        rintro a mem b isNew rfl
        rw [List.mem_singleton.1 isNew] at mem
        exact has (hasQuality_iff.2 mem)
    · exact h.once other

lemma foldl {β : Type} (h : w.EachOnce) (step : World → β → World) (bs : List β)
    (keeps : ∀ (v : World) b, v.EachOnce → (step v b).EachOnce) : (bs.foldl step w).EachOnce := by
  induction bs generalizing w with
  | nil => exact h
  | cons b bs ih => exact ih (keeps w b h)

lemma newSet (h : w.EachOnce) (conds : List String) (state : Option StateId) :
    (w.newSet conds state).1.EachOnce := by
  have added : ({ w with sets := w.sets.add .new } : World).EachOnce :=
    h.alike rfl fun q => by rw [members, set_addSet, members]
  refine foldl ?_ _ conds fun _ cond hv => hv.insertQuality ⟨w.sets.size⟩ cond
  cases state with
  | none => exact added
  | some s => exact added.bindingsOnly (bindingsOnly_attachSet _ s _)

lemma subscribeSet (h : w.EachOnce) (q : SetId) (c : CardId) : (w.subscribeSet q c).1.EachOnce :=
  h.tighter (tighter_subscribeSet q c w) (sameTexts_onSet q _)

lemma newCard (h : w.EachOnce) (hash : CardHash) (content : String) (conds : List String)
    (state : Option StateId) : (w.newCard hash content conds state).1.EachOnce := by
  have bare : (w.bareCard hash content conds).EachOnce :=
    ((h.newSet conds none).subscribeSet ⟨w.sets.size⟩ ⟨w.cards.size⟩).alike rfl fun _ => rfl
  exact bare.bindingsOnly (bindingsOnly_newCard hash content conds state w)

lemma exchangeSet (h : w.EachOnce) (c : CardId) (q : SetId) : (w.exchangeSet c q).EachOnce := by
  have turned : (w.turnTo c q).EachOnce := (h.subscribeSet q c).alike rfl fun _ => rfl
  refine turned.tighter (tighter_exchangeSet c q w) ?_
  rw [exchangeSet_eq]
  exact (sameTexts_disposeSet _ _).trans (sameTexts_onSet _ _)

lemma replaceQualities (h : w.EachOnce) (c : CardId) (conds : List String) :
    (w.replaceQualities c conds).1.EachOnce := by
  have bound := (h.newSet conds none).bindingsOnly
    (bindingsOnly_bindSetWhere c (w.newSet conds none).2 _)
  rw [World.replaceQualities]
  dsimp only
  rcases done : (w.newSet conds none).1.bindSetWhere c (w.newSet conds none).2 with ⟨v, fault | _⟩
  all_goals rw [done] at bound
  · exact bound
  · exact bound.exchangeSet c _

/-- **No engine step gives a set a condition twice.** -/
theorem engineStep {rule : Rule} (h : w.EachOnce) (engineStep : EngineStep rule w v) :
    v.EachOnce := by
  cases engineStep with
  | record event => exact h.alike rfl fun _ => rfl
  | roots names held => exact h.alike rfl fun _ => rfl
  | amend s contents => exact h.tighter (tighter_amend s contents w) (sameTexts_amend s contents w)
  | enter s => exact h.alike rfl fun _ => rfl
  | shut s names held =>
      have rooted : (w.withRoots names held).EachOnce := h.alike rfl fun _ => rfl
      exact rooted.tighter (tighter_shut s _) (sameTexts_shut s _)
  | newState => exact h.alike rfl fun _ => rfl
  | newBoard => exact h.alike rfl fun _ => rfl
  | newExpr cond state =>
      have made := h.tighter (tighter_newExpr cond state w) (sameTexts_newExpr cond state w)
      exact made.alike rfl fun _ => rfl
  | newSet conds state => exact (h.newSet conds state).alike rfl fun _ => rfl
  | newCard hash content conds state =>
      exact (h.newCard hash content conds state).alike rfl fun _ => rfl
  | newDeck config cards state =>
      have made := h.tighter (tighter_newDeck config state w fun _ _ => trivial)
        (sameTexts_newDeck config cards state w)
      exact made.alike rfl fun _ => rfl
  | newListener em name program times =>
      have subscribedTo := h.tighter (tighter_subscribeTo em ⟨w.listeners.size⟩ w)
        (sameTexts_subscribeTo em _ w)
      exact subscribedTo.alike rfl fun _ => rfl
  | spend => exact h.alike rfl fun _ => rfl
  | unsubscribeFrom l =>
    exact h.tighter (tighter_unsubscribeFrom _ _ w) (sameTexts_unsubscribeFrom _ _ w)
  | clearListeners em =>
    exact h.tighter (tighter_clearListeners em w) (sameTexts_clearListeners em w)
  | readExpr e => exact h.cachesOnly (cachesOnly_exprResult e w)
  | readSet q => exact h.cachesOnly (cachesOnly_setResult q w)
  | invalidateExpr e => exact h.cachesOnly (cachesOnly_invalidateExpr e w)
  | invalidateSet q => exact h.cachesOnly (cachesOnly_invalidateSet q w)
  | admitExpr e => exact h.tighter (tighter_onExpr e _) (sameTexts_onExpr e fun _ => rfl)
  | admitSet q =>
      refine h.tighter ?_ (sameTexts_onSet q _)
      exact tighter_onSet q fun _ => .refl _
  | admitCard => exact h.alike rfl fun _ => rfl
  | admitDeck => exact h.alike rfl fun _ => rfl
  | bind n s => exact h.bindingsOnly (bindingsOnly_bindNode n s w)
  | unbind n => exact h.bindingsOnly (bindingsOnly_unbindNode n w)
  | dispose n => exact h.tighter (tighter_disposeNode n w) (sameTexts_disposeNode n w)
  | addQuality q cond => exact (h.insertQuality q cond).cachesOnly (cachesOnly_invalidateSet q _)
  | dropMember q _ m =>
      exact h.tighter (tighter_dropMember q m w) (sameTexts_dropMember q m w)
  | replaceQualities c conds => exact h.replaceQualities c conds
  | setContent => exact h.alike rfl fun _ => rfl
  | replaceCards d cards =>
      exact h.tighter (tighter_replaceCards d w fun _ _ => trivial)
        (sameTexts_replaceCards d cards w)
  | insertCard d c =>
      exact h.tighter (tighter_insertCard d w trivial) (sameTexts_insertCard d c w)
  | takeCard d c gone kept _ _ parts =>
      exact h.tighter (tighter_takeCard d c gone kept parts) (sameTexts_takeCard d c gone kept w)
  | replaceCard d c index old =>
      exact h.tighter (tighter_replaceCard d index old w trivial)
        (sameTexts_replaceCard d c index old w)
  | reorder => exact h.alike rfl fun _ => rfl
  | pick => exact h.alike rfl fun _ => rfl

end EachOnce

/-! ### A condition less -/

/-- What is found first goes first. -/
lemma erase_of_find? {α : Type} [BEq α] [LawfulBEq α] {p : α → Bool} {a : α} {as : List α}
    (found : as.find? p = some a) : as.erase a = as.eraseP p := by
  obtain ⟨holds, before, after, rfl, fails⟩ := List.find?_eq_some_iff_append.1 found
  have absent : a ∉ before := fun mem => by simpa [holds] using fails a mem
  rw [List.erase_append_right _ absent, List.erase_cons_head,
    List.eraseP_append_right _ fun b mem => by simpa using fails b mem,
    List.eraseP_cons_of_pos holds]

lemma members_dropMember (q : SetId) (m : Member) (w : World) (other : SetId) :
    (w.dropMember q m).members other =
      if q = other then ((w.set q).members.erase m).map (·.expr) else w.members other := by
  have below : (w.onSet q fun n => { n with members := n.members.erase m }).SameSets
      (((w.onSet q fun n => { n with members := n.members.erase m }).disposeExpr
        m.expr).forgetMember m) :=
    (sameSets_disposeExpr m.expr _).trans (sameSets_forgetMember m _)
  rw [dropMember, (cachesOnly_invalidateSet q _).members_eq, below.members_eq, members, set_onSet]
  split
  · next eq => rw [eq]
  · rfl

/-- **A set loses the first member with a condition**, and no other set does. -/
lemma conditions_dropMember {q : SetId} {cond : String} {m : Member}
    (found : w.memberWith? q cond = some m) {other : SetId}
    (exist : ∀ e ∈ w.members other, e.place < w.exprs.size) :
    (w.dropMember q m).conditions other =
      if q = other then (w.conditions other).erase cond else w.conditions other := by
  have same := sameTexts_dropMember q m w
  rw [conditions_eq, members_dropMember]
  split
  · next eq =>
      subst eq
      have first : (w.set q).members.erase m =
          (w.set q).members.eraseP ((· == cond) ∘ fun m => w.textOf m.expr) :=
        erase_of_find? found
      have exist : ∀ e ∈ ((w.set q).members.erase m).map (·.expr), e.place < w.exprs.size :=
        fun e mem => exist e ((List.erase_sublist.map _).subset mem)
      rw [same.map_textOf exist, first, List.map_map, conditions_eq, members, List.map_map,
        List.erase_eq_eraseP', List.eraseP_map]
      rfl
  · exact same.map_textOf exist

/-- **A condition that a set has dropped is gone**, if the set had no condition twice. -/
theorem EachOnce.dropped (h : w.EachOnce) {q : SetId} {cond : String} {m : Member}
    (found : w.memberWith? q cond = some m) : (w.dropMember q m).hasQuality q cond = false := by
  rw [Bool.eq_false_iff, Ne, hasQuality_iff, conditions_dropMember found fun e => h.bounded,
    if_pos rfl]
  exact (h.once q).not_mem_erase

/-! ### Another condition -/

/-- **No other member** of a set with an expression has a condition. -/
def NoDuplicate (w : World) (e : ExprId) (cond : String) : Prop :=
  ∀ q, e ∈ w.members q → ∀ other ∈ w.members q, other ≠ e → w.textOf other ≠ cond

lemma textOf_rewriteExpr (e other : ExprId) (cond : String) (w : World) :
    (w.rewriteExpr e cond).textOf other = if e = other then cond else w.textOf other := by
  have only := cachesOnly_invalidateExpr e (w.onExpr e fun n => { n with expression := .new cond })
  rw [textOf, rewriteExpr, only.expr, expr_onExpr]
  split <;> rfl

lemma members_rewriteExpr (e : ExprId) (cond : String) (w : World) (q : SetId) :
    (w.rewriteExpr e cond).members q = w.members q := rfl

/-- **Another condition for an expression** leaves no set with a condition twice exactly if no other
member of a set with the expression has it. -/
theorem EachOnce.rewriteExpr_iff (h : w.EachOnce) (e : ExprId) (cond : String) :
    (w.rewriteExpr e cond).EachOnce ↔ w.NoDuplicate e cond := by
  constructor
  · intro after q mem other mem' ne same
    refine ne (after.eq_of_text (q := q) mem' mem ?_)
    rw [textOf_rewriteExpr, textOf_rewriteExpr, if_neg ne.symm, if_pos rfl, same]
  · intro apart
    refine ⟨fun mem => ?_, fun q => ?_⟩
    · exact Nat.lt_of_lt_of_le (h.bounded mem)
        (tighter_rewriteExpr e cond w : w.Tighter (fun _ => True) _).exprs
    · rw [conditions_eq, members_rewriteExpr]
      refine List.Nodup.map_on (fun x mem y mem' same => ?_) (.of_map _ (h.once q))
      rw [textOf_rewriteExpr, textOf_rewriteExpr] at same
      by_cases hx : e = x <;> by_cases hy : e = y
      · exact hx.symm.trans hy
      · rw [if_pos hx, if_neg hy] at same
        exact absurd same.symm (apart q (hx ▸ mem) y mem' (Ne.symm hy))
      · rw [if_neg hx, if_pos hy] at same
        exact absurd same (apart q (hy ▸ mem') x mem (Ne.symm hx))
      · rw [if_neg hx, if_neg hy] at same
        exact h.eq_of_text mem mem' same

/-! ## Worlds reached without duplicates -/

/-- **A world that is reached without duplicates**: no member of a set was ever given a condition
that another one had. -/
inductive ReachedWithoutDuplicates : World → Prop
  | empty : ReachedWithoutDuplicates .empty
  | engineStep {w v : World} (reached : ReachedWithoutDuplicates w)
      (engineStep : EngineStep .free w v) :
      ReachedWithoutDuplicates v
  | rewrite {w : World} (reached : ReachedWithoutDuplicates w) (e : ExprId) (cond : String)
      (apart : w.NoDuplicate e cond) : ReachedWithoutDuplicates (w.rewriteExpr e cond)

/-- **No set has a condition twice** in a world that is reached without duplicates. -/
theorem ReachedWithoutDuplicates.eachOnce (reached : w.ReachedWithoutDuplicates) : w.EachOnce := by
  induction reached with
  | empty => exact .empty
  | engineStep _ engineStep ih => exact ih.engineStep engineStep
  | rewrite _ e cond apart ih => exact (ih.rewriteExpr_iff e cond).2 apart

/-- A member of a set gets the condition that another member has, and then the set is to drop it. -/
def changesToDuplicate : List Act :=
  [.set (.create "set" ["$a", "$b"] none), .set (.member "set" 1 "member"),
    .expr (.change "member" "$a"), .set (.remove "set" "$a")]

/-- The set had the condition twice, and has it still. -/
example :
    (runUnder .free fire ((changesToDuplicate.take 3).map .act) .empty).conditions ⟨0⟩ =
      ["$a", "$a"] ∧
      (runUnder .free fire (changesToDuplicate.map .act) .empty).conditions ⟨0⟩ = ["$a"] := by
  decide +kernel

end StoryEngine.World
