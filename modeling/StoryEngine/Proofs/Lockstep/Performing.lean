import StoryEngine.Proofs.Lockstep.Operations

/-!
# Steps in lockstep

Two runs stay in lockstep through every act of a script, and so through every step, through every
program of a listener, and to their ends.

* `World.stored_lockstep`, `World.discard_lockstep` — storing an object, and giving one up.
* `World.performAct_lockstep` — every act, as long as it is licensed.
* `World.performBatch_lockstep`, `World.respond_lockstep` — batches, and listeners with programs.
* **`World.runUnder_lockstep`** — runs under two supervisors who decide alike.
* `Upheld.of_passes` — what all transactions keep holds wherever licensed runs pass through.
-/

namespace StoryEngine

/-! ## Names in worlds that are the same but for their traces -/

namespace SameButTrace

variable {visible : Event → Bool} {w v : World} (e : SameButTrace visible w v)
include e

lemma dropSubscription (o : Option Object) :
    SameButTrace visible (w.dropSubscription o) (v.dropSubscription o) := by
  unfold World.dropSubscription
  split
  · rw [e.listener]
    exact e.unsubscribeFrom _ _
  · exact e

lemma replace (name : String) (o : Object) :
    SameButTrace visible (w.replace name o) (v.replace name o) := by
  unfold World.replace
  rw [e.find?]
  exact (e.put name o).dropSubscription _

lemma forget (name : String) : SameButTrace visible (w.forget name) (v.forget name) := by
  unfold World.forget
  rw [e.find?]
  exact (e.erase name).dropSubscription _

end SameButTrace

namespace World

lemma dropSubscription_held (o : Option Object) (w : World) :
    (w.dropSubscription o).held = w.held := by
  unfold dropSubscription
  split
  · exact (onward_unsubscribeFrom _ _ w).held
  · rfl

/-- A name gets another object in the same way whatever is held on to. -/
lemma replace_hold (hs : List Handle) (name : String) (o : Object) (w : World) :
    ({ (w.hold hs).replace name o with held := w.held } : World) = w.replace name o := by
  have same : (w.hold hs).find? name = w.find? name := rfl
  unfold replace dropSubscription
  rw [same]
  split
  · next l _ =>
      have same : ((w.hold hs).put name o).listener l = (w.put name o).listener l := rfl
      rw [same]
      cases ((w.put name o).listener l).emitter <;> rfl
  · rfl

section
variable {visible : Event → Bool} {licence : Licence} {Holds : World → Prop} {w v : World}
variable {react other : Reaction}
variable (upheld : Upheld licence Holds) (reacts : LockstepReactions visible Holds react other)
include upheld reacts

/-! ## Storing and giving up -/

lemma finish_lockstep (h : Matched visible Holds w v) (o : Option Object) :
    Lockstep visible Holds w (w.finish react o) (v.finish other o) := by
  unfold finish
  split
  · next s =>
      exact h.holding upheld (offers_singleton (.inl rfl)) fun h =>
        leaveBatch_lockstep upheld reacts h s
  · exact h.start

/-- An object is stored under a name, and what was held on to until then is let go. -/
lemma storedHeld_lockstep {hs : List Handle} (h : Matched visible Holds (w.hold hs) (v.hold hs))
    {name : String} {o : Object} (offered : (w.hold hs).OffersObject o) :
    LockstepFor visible Holds w (w.stored react name o) (v.stored other name o) := by
  have held : v.held = w.held := List.append_cancel_left h.butTrace.held
  have found : v.find? name = w.find? name := h.butTrace.find? name
  have replaced : Matched visible Holds (w.replace name o) (v.replace name o) := by
    have butTrace := (h.butTrace.replace name o).withHeld w.held
    have done := upheld h.kept (.store name o offered w.held (List.subset_append_right hs _))
    rw [replace_hold] at butTrace done
    rw [← held, replace_hold] at butTrace
    exact ⟨butTrace, done⟩
  have finished := finish_lockstep upheld reacts replaced (w.find? name)
  refine Lockstep.with ?_ _
  rw [keep_eq, keep_eq, found]
  exact ⟨finished.toMatched, finished.held.trans (dropSubscription_held _ _)⟩

/-- **An object is stored under a name.** -/
lemma stored_lockstep (h : Matched visible Holds w v) {name : String} {o : Object}
    (offered : w.OffersObject o) :
    LockstepFor visible Holds w (w.stored react name o) (v.stored other name o) := by
  have nothing : Matched visible Holds (w.hold []) (v.hold []) := h
  exact storedHeld_lockstep upheld reacts nothing offered

/-- **A new node is stored**, which was held on to since it was made. -/
lemma storedNew_lockstep {α : Type} (h : Matched visible Holds w v) {p q : World × α}
    (butTrace : SameButTraceFor visible p q) (handle : α → Handle)
    (done : Transaction licence w [] (p.1.hold [handle p.2])) (held : p.1.held = w.held)
    (name : String) :
    LockstepFor visible Holds w (p.1.stored react name (.handle (handle p.2)))
      (q.1.stored other name (.handle (handle q.2))) := by
  obtain ⟨w', v', a, rfl, rfl, same⟩ := butTrace.elim
  have made : Matched visible Holds (w'.hold [handle a]) (v'.hold [handle a]) :=
    ⟨same.hold _, upheld h.kept done⟩
  have offered : (w'.hold [handle a]).OffersObject (.handle (handle a)) :=
    offers_of_held List.mem_cons_self
  have stored : LockstepFor visible Holds w' (w'.stored react name (.handle (handle a)))
      (v'.stored other name (.handle (handle a))) := storedHeld_lockstep upheld reacts made offered
  exact ⟨⟨stored.world.toMatched, stored.world.held.trans held⟩, stored.outcome⟩

/-- A name is forgotten and its object given up. -/
lemma discard_lockstep (h : Matched visible Holds w v) {name : String} {o : Object}
    (found : w.find? name = some o) :
    Lockstep visible Holds w (w.discard react name o) (v.discard other name o) := by
  have forgot := h.move upheld (h.butTrace.forget name) (.forget name) (dropSubscription_held _ _)
  rw [discard_eq react found, discard_eq other (by rwa [h.butTrace.find?])]
  exact forgot.trans (finish_lockstep upheld reacts forgot.toMatched (some o))

/-! ## Looking up -/

omit reacts in
/-- **Going on with what a name holds on to.** -/
lemma withHandle_lockstep (h : Matched visible Holds w v) {α : Type} {select : Handle → Option α}
    {name : String} {k k' : α → Doing}
    (body : ∀ x a, w.find? name = some (.handle x) → select x = some a →
      Matched visible Holds (w.hold [x]) (v.hold [x]) →
      LockstepFor visible Holds (w.hold [x]) (k a (w.hold [x])) (k' a (v.hold [x]))) :
    LockstepFor visible Holds w (withHandle select name k w) (withHandle select name k' v) := by
  unfold withHandle
  rw [h.butTrace.find?]
  split
  · next x found =>
      split
      · next a selected =>
          have offered := offers_of_alive (.root (rooted_of_find? found))
          exact h.holdingFor upheld (offers_singleton offered) fun h => body x a found selected h
      · exact h.with _
  · exact h.with _

omit reacts in
lemma withState?_lockstep (h : Matched visible Holds w v) {name : Option String}
    {k k' : Option StateId → Doing}
    (body : ∀ s hs, Matched visible Holds (w.hold hs) (v.hold hs) →
      LockstepFor visible Holds (w.hold hs) (k s (w.hold hs)) (k' s (v.hold hs))) :
    LockstepFor visible Holds w (withState? name k w) (withState? name k' v) := by
  cases name with
  | none => exact body none [] h
  | some name => exact withHandle_lockstep upheld h fun x s _ _ h => body (some s) [x] h

omit reacts in
/-- **Going on with named cards**, which are all held on to. -/
lemma withCards_lockstep (h : Matched visible Holds w v) {names : List String}
    {k k' : List CardId → Doing}
    (body : ∀ cs hs, (∀ c ∈ cs, .card c ∈ hs) → Matched visible Holds (w.hold hs) (v.hold hs) →
      LockstepFor visible Holds (w.hold hs) (k cs (w.hold hs)) (k' cs (v.hold hs))) :
    LockstepFor visible Holds w (withCards names k w) (withCards names k' v) := by
  induction names generalizing w v k k' with
  | nil => exact body [] [] nofun h
  | cons name names ih =>
      refine withHandle_lockstep upheld h fun x c _ selected h => ?_
      refine ih h fun cs hs held h => ?_
      rw [hold_hold, hold_hold] at h ⊢
      refine body (c :: cs) (hs ++ [x]) ?_ h
      intro c' mem
      rcases List.mem_cons.1 mem with rfl | mem
      · exact List.mem_append_right _ (by simpa using (Handle.card?_eq_some.1 selected).symm)
      · exact List.mem_append_left _ (held c' mem)

omit reacts in
/-- Going on with the hash of a new card, while the card it is taken from is held on to. -/
lemma withHash_lockstep (h : Matched visible Holds w v) {source : HashSource} {label : String}
    {k k' : CardHash → Doing}
    (body : ∀ hs hash, Matched visible Holds (w.hold hs) (v.hold hs) →
      LockstepFor visible Holds (w.hold hs) (k hash (w.hold hs)) (k' hash (v.hold hs))) :
    LockstepFor visible Holds w (withHash source label k w) (withHash source label k' v) := by
  cases source with
  | fresh =>
      rw [withHash, withHash, h.butTrace.cards]
      exact body [] _ h
  | spelled text =>
      rw [withHash, withHash]
      split
      · exact body [] _ h
      · exact h.with _
  | of card =>
      refine withHandle_lockstep upheld h fun x c _ _ h => ?_
      rw [h.butTrace.card]
      exact body [x] _ h

/-! ## Acts -/

lemma performHandle_lockstep (h : Matched visible Holds w v) (act : HandleAct)
    (licensed : licence.allows (.act (.handle act)) w) :
    LockstepFor visible Holds w (performHandle react act w) (performHandle other act v) := by
  cases act with
  | clone source as =>
      refine LockstepFor.map ?_ Except.ok
      rw [h.butTrace.find?]
      split
      · exact h.with _
      · exact h.with _
      · next o _ noSubscription found =>
          refine stored_lockstep upheld reacts h ?_
          cases o with
          | handle x => exact offers_of_alive (.root (rooted_of_find? found))
          | subscription l => exact absurd rfl (noSubscription l)
          | _ => trivial
      · exact h.with _
  | drop name =>
      simp only [performHandle]
      rw [h.butTrace.find?]
      split
      · next o found => exact (discard_lockstep upheld reacts h found).with _
      · exact h.with _
  | unsubscribe name =>
      refine LockstepFor.map ?_ Except.ok
      rw [h.butTrace.find?]
      split
      · next l found => exact (discard_lockstep upheld reacts h found).with _
      · exact h.with _
  | sameObject a b =>
      refine LockstepFor.map ?_ Except.ok
      rw [h.butTrace.find?, h.butTrace.find?]
      split <;> exact h.with _
  | describe name =>
      simp only [performHandle]
      rw [h.butTrace.find?]
      split
      · next o _ =>
          rw [h.butTrace.describe]
          exact h.with _
      · exact h.with _
  | observe name =>
      simp only [performHandle]
      rw [h.butTrace.observe]
      exact h.with _
  | listenerCount name =>
      refine LockstepFor.map ?_ Except.ok
      refine withHandle_lockstep upheld h fun x em _ _ h => ?_
      rw [h.butTrace.listenerCount]
      exact h.with _
  | clearListeners name =>
      refine LockstepFor.map ?_ Except.ok
      refine withHandle_lockstep upheld h fun x em found selected h => ?_
      have clears := licence.clears_hold (rooted_singleton found) (licensed em ⟨x, found, selected⟩)
      exact (h.move upheld (h.butTrace.clearListeners em) (.clearListeners em clears)
        (onward_clearListeners em _).held).with _
  | size name =>
      refine LockstepFor.map ?_ Except.ok
      rw [h.butTrace.find?]
      split
      · rw [h.butTrace.sizeOf?]
        split <;> exact h.with _
      · exact h.with _
  | panic message => exact h.with _

lemma performState_lockstep (h : Matched visible Holds w v) (act : StateAct) :
    LockstepFor visible Holds w (performState react act w) (performState other act v) := by
  cases act with
  | create as =>
      obtain ⟨w', v', s, left, right, made⟩ :=
        (h.moveFor upheld h.butTrace.newState (.still (still_newState w)) rfl).elim
      simp only [performState]
      rw [left, right]
      exact made.transFor (stored_lockstep upheld reacts made.toMatched (.inl rfl))
  | set state key datum =>
      simp only [performState]
      split
      · exact h.with _
      · next value _ => exact withHandle_lockstep upheld h fun _ s _ _ h =>
          (setValue_lockstep upheld reacts h s key value).with _
  | delete state key =>
      exact withHandle_lockstep upheld h fun _ s _ _ h =>
        (deleteValue_lockstep upheld reacts h s key).map Answer.value
  | get state key =>
      refine withHandle_lockstep upheld h fun _ s _ _ h => ?_
      rw [h.butTrace.store]
      exact h.with _
  | «exists» state key =>
      refine withHandle_lockstep upheld h fun _ s _ _ h => ?_
      rw [h.butTrace.store]
      exact h.with _
  | keys state =>
      refine withHandle_lockstep upheld h fun _ s _ _ h => ?_
      rw [h.butTrace.store]
      exact h.with _
  | snapshot state =>
      refine withHandle_lockstep upheld h fun _ s _ _ h => ?_
      rw [h.butTrace.store]
      exact h.with _
  | extend state pairs =>
      simp only [performState]
      split
      · exact h.with _
      · next values _ => exact withHandle_lockstep upheld h fun _ s _ _ h =>
          (extend_lockstep upheld reacts h s values).with _
  | openBatch state as =>
      refine withHandle_lockstep upheld h fun _ s _ _ h => ?_
      have entered := enterBatch_lockstep upheld h s
      exact entered.transFor (stored_lockstep upheld reacts entered.toMatched (.inl rfl))
  | inBatch state =>
      refine withHandle_lockstep upheld h fun _ s _ _ h => ?_
      rw [h.butTrace.store]
      exact h.with _
  | revision state =>
      refine withHandle_lockstep upheld h fun _ s _ _ h => ?_
      rw [h.butTrace.store]
      exact h.with _
  | downgrade state as =>
      exact withHandle_lockstep upheld h fun _ s _ _ h =>
        stored_lockstep upheld reacts h trivial
  | weakDefault as => exact stored_lockstep upheld reacts h trivial
  | upgrade weak as =>
      simp only [performState, withWeak]
      rw [h.butTrace.find?]
      split
      · split
        · rw [h.butTrace.stateAlive]
          split
          · exact stored_lockstep upheld reacts h (.inl rfl)
          · exact h.with _
        · exact h.with _
      · exact h.with _
  | weakIs weak state =>
      simp only [performState, withWeak]
      rw [h.butTrace.find?]
      split
      · exact withHandle_lockstep upheld h fun _ s _ _ h => h.with _
      · exact h.with _

lemma performBoard_lockstep (h : Matched visible Holds w v) (act : BoardAct) :
    LockstepFor visible Holds w (performBoard react act w) (performBoard other act v) := by
  cases act with
  | create as =>
      have made := h.still upheld h.butTrace.newBoard (still_newBoard w)
      simp only [performBoard]
      rw [h.butTrace.boards] at made ⊢
      exact made.transFor (stored_lockstep upheld reacts made.toMatched (.inl rfl))
  | emit name message =>
      exact withHandle_lockstep upheld h fun _ b _ _ h =>
        (emit_lockstep upheld reacts h b message).with _

lemma performPlain_lockstep (h : Matched visible Holds w v) (act : PlainAct) :
    LockstepFor visible Holds w (performPlain react act w) (performPlain other act v) := by
  cases act with
  | create as cond => exact stored_lockstep upheld reacts h trivial
  | change name cond =>
      simp only [performPlain]
      unfold withPlain
      rw [h.butTrace.find?]
      split
      · next found =>
          -- the name stood for an expression, so no subscription ends
          have replaced :
              w.replace name (.plain (.new cond)) = w.put name (.plain (.new cond)) := by
            rw [replace, found]
            rfl
          have done : Transaction licence w []
              { w.replace name (.plain (.new cond)) with held := w.held } :=
            .store name (.plain (.new cond)) trivial w.held (List.Subset.refl _)
          rw [replaced] at done
          exact (h.move upheld (h.butTrace.put name _) done rfl).with _
      · exact h.with _
  | check name state =>
      refine withHandle_lockstep upheld h fun _ s _ _ h => ?_
      unfold withPlain
      rw [h.butTrace.find?]
      split
      · exact (h.read upheld (h.butTrace.checkAgainst _ s)
          (cachesOnly_checkAgainst _ s _)).map Answer.flag
      · exact h.with _

lemma performNode_lockstep (h : Matched visible Holds w v) (act : NodeAct)
    (licensed : licence.allows (.act (.node act)) w) :
    LockstepFor visible Holds w (performNode react act w) (performNode other act v) := by
  cases act with
  | kind name => exact withHandle_lockstep upheld h fun _ n _ _ h => h.with _
  | bind name state =>
      refine withHandle_lockstep upheld h fun x n _ selected h => ?_
      refine withHandle_lockstep upheld h fun y s _ _ h => ?_
      obtain rfl := Handle.node?_eq_some.1 selected
      have alive : ((w.hold [n.handle]).hold [y]).Alive n.handle :=
        alive_of_held (List.mem_cons_of_mem _ List.mem_cons_self)
      exact (h.moveFor upheld (h.butTrace.bindNode n s) (.bind n s alive)
        (onward_bindNode n s _).held).map _
  | unbind name =>
      refine withHandle_lockstep upheld h fun x n _ selected h => ?_
      obtain rfl := Handle.node?_eq_some.1 selected
      exact (h.move upheld (h.butTrace.unbindNode n) (.unbind n (alive_of_held List.mem_cons_self))
        (onward_unbindNode n _).held).with _
  | invalidate name =>
      exact withHandle_lockstep upheld h fun _ n _ _ h =>
        (h.still upheld (h.butTrace.invalidateNode n) (still_invalidateNode n _)).with _
  | notify name =>
      refine withHandle_lockstep upheld h fun x n _ selected h => ?_
      obtain rfl := Handle.node?_eq_some.1 selected
      exact (pushNode_lockstep upheld reacts h n none List.mem_cons_self).with _
  | dispose name =>
      refine withHandle_lockstep upheld h fun x n found selected h => ?_
      have disposes := licence.disposes_hold (rooted_singleton found)
        (licensed n ⟨x, found, selected⟩)
      obtain rfl := Handle.node?_eq_some.1 selected
      exact (h.move upheld (h.butTrace.disposeNode n)
        (.dispose n (alive_of_held List.mem_cons_self) disposes)
        (onward_disposeNode n _).held).with _
  | isBound name =>
      refine withHandle_lockstep upheld h fun _ n _ _ h => ?_
      rw [h.butTrace.isBound]
      exact h.with _
  | isDisposed name =>
      refine withHandle_lockstep upheld h fun _ n _ _ h => ?_
      rw [h.butTrace.isDisposed]
      exact h.with _
  | cacheState name =>
      refine withHandle_lockstep upheld h fun _ n _ _ h => ?_
      rw [h.butTrace.truthStatus]
      exact h.with _
  | result name =>
      exact withHandle_lockstep upheld h fun _ n _ _ h =>
        (truthResult_lockstep upheld h n).map (Answer.ofExcept Answer.flag)
  | check name state =>
      exact withHandle_lockstep upheld h fun _ s _ _ h =>
        withHandle_lockstep upheld h fun _ n _ _ h =>
          (truthCheck_lockstep upheld h n s).map Answer.flag

lemma performExpr_lockstep (h : Matched visible Holds w v) (act : ExprAct) :
    LockstepFor visible Holds w (performExpr react act w) (performExpr other act v) := by
  cases act with
  | create as cond state =>
      rw [performExpr, performExpr]
      exact withState?_lockstep upheld h fun s _ h =>
        storedNew_lockstep upheld reacts h (h.butTrace.newExpr cond s) .expr (.newExpr cond s)
          (onward_newExpr cond s _).held as
  | change name cond =>
      exact withHandle_lockstep upheld h fun _ e _ _ h =>
        (changeExpr_lockstep upheld reacts h e cond).with _

lemma performSet_lockstep (h : Matched visible Holds w v) (act : SetAct) :
    LockstepFor visible Holds w (performSet react act w) (performSet other act v) := by
  cases act with
  | create as conds state =>
      rw [performSet, performSet]
      exact withState?_lockstep upheld h fun s _ h =>
        storedNew_lockstep upheld reacts h (h.butTrace.newSet conds s) .set (.newSet conds s)
          (onward_newSet conds s _).held as
  | add name cond =>
      exact withHandle_lockstep upheld h fun _ q _ _ h =>
        (addQuality_lockstep upheld reacts h q cond).map (Answer.ofExcept Answer.flag)
  | remove name cond =>
      exact withHandle_lockstep upheld h fun _ q _ _ h =>
        (removeQuality_lockstep upheld reacts h q cond).map Answer.flag
  | has name cond =>
      refine withHandle_lockstep upheld h fun _ q _ _ h => ?_
      rw [h.butTrace.hasQuality]
      exact h.with _
  | member name index as =>
      refine withHandle_lockstep upheld h fun x q _ selected h => ?_
      obtain rfl := Handle.set?_eq_some.1 selected
      rw [h.butTrace.members]
      split
      · next e mem =>
          refine stored_lockstep upheld reacts h
            (offers_of_alive (.expr (List.mem_of_getElem? mem) ?_))
          exact alive_of_held List.mem_cons_self
      · exact h.with _

lemma performCard_lockstep (h : Matched visible Holds w v) (act : CardAct) :
    LockstepFor visible Holds w (performCard react act w) (performCard other act v) := by
  cases act with
  | create as content conds state source =>
      rw [performCard, performCard]
      refine withState?_lockstep upheld h fun s _ h => ?_
      exact withHash_lockstep upheld h fun _ hash h =>
        storedNew_lockstep upheld reacts h (h.butTrace.newCard hash content conds s) .card
          (.newCard hash content conds s) (onward_newCard hash content conds s _).held as
  | setContent name content =>
      refine withHandle_lockstep upheld h fun x c _ selected h => ?_
      obtain rfl := Handle.card?_eq_some.1 selected
      exact (h.move upheld (h.butTrace.onCard c fun n => { n with content })
        (.editCard c _ (alive_of_held List.mem_cons_self) fun _ => rfl) rfl).with _
  | info name =>
      refine withHandle_lockstep upheld h fun _ c _ _ h => ?_
      rw [h.butTrace.cardView]
      exact h.with _
  | sameHash a b =>
      refine withHandle_lockstep upheld h fun _ c _ _ h => ?_
      refine withHandle_lockstep upheld h fun _ d _ _ h => ?_
      rw [h.butTrace.card, h.butTrace.card]
      exact h.with _
  | qualities name as =>
      refine withHandle_lockstep upheld h fun x c _ selected h => ?_
      obtain rfl := Handle.card?_eq_some.1 selected
      rw [h.butTrace.card]
      exact stored_lockstep upheld reacts h (offers_qualities List.mem_cons_self)
  | setQualities name conds =>
      refine withHandle_lockstep upheld h fun x c _ selected h => ?_
      obtain rfl := Handle.card?_eq_some.1 selected
      exact (setQualities_lockstep upheld reacts h c conds List.mem_cons_self).map _
  | addQuality name cond =>
      refine withHandle_lockstep upheld h fun x c _ selected h => ?_
      obtain rfl := Handle.card?_eq_some.1 selected
      exact (addCardQuality_lockstep upheld reacts h c cond List.mem_cons_self).map _
  | removeQuality name cond =>
      refine withHandle_lockstep upheld h fun x c _ selected h => ?_
      obtain rfl := Handle.card?_eq_some.1 selected
      exact (removeCardQuality_lockstep upheld reacts h c cond List.mem_cons_self).map _

lemma showStored_lockstep (h : Matched visible Holds w v) (as : Option String) (c : CardId)
    (alive : w.Alive (.card c)) :
    LockstepFor visible Holds w (w.showStored react as c) (v.showStored other as c) := by
  cases as with
  | none =>
      rw [showStored, showStored, h.butTrace.cardAnswer]
      exact h.with _
  | some name =>
      have offered : w.OffersObject (.handle (.card c)) := offers_of_alive alive
      have stored : Lockstep visible Holds w (w.keep react name (.handle (.card c)))
          (v.keep other name (.handle (.card c))) := (stored_lockstep upheld reacts h offered).world
      have same : (v.keep other name (.handle (.card c))).cardAnswer (some c) =
          (w.keep react name (.handle (.card c))).cardAnswer (some c) :=
          stored.butTrace.cardAnswer _
      rw [showStored, showStored, same]
      exact stored.with _

omit upheld reacts in
lemma withConfig_lockstep (h : Matched visible Holds w v) (source : ConfigSource)
    {k k' : DeckConfig → Doing}
    (body : ∀ config, LockstepFor visible Holds w (k config w) (k' config v)) :
    LockstepFor visible Holds w (withConfig source k w) (withConfig source k' v) := by
  cases source with
  | none => exact body _
  | seed seed => exact body _
  | text text =>
      rcases ofText : DeckConfig.ofText text with fault | config
      all_goals simp only [withConfig, ofText]
      · exact h.with _
      · exact body config

lemma performDeck_lockstep (h : Matched visible Holds w v) (act : DeckAct) :
    LockstepFor visible Holds w (performDeck react act w) (performDeck other act v) := by
  cases act with
  | create as cards state source =>
      rw [performDeck, performDeck]
      refine withCards_lockstep upheld h fun cs hs held h => ?_
      refine withState?_lockstep upheld h fun s _ h => ?_
      refine withConfig_lockstep h source fun config => ?_
      refine storedNew_lockstep upheld reacts h (h.butTrace.newDeck config cs s) .deck
        (.newDeck config cs s (alive_cards fun c mem => ?_)) (onward_newDeck config cs s _).held as
      exact List.mem_append_right _ (List.mem_append_left _ (held c mem))
  | cards name =>
      refine withHandle_lockstep upheld h fun _ d _ _ h => ?_
      rw [h.butTrace.deck, h.butTrace.cardsAnswer]
      exact h.with _
  | setCards name cards =>
      rw [performDeck, performDeck]
      refine withCards_lockstep upheld h fun cs hs held h => ?_
      refine withHandle_lockstep upheld h fun x d _ selected h => ?_
      obtain rfl := Handle.deck?_eq_some.1 selected
      refine (setCards_lockstep upheld reacts h d cs List.mem_cons_self fun c mem => ?_).with _
      exact List.mem_append_right _ (List.mem_append_left _ (held c mem))
  | state name =>
      refine withHandle_lockstep upheld h fun _ d _ _ h => ?_
      simp only [h.butTrace.deckState, h.butTrace.firstName?]
      exact h.with _
  | setState name state =>
      refine withHandle_lockstep upheld h fun x d _ selected h => ?_
      refine withHandle_lockstep upheld h fun _ s _ _ h => ?_
      obtain rfl := Handle.deck?_eq_some.1 selected
      exact (rebindDeck_lockstep upheld reacts h d s
        (List.mem_cons_of_mem _ List.mem_cons_self)).map _
  | getCard name index as =>
      refine withHandle_lockstep upheld h fun x d _ selected h => ?_
      obtain rfl := Handle.deck?_eq_some.1 selected
      rw [h.butTrace.deck]
      split
      · next c mem =>
          exact showStored_lockstep upheld reacts h as c
            (.card (List.mem_of_getElem? mem) (alive_of_held List.mem_cons_self))
      · exact h.with _
  | addCard name card =>
      refine withHandle_lockstep upheld h fun x d _ selected h => ?_
      refine withHandle_lockstep upheld h fun y c _ selected' h => ?_
      obtain rfl := Handle.deck?_eq_some.1 selected
      obtain rfl := Handle.card?_eq_some.1 selected'
      exact (addCard_lockstep upheld reacts h d c (List.mem_cons_of_mem _ List.mem_cons_self)
        List.mem_cons_self).map _
  | updateCard name card =>
      refine withHandle_lockstep upheld h fun x d _ selected h => ?_
      refine withHandle_lockstep upheld h fun y c _ selected' h => ?_
      obtain rfl := Handle.deck?_eq_some.1 selected
      obtain rfl := Handle.card?_eq_some.1 selected'
      exact (updateCard_lockstep upheld reacts h d c (List.mem_cons_of_mem _ List.mem_cons_self)
        List.mem_cons_self).map _
  | removeCard name card =>
      refine withHandle_lockstep upheld h fun x d _ selected h => ?_
      refine withHandle_lockstep upheld h fun _ c _ _ h => ?_
      obtain rfl := Handle.deck?_eq_some.1 selected
      exact (removeCard_lockstep upheld reacts h d c
        (List.mem_cons_of_mem _ List.mem_cons_self)).map _
  | isCardAvailable name card =>
      exact withHandle_lockstep upheld h fun _ d _ _ h =>
        withHandle_lockstep upheld h fun _ c _ _ h => (isCardAvailable_lockstep upheld h d c).map _
  | shuffle name =>
      refine withHandle_lockstep upheld h fun x d _ selected h => ?_
      obtain rfl := Handle.deck?_eq_some.1 selected
      exact (shuffle_lockstep upheld reacts h d List.mem_cons_self).with _
  | available name =>
      refine withHandle_lockstep upheld h fun _ d _ _ h => ?_
      obtain ⟨w', v', result, left, right, read⟩ :=
        (h.read upheld (h.butTrace.availableCards d) (cachesOnly_availableCards d _)).elim
      have same : v'.cardsAnswer = w'.cardsAnswer := funext read.butTrace.cardsAnswer
      rw [left, right]
      dsimp only
      rw [same]
      exact read.with _
  | availableIn name state =>
      refine withHandle_lockstep upheld h fun _ d _ _ h => ?_
      refine withHandle_lockstep upheld h fun _ s _ _ h => ?_
      obtain ⟨w', v', cards, left, right, read⟩ :=
        (h.read upheld (h.butTrace.availableIn d s) (cachesOnly_availableIn d s _)).elim
      rw [left, right]
      dsimp only
      rw [read.butTrace.cardsAnswer]
      exact read.with _
  | draw name =>
      refine withHandle_lockstep upheld h fun _ d _ _ h => ?_
      obtain ⟨w', v', card, left, right, drawn⟩ := (draw_lockstep upheld h d).elim
      have same : v'.cardAnswer = w'.cardAnswer := funext drawn.butTrace.cardAnswer
      rw [left, right]
      dsimp only
      rw [same]
      exact drawn.with _
  | drawIn name state =>
      refine withHandle_lockstep upheld h fun _ d _ _ h => ?_
      refine withHandle_lockstep upheld h fun _ s _ _ h => ?_
      obtain ⟨w', v', card, left, right, drawn⟩ := (drawIn_lockstep upheld h d s).elim
      rw [left, right]
      dsimp only
      rw [drawn.butTrace.cardAnswer]
      exact drawn.with _

/-- **An act.** -/
theorem performAct_lockstep (h : Matched visible Holds w v) (act : Act)
    (licensed : licence.allows (.act act) w) :
    LockstepFor visible Holds w (performAct react act w) (performAct other act v) := by
  cases act with
  | handle act => exact performHandle_lockstep upheld reacts h act licensed
  | state act => exact (performState_lockstep upheld reacts h act).map _
  | board act => exact (performBoard_lockstep upheld reacts h act).map _
  | plain act => exact (performPlain_lockstep upheld reacts h act).map _
  | node act => exact (performNode_lockstep upheld reacts h act licensed).map _
  | expr act => exact (performExpr_lockstep upheld reacts h act).map _
  | set act => exact (performSet_lockstep upheld reacts h act).map _
  | card act => exact (performCard_lockstep upheld reacts h act).map _
  | deck act => exact (performDeck_lockstep upheld reacts h act).map _

/-! ## Steps -/

/-- **A batch of steps**, whose steps may differ. -/
lemma performBatch_lockstep (h : Matched visible Holds w v) (state : String) (count : Nat)
    {body body' : World → World × Option PanicMessage}
    (inside : ∀ w v, Matched visible Holds w v → LockstepFor visible Holds w (body w) (body' v)) :
    LockstepFor visible Holds w (performBatch react state count body w)
      (performBatch other state count body' v) := by
  unfold performBatch
  rw [h.butTrace.stateNamed?]
  split
  · exact h.with _
  · next s _ =>
      refine h.holdingFor upheld (offers_singleton (.inl rfl)) fun h => ?_
      have entered := enterBatch_lockstep upheld h s
      have offered : ∀ x ∈ [Handle.batch s], ((w.hold [.state s]).enterBatch s).Offers x :=
        offers_singleton (.inl rfl)
      obtain ⟨w', v', panic, left, right, ran⟩ :=
        (entered.toMatched.holdingFor upheld offered (inside _ _)).elim
      rw [left, right]
      have closed := (entered.trans ran).trans (leaveBatch_lockstep upheld reacts ran.toMatched s)
      rcases panic with _ | message
      · exact closed.with _
      · exact closed.with _

/-- **A listener with a program subscribes.** -/
lemma performSubscribe_lockstep (h : Matched visible Holds w v) (on as : String)
    (program : List Step) (times : Nat) :
    LockstepFor visible Holds w (performSubscribe react on as program times w)
      (performSubscribe other on as program times v) := by
  refine LockstepFor.map ?_ _
  refine withHandle_lockstep upheld h fun x em _ selected h => ?_
  obtain rfl := Handle.emitter?_eq_some.1 selected
  have done : Transaction licence (w.hold [em.handle]) [] _ :=
    .subscribe em as program times (alive_of_held List.mem_cons_self)
  have held := newListener_held em as program times (w.hold [em.handle])
  obtain ⟨w', v', l, left, right, listed⟩ := (h.butTrace.newListener em as program times).elim
  obtain rfl : l = ⟨w.listeners.size⟩ := congrArg Prod.snd left.symm
  rw [left] at done held
  have replaced := h.move upheld (listed.replace as _) done ((dropSubscription_held _ _).trans held)
  have finished := replaced.trans (finish_lockstep upheld reacts replaced.toMatched (w'.find? as))
  dsimp only
  rw [left, right]
  refine Lockstep.with ?_ _
  rw [keep_eq, keep_eq, listed.find?]
  exact finished

omit reacts in
/-- **Listeners who run programs react in lockstep** if the programs do. -/
lemma respond_lockstep {run run' : String → List Step → World → World × Option PanicMessage}
    (inside : ∀ name program w v, Matched visible Holds w v →
      LockstepFor visible Holds w (run name program w) (run' name program v)) :
    LockstepReactions visible Holds (respond run) (respond run') := by
  intro l payload w v h
  have fired := h.still upheld (h.butTrace.fire l payload) (still_record _ w)
  unfold respond
  dsimp only
  rw [fired.butTrace.listener]
  split
  · exact fired
  · next remaining _ =>
      have spent := fired.trans (fired.toMatched.still upheld (fired.butTrace.spend l remaining)
        (still_spend l remaining _))
      obtain ⟨w', v', panic, left, right, ran⟩ := (inside ((w.fire l payload).listener l).name
        ((w.fire l payload).listener l).program _ _ spent.toMatched).elim
      rw [left, right]
      rcases panic with _ | message
      · exact spent.trans ran
      · exact (spent.trans ran).trans (ran.toMatched.note upheld _)

end

end World

/-! ## Runs -/

/-- **Two supervisors decide alike** in worlds that match: both leave a step out, or both let it be
performed in the world as it is, and then it is licensed. -/
def LockstepSupervisors (visible : Event → Bool) (licence : Licence) (Holds : World → Prop)
    (look look' : Supervisor) : Prop :=
  ∀ step w v, Matched visible Holds w v →
    (look step w = none ∧ look' step v = none) ∨
      (look step w = some w ∧ look' step v = some v ∧ licence.allows step w)

/-- Who never interferes decides alike with himself, if anything is licensed. -/
lemma LockstepSupervisors.free {visible : Event → Bool} {Holds : World → Prop} :
    LockstepSupervisors visible .free Holds .free .free :=
  fun step w _ _ => .inr ⟨rfl, rfl, Licence.free_allows step w⟩

namespace World

section
variable {visible : Event → Bool} {licence : Licence} {Holds : World → Prop}
variable {look look' : Supervisor}

mutual

/-- **A step**, with the steps inside it. -/
theorem performUnder_lockstep (upheld : Upheld licence Holds)
    (agree : LockstepSupervisors visible licence Holds look look') {react other : Reaction}
    (reacts : LockstepReactions visible Holds react other) : ∀ (step : Step) (w v : World),
      Matched visible Holds w v → licence.allows step w →
      LockstepFor visible Holds w (performUnder look react step w) (performUnder look' other step v)
  | .act act, _, _, h, licensed => performAct_lockstep upheld reacts h act licensed
  | .batch state steps, _, _, h, _ =>
    performBatch_lockstep upheld reacts h state steps.length
      (performAllUnder_lockstep upheld agree reacts "batch" steps)
  | .subscribe on as steps times, _, _, h, _ =>
    performSubscribe_lockstep upheld reacts h on as steps times

/-- Steps one after the other. -/
theorem performAllUnder_lockstep (upheld : Upheld licence Holds)
    (agree : LockstepSupervisors visible licence Holds look look') {react other : Reaction}
    (reacts : LockstepReactions visible Holds react other) (runner : String) : ∀ (steps : List Step)
      (w v : World), Matched visible Holds w v →
      LockstepFor visible Holds w (performAllUnder look react runner steps w)
        (performAllUnder look' other runner steps v)
  | [], _, _, h => h.with _
  | step :: steps, w, v, h => by
    rw [performAllUnder, performAllUnder]
    rcases agree step w v h with ⟨left, right⟩ | ⟨left, right, licensed⟩
    all_goals rw [left, right]
    · exact performAllUnder_lockstep upheld agree reacts runner steps w v h
    · obtain ⟨w', v', result, left, right, first⟩ :=
        (performUnder_lockstep upheld agree reacts step w v h licensed).elim
      dsimp only
      rw [left, right]
      rcases result with message | answer
      · exact first.with _
      · have noted := first.trans (first.toMatched.record upheld (.nested runner answer))
        exact noted.transFor
          (performAllUnder_lockstep upheld agree reacts runner steps _ _ noted.toMatched)

end

variable (upheld : Upheld licence Holds)
    (agree : LockstepSupervisors visible licence Holds look look')
include upheld agree

/-- Listeners who run their programs under the two supervisors. -/
theorem reactionUnder_lockstep (depth : Nat) :
    LockstepReactions visible Holds (reactionUnder look depth) (reactionUnder look' depth) := by
  induction depth with
  | zero =>
      intro l payload w v h
      exact h.still upheld (h.butTrace.fire l payload) (still_record _ w)
  | succ depth ih =>
      exact respond_lockstep upheld fun name program =>
        performAllUnder_lockstep upheld agree ih name program

/-- **A run.** -/
theorem runUnder_lockstep (depth : Nat) (steps : List Step) {w v : World}
    (h : Matched visible Holds w v) :
    Lockstep visible Holds w (runUnder look (reactionUnder look depth) steps w)
      (runUnder look' (reactionUnder look' depth) steps v) := by
  induction steps generalizing w v with
  | nil => exact h.start
  | cons step steps ih =>
      rw [runUnder, runUnder]
      rcases agree step w v h with ⟨left, right⟩ | ⟨left, right, licensed⟩
      all_goals rw [left, right]
      · exact ih h
      · have reacts := reactionUnder_lockstep upheld agree depth
        have first := (performUnder_lockstep upheld agree reacts step w v h licensed).world
        exact first.trans (ih first.toMatched)

end

end World

/-! ## What is upheld all the way -/

/-- **What all transactions keep holds wherever licensed runs pass through.**  If it did not when a
step is performed, the step could be tampered with, and nobody who looks only at worlds with the
property would ever see a difference. -/
theorem Upheld.of_passes {licence : Licence} {Holds : World → Prop} (upheld : Upheld licence Holds)
    (start : Holds .empty) {look : Supervisor} (obeys : look.Obeys licence.allows) {depth : Nat}
    {steps : List Step} {w : World} (passes : World.Passes look depth steps w) : Holds w := by
  have begun : Matched (fun _ => true) Holds .empty .empty := ⟨.refl _, start⟩
  have agree : ∀ other : Supervisor, (∀ step w, Holds w → other step w = look step w) →
      LockstepSupervisors (fun _ => true) licence Holds look other := by
    intro other same step w v h
    obtain rfl := h.butTrace.eq
    rw [same step v h.kept]
    rcases seen : look step v with _ | v'
    · exact .inl ⟨rfl, rfl⟩
    · obtain ⟨rfl, allowed⟩ := obeys step v v' seen
      exact .inr ⟨rfl, rfl, allowed⟩
  rcases passes with ⟨step, other, elsewhere, differs⟩ | rfl
  · by_contra broken
    have blind : ∀ step' w', Holds w' → other step' w' = look step' w' := by
      intro step' w' holds
      refine elsewhere step' w' fun same => broken ?_
      obtain ⟨-, rfl⟩ := Prod.mk.inj same
      exact holds
    exact differs (World.runUnder_lockstep upheld (agree other blind) depth steps begun).butTrace.eq
  · exact (World.runUnder_lockstep upheld (agree look fun _ _ _ => rfl) depth steps begun).kept

end StoryEngine
