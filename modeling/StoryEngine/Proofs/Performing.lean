import StoryEngine.Proofs.Operations

/-!
# Steps keep what engine steps keep

What is kept by the operations of a world is kept by every act of a script, and so by every step, by
every program of a listener, and by a whole run.

* `World.keep_agrees`, `World.giveUp_agrees` — storing an object, and giving one up.
* `World.performAct_agrees` — every act, as long as it is permitted.
* **`World.runUnder_agrees`** — a run: two supervisors who decide alike in all worlds with the
  property come to the same world, and it has the property.
* **`Preserved.of_permitted`** — the property holds in all worlds that permitted runs pass through.
* `Preserved.of_passes`, `Preserved.of_meets` — so it does in all worlds that lawful runs pass
  through, and whenever a step is performed in their course.
-/

namespace StoryEngine

/-! ## Names and the batches they stand for -/

/-- The open batch that an object is, if it is one. -/
def Object.batches : Object → List StateId
  | .handle (.batch s) => [s]
  | _ => []

lemma Object.batches_eq_nil {o : Object} (h : ∀ s, o ≠ .handle (.batch s)) : o.batches = [] := by
  unfold batches
  split
  · next s => exact absurd rfl (h s)
  · rfl

lemma Object.count_batches (o : Object) (s : StateId) :
    o.batches.count s = if o.handle? == some (.batch s) then 1 else 0 := by
  cases o with
  | handle h => cases h <;> simp [batches, handle?, List.count_singleton]
  | _ => rfl

namespace World

section
variable {w : World}

/-- The open batch that a name stands for, if it does for one. -/
def batchesOf (w : World) (name : String) : List StateId :=
  match w.find? name with
  | some o => o.batches
  | none => []

lemma distinct_erase (name : String) (h : Distinct w.names) : Distinct (w.erase name).names :=
  h.sublist (List.filter_sublist.map _)

lemma distinct_put (name : String) (o : Object) (h : Distinct w.names) :
    Distinct (w.put name o).names := by
  refine List.nodup_cons.2 ⟨fun mem => ?_, distinct_erase name h⟩
  obtain ⟨entry, isEntry, eq⟩ := List.mem_map.1 mem
  simpa [eq] using (List.mem_filter.1 isEntry).2

/-- A name that is forgotten stood for one thing at most. -/
lemma countP_erase {names : List (String × Object)} (distinct : Distinct names) (name : String)
    (p : Object → Bool) :
    (names.filter (·.1 != name)).countP (p ·.2) + (if (names.lookup name).any p then 1 else 0) =
      names.countP (p ·.2) := by
  induction names with
  | nil => rfl
  | cons entry rest ih =>
      obtain ⟨other, o⟩ := entry
      obtain ⟨new, others⟩ := List.nodup_cons.1 distinct
      by_cases here : other = name
      · subst here
        have gone : rest.filter (·.1 != other) = rest := by
          refine List.filter_eq_self.2 fun entry mem => ?_
          exact bne_iff_ne.2 fun eq => new (List.mem_map.2 ⟨entry, mem, eq⟩)
        simp [gone, List.countP_cons]
      · have kept : name ≠ other := Ne.symm here
        have rest := ih others
        simp only [List.lookup_cons, beq_eq_false_iff_ne.2 kept, List.filter_cons,
          bne_iff_ne.2 here, if_true, List.countP_cons, ← rest]
        omega

lemma scopes_erase (distinct : Distinct w.names) (name : String) (held : List Handle)
    (s : StateId) :
    scopes (w.erase name).names held s + (w.batchesOf name).count s = scopes w.names held s := by
  have count := countP_erase distinct name fun o => o.handle? == some (.batch s)
  have batches : (w.batchesOf name).count s =
      if (w.names.lookup name).any (fun o => o.handle? == some (.batch s)) then 1 else 0 := by
    rw [batchesOf, find?]
    cases w.names.lookup name with
    | none => rfl
    | some o => exact o.count_batches s
  have forgotten : (w.erase name).names = w.names.filter (·.1 != name) := rfl
  rw [scopes, scopes, batches, ← count, forgotten]
  omega

lemma scopes_put (name : String) (o : Object) (held : List Handle) (s : StateId) :
    scopes (w.put name o).names held s =
      scopes (w.erase name).names held s + o.batches.count s := by
  have named : (w.put name o).names = (name, o) :: (w.erase name).names := rfl
  rw [scopes, scopes, o.count_batches, named, List.countP_cons]
  exact Nat.add_right_comm _ _ _

end

/-! ## Storing and giving up -/

section
variable {rule : Rule} {Holds : World → Prop} {Stale : ExprId → World → Prop} {w : World}
variable {react other : Reaction} (kept : Preserved rule Holds Stale)
    (alike : Alike Holds react other)
include kept alike

omit kept alike in
lemma mem_put {name : String} {o : Object} {entry : String × Object}
    (mem : entry ∈ (w.put name o).names) : entry = (name, o) ∨ entry ∈ w.names := by
  rcases List.mem_cons.1 mem with rfl | mem
  · exact .inl rfl
  · exact .inr (List.mem_filter.1 mem).1

omit kept alike in
/-- A name is forgotten, with the open batch that it may have stood for. -/
lemma granted_erase (name : String) {held : List Handle} (alive : ∀ h ∈ held, w.Alive h)
    (same : ∀ s, held.count (.batch s) = w.held.count (.batch s)) :
    w.Granted (w.batchesOf name) (w.erase name).names held where
  named _ _ mem := grants_of_named (List.mem_filter.1 mem).1
  alive := alive
  distinct := distinct_erase name
  balanced distinct s := by rw [openScopes, scopes_erase distinct, scopes, scopes, same]

omit kept alike in
/-- A name gets another object, in place of the open batch that it may have stood for.  An open
batch that gets a name was held on to before. -/
lemma granted_put (name : String) {o : Object} (grants : w.grants o) {held : List Handle}
    (alive : ∀ h ∈ held, w.Alive h)
    (moved : ∀ s, held.count (.batch s) + o.batches.count s = w.held.count (.batch s)) :
    w.Granted (w.batchesOf name) (w.put name o).names held where
  named other o' mem := by
    rcases mem_put mem with eq | mem
    · obtain ⟨-, rfl⟩ := Prod.mk.inj eq
      exact grants
    · exact grants_of_named mem
  alive := alive
  distinct := distinct_put name o
  balanced distinct s := by
    have erased := scopes_erase distinct name held s
    have put := scopes_put (w := w) name o held s
    have moved := moved s
    simp only [openScopes, scopes] at *
    omega

/-- **An object is given up** whose name now stands for something else, or for nothing.  If it is an
open batch, its state is held on to until the batch has closed. -/
lemma giveUp_agrees (hw : Holds w) {o : Object} {names : List (String × Object)}
    {held : List Handle}
    (granted : w.Granted o.batches names held) (grants : w.grants o) :
    Agrees Holds (w.withRoots names held) ((w.withRoots names held).giveUp react o)
      ((w.withRoots names held).giveUp other o) := by
  unfold giveUp
  split
  · exact kept.agrees (kept.engineStep hw (.roots names held granted)) (.unsubscribeFrom _)
      (onward_unsubscribeFrom _ _ _).held
  · next s =>
      have held : w.Granted [s] names ([.state s] ++ held) := by
        refine { granted with alive := ?_, balanced := fun distinct t => ?_ }
        · intro h mem
          rcases List.mem_append.1 mem with mem | mem
          · exact List.mem_singleton.1 mem ▸ .state grants
          · exact granted.alive h mem
        · rw [← granted.balanced distinct t, scopes, scopes, List.count_append]
          simp [Object.batches]
      exact letGo_agrees (w := w.withRoots names _) kept (by simp)
        (leaveBatch_agrees kept alike hw s held)
  · next notSubscription notBatch =>
      refine .refl (kept.engineStep hw (.roots names held ?_))
      cases o with
      | handle h =>
          cases h with
          | batch s => exact absurd rfl (notBatch s)
          | _ => exact granted
      | _ => exact granted

/-- **An object is stored under a name**, and what was there before is given up. -/
lemma keep_agrees (hw : Holds w) (name : String) {o : Object} (grants : w.grants o)
    {held : List Handle} (alive : ∀ h ∈ held, w.Alive h)
    (moved : ∀ s, held.count (.batch s) + o.batches.count s = w.held.count (.batch s)) :
    Agrees Holds (w.withRoots w.names held) ((w.withRoots w.names held).keep react name o)
      ((w.withRoots w.names held).keep other name o) := by
  have granted := granted_put name grants alive moved
  have stored : Agrees Holds (w.withRoots (w.put name o).names held)
      ((w.withRoots w.names held).keep react name o)
      ((w.withRoots w.names held).keep other name o) := by
    unfold keep
    dsimp only
    rw [batchesOf] at granted
    rcases found : w.find? name with _ | old
    all_goals
      have found' : (w.withRoots w.names held).find? name = w.find? name := rfl
      rw [found', found]
      rw [found] at granted
    · exact .refl (kept.engineStep hw (.roots _ _ granted))
    · exact giveUp_agrees kept alike hw granted (grants_of_named (mem_of_find? found))
  exact ⟨stored.same, stored.kept, (later_withRoots _ _ _).trans stored.later, stored.held⟩

/-- An object that is alive already, and no open batch, is stored. -/
lemma stored_agrees (hw : Holds w) {name : String} {o : Object} (grants : w.grants o)
    (noBatch : o.batches = []) :
    AgreesFor Holds w (w.stored react name o) (w.stored other name o) := by
  refine (keep_agrees kept alike hw name grants (fun h mem => alive_of_held mem) fun s => ?_).with _
  rw [noBatch, List.count_nil, Nat.add_zero]

/-- **A new object is stored.**  It was held on to since it was made. -/
lemma stored_new_agrees (hw : Holds w) {made : World} (onward : w.Onward made) {name : String}
    {h : Handle} (noBatch : ∀ s, h ≠ .batch s) (engineStep : EngineStep rule w (made.hold [h])) :
    AgreesFor Holds w (made.stored react name (.handle h))
      (made.stored other name (.handle h)) := by
  have grants : (made.hold [h]).grants (.handle h) := alive_of_held List.mem_cons_self
  have alive : ∀ x ∈ made.held, (made.hold [h]).Alive x :=
    fun x mem => alive_of_held (List.mem_cons_of_mem _ mem)
  have stored : Agrees Holds made _ _ :=
    keep_agrees kept alike (kept.engineStep hw engineStep) name grants alive fun s => by
      rw [hold, count_hold fun x mem => List.mem_singleton.1 mem ▸ noBatch,
        Object.batches_eq_nil fun t eq => noBatch t (Object.handle.inj eq)]
      rfl
  exact Agrees.with ⟨stored.same, stored.kept, onward.toLater.trans stored.later,
    stored.held.trans onward.held⟩ _

/-- A name is forgotten and its object given up. -/
lemma discard_agrees (hw : Holds w) {name : String} {o : Object} (found : w.find? name = some o) :
    Agrees Holds w (w.discard react name o) (w.discard other name o) := by
  have granted := granted_erase (w := w) name (fun h mem => alive_of_held mem) fun _ => rfl
  rw [batchesOf, found] at granted
  have given := giveUp_agrees kept alike hw granted (grants_of_named (mem_of_find? found))
  exact ⟨given.same, given.kept, (later_withRoots w _ _).trans given.later, given.held⟩

/-! ## Looking up -/

omit alike in
/-- **Going on with what a name holds on to.** -/
lemma withHandle_agrees (hw : Holds w) {α : Type} {select : Handle → Option α} {name : String}
    {k k' : α → Doing} (noBatch : ∀ s, select (.batch s) = none)
    (body : ∀ h a, w.find? name = some (.handle h) → select h = some a → Holds (w.hold [h]) →
      AgreesFor Holds (w.hold [h]) (k a (w.hold [h])) (k' a (w.hold [h]))) :
    AgreesFor Holds w (withHandle select name k w) (withHandle select name k' w) := by
  unfold withHandle
  split
  · next h found =>
      split
      · next a selected =>
          refine holdingFor_agrees kept hw ?_ (body h a found selected)
          intro x mem
          obtain rfl := List.mem_singleton.1 mem
          refine ⟨.root (rooted_of_find? found), ?_⟩
          rintro s rfl
          rw [noBatch] at selected
          cases selected
      · exact .refl hw _
  · exact .refl hw _

omit kept alike in
lemma hold_hold (hs hs' : List Handle) : (w.hold hs).hold hs' = w.hold (hs' ++ hs) := by
  rw [hold, hold, hold, List.append_assoc]

omit alike in
lemma withState?_agrees (hw : Holds w) {name : Option String} {k k' : Option StateId → Doing}
    (nowhere : AgreesFor Holds w (k none w) (k' none w))
    (somewhere : ∀ s, w.isRooted (.state s) → Holds (w.hold [.state s]) →
      AgreesFor Holds (w.hold [.state s]) (k (some s) (w.hold [.state s]))
        (k' (some s) (w.hold [.state s]))) :
    AgreesFor Holds w (withState? name k w) (withState? name k' w) := by
  cases name with
  | none => exact nowhere
  | some name =>
      refine withHandle_agrees kept hw (fun _ => rfl) fun h s found selected hv => ?_
      obtain rfl := Handle.state?_eq_some.1 selected
      exact somewhere s (rooted_of_find? found) hv

omit alike in
/-- **Going on with named cards**, which are all held on to. -/
lemma withCards_agrees (hw : Holds w) {names : List String} {k k' : List CardId → Doing}
    (body : ∀ cs hs, (∀ h ∈ hs, w.isRooted h) → (∀ c ∈ cs, .card c ∈ hs) →
      (∀ c ∈ cs, ∃ name ∈ names, w.Names name Handle.card? c) → Holds (w.hold hs) →
      AgreesFor Holds (w.hold hs) (k cs (w.hold hs)) (k' cs (w.hold hs))) :
    AgreesFor Holds w (withCards names k w) (withCards names k' w) := by
  induction names generalizing w k k' with
  | nil => exact body [] [] nofun nofun nofun hw
  | cons name names ih =>
      refine withHandle_agrees kept hw (fun _ => rfl) fun h c found selected hv => ?_
      refine ih hv fun cs hs rooted held named hv' => ?_
      rw [hold_hold] at hv' ⊢
      have isRooted : w.isRooted h := rooted_of_find? found
      refine body (c :: cs) (hs ++ [h]) ?_ ?_ ?_ hv'
      · intro h' mem
        rcases List.mem_append.1 mem with mem | mem
        · rcases isRooted_hold.1 (rooted h' mem) with mem | old
          · rwa [List.mem_singleton.1 mem]
          · exact old
        · rwa [List.mem_singleton.1 mem]
      · intro c' mem
        rcases List.mem_cons.1 mem with rfl | mem
        · exact List.mem_append_right _ (by simpa using (Handle.card?_eq_some.1 selected).symm)
        · exact List.mem_append_left _ (held c' mem)
      · intro c' mem
        rcases List.mem_cons.1 mem with rfl | mem
        · exact ⟨name, List.mem_cons_self, h, found, selected⟩
        · obtain ⟨other, isName, named⟩ := named c' mem
          exact ⟨other, List.mem_cons_of_mem _ isName, named⟩

omit alike in
/-- Going on with the hash of a new card, while the card it is taken from is held on to. -/
lemma withHash_agrees (hw : Holds w) {source : HashSource} {label : String}
    {k k' : CardHash → Doing}
    (body : ∀ hs hash, Holds (w.hold hs) →
      AgreesFor Holds (w.hold hs) (k hash (w.hold hs)) (k' hash (w.hold hs))) :
    AgreesFor Holds w (withHash source label k w) (withHash source label k' w) := by
  cases source with
  | fresh => exact body [] _ hw
  | spelled text =>
      rw [withHash, withHash]
      split
      · exact body [] _ hw
      · exact .refl hw _
  | of card => exact withHandle_agrees kept hw (fun _ => rfl) fun h c _ _ hv => body [h] _ hv

/-! ## Acts -/

lemma performHandle_agrees (hw : Holds w) (act : HandleAct)
    (lawful : rule.permits (.act (.handle act)) w) :
    AgreesFor Holds w (performHandle react act w) (performHandle other act w) := by
  cases act with
  | clone source as =>
      refine AgreesFor.map ?_ Except.ok
      split
      · exact .refl hw _
      · exact .refl hw _
      · next o noBatch _ found =>
          refine stored_agrees kept alike hw (grants_of_named (mem_of_find? found)) ?_
          exact Object.batches_eq_nil noBatch
      · exact .refl hw _
  | drop name =>
      simp only [performHandle]
      split
      · next o found => exact (discard_agrees kept alike hw found).with _
      · exact .refl hw _
  | unsubscribe name =>
      refine AgreesFor.map ?_ Except.ok
      split
      · next l found => exact (discard_agrees kept alike hw found).with _
      · exact .refl hw _
  | sameObject a b =>
      refine AgreesFor.map ?_ Except.ok
      split <;> exact .refl hw _
  | describe name =>
      simp only [performHandle]
      split <;> exact .refl hw _
  | observe name => exact .refl hw _
  | listenerCount name =>
      refine AgreesFor.map ?_ Except.ok
      exact withHandle_agrees kept hw (fun _ => rfl) fun h em _ _ hv => .refl hv _
  | clearListeners name =>
      refine AgreesFor.map ?_ Except.ok
      refine withHandle_agrees kept hw (fun _ => rfl) fun h em found selected hv => ?_
      have clears := lawful em ⟨h, found, selected⟩
      refine (kept.agrees hv (.clearListeners em (rule.clears_hold ?_ clears))
        (onward_clearListeners em _).held).with _
      intro h' mem
      rw [List.mem_singleton.1 mem]
      exact rooted_of_find? found
  | size name =>
      refine AgreesFor.map ?_ Except.ok
      split
      · split <;> exact .refl hw _
      · exact .refl hw _
  | panic message => exact .refl hw _

lemma performState_agrees (hw : Holds w) (act : StateAct) :
    AgreesFor Holds w (performState react act w) (performState other act w) := by
  cases act with
  | create as =>
      exact stored_new_agrees kept alike hw (onward_addStore w) nofun .newState
  | set state key datum =>
      simp only [performState]
      split
      · exact .refl hw _
      · next v _ => exact withHandle_agrees kept hw (fun _ => rfl) fun h s _ _ hv =>
          (setValue_agrees kept alike hv s key v).with _
  | delete state key =>
      exact withHandle_agrees kept hw (fun _ => rfl) fun h s _ _ hv =>
        (deleteValue_agrees kept alike hv s key).map Answer.value
  | get state key => exact withHandle_agrees kept hw (fun _ => rfl) fun h s _ _ hv => .refl hv _
  | «exists» state key =>
    exact withHandle_agrees kept hw (fun _ => rfl) fun h s _ _ hv => .refl hv _
  | keys state => exact withHandle_agrees kept hw (fun _ => rfl) fun h s _ _ hv => .refl hv _
  | snapshot state => exact withHandle_agrees kept hw (fun _ => rfl) fun h s _ _ hv => .refl hv _
  | extend state pairs =>
      simp only [performState]
      split
      · exact .refl hw _
      · next values _ =>
          refine withHandle_agrees kept hw (fun _ => rfl) fun h s _ selected hv => ?_
          obtain rfl := Handle.state?_eq_some.1 selected
          exact (extend_agrees kept alike hv s values (alive_of_held List.mem_cons_self)).with _
  | openBatch state as =>
      refine withHandle_agrees kept hw (fun _ => rfl) fun h s _ selected hv => ?_
      obtain rfl := Handle.state?_eq_some.1 selected
      have entered := kept.engineStep hv (.enter s (alive_of_held List.mem_cons_self))
      have grants : (((w.hold [.state s]).hold [.batch s]).enterBatch s).grants
          (.handle (.batch s)) := alive_of_held List.mem_cons_self
      have alive : ∀ x ∈ (w.hold [.state s]).held,
          (((w.hold [.state s]).hold [.batch s]).enterBatch s).Alive x :=
        fun x mem => alive_of_held (List.mem_cons_of_mem _ mem)
      have stored : Agrees Holds ((w.hold [.state s]).enterBatch s) _ _ :=
        keep_agrees kept alike entered as grants alive fun t => by
          simp [Object.batches, enterBatch, hold, onStore, record, List.count_cons]
      exact Agrees.with ⟨stored.same, stored.kept,
        (steady_enterBatch s _).toLater.trans stored.later, stored.held⟩ _
  | inBatch state => exact withHandle_agrees kept hw (fun _ => rfl) fun h s _ _ hv => .refl hv _
  | revision state => exact withHandle_agrees kept hw (fun _ => rfl) fun h s _ _ hv => .refl hv _
  | downgrade state as =>
      exact withHandle_agrees kept hw (fun _ => rfl) fun h s _ _ hv =>
        stored_agrees kept alike hv trivial rfl
  | weakDefault as => exact stored_agrees kept alike hw trivial rfl
  | upgrade weak as =>
      simp only [performState, withWeak]
      split
      · split
        · split
          · next alive =>
              exact stored_agrees kept alike hw (stateAlive_iff.1 alive) rfl
          · exact .refl hw _
        · exact .refl hw _
      · exact .refl hw _
  | weakIs weak state =>
      simp only [performState]
      unfold withWeak
      split
      · exact withHandle_agrees kept hw (fun _ => rfl) fun h s _ _ hv => .refl hv _
      · exact .refl hw _

lemma performBoard_agrees (hw : Holds w) (act : BoardAct) :
    AgreesFor Holds w (performBoard react act w) (performBoard other act w) := by
  cases act with
  | create as =>
      exact stored_new_agrees kept alike hw (onward_addBoard w) nofun .newBoard
  | emit name message =>
      exact withHandle_agrees kept hw (fun _ => rfl) fun h b _ _ hv =>
        (emit_agrees kept alike hv b message).with _

lemma performPlain_agrees (hw : Holds w) (act : PlainAct) :
    AgreesFor Holds w (performPlain react act w) (performPlain other act w) := by
  cases act with
  | create as cond => exact stored_agrees kept alike hw trivial rfl
  | change name cond =>
      simp only [performPlain]
      unfold withPlain
      split
      · next found =>
          have grants : w.grants (.plain (.new cond)) := trivial
          have granted := granted_put name grants (fun h mem => alive_of_held mem) fun _ => rfl
          rw [batchesOf, found] at granted
          exact (kept.agrees hw (.roots _ w.held granted) rfl).with _
      · exact .refl hw _
  | check name state =>
      refine withHandle_agrees kept hw (fun _ => rfl) fun h s _ _ hv => ?_
      unfold withPlain
      split
      · exact (checkAgainst_agrees kept hv _ s).map Answer.flag
      · exact .refl hv _

lemma performNode_agrees (hw : Holds w) (act : NodeAct)
    (lawful : rule.permits (.act (.node act)) w) :
    AgreesFor Holds w (performNode react act w) (performNode other act w) := by
  have rooted : ∀ {name h}, w.find? name = some (.handle h) → ∀ h' ∈ [h], w.isRooted h' := by
    intro name h found h' mem
    rw [List.mem_singleton.1 mem]
    exact rooted_of_find? found
  cases act with
  | kind name => exact withHandle_agrees kept hw (fun _ => rfl) fun h n _ _ hv => .refl hv _
  | bind name state =>
      refine withHandle_agrees kept hw (fun _ => rfl) fun h n found selected hv => ?_
      refine withHandle_agrees kept hv (fun _ => rfl) fun h' s found' selected' hv' => ?_
      have direct := rule.direct_hold (rooted found) (lawful n ⟨h, found, selected⟩)
      have direct := rule.direct_hold (fun x mem => by
        rw [List.mem_singleton.1 mem]
        exact rooted_of_find? found') direct
      obtain rfl := Handle.node?_eq_some.1 selected
      obtain rfl := Handle.state?_eq_some.1 selected'
      have alive : ((w.hold [n.handle]).hold [.state s]).Alive n.handle :=
        alive_of_held (List.mem_cons_of_mem _ List.mem_cons_self)
      have stateAlive : ((w.hold [n.handle]).hold [.state s]).stateAlive s :=
        stateAlive_iff.2 (alive_of_held List.mem_cons_self)
      have agrees := kept.agrees hv' (.bind n s alive stateAlive direct)
        (onward_bindNode n s _).held
      have bound : AgreesFor Holds _ (((w.hold [n.handle]).hold [.state s]).bindNode n s)
          (((w.hold [n.handle]).hold [.state s]).bindNode n s) :=
        ⟨rfl, agrees.kept, agrees.later, agrees.held⟩
      exact bound.map _
  | unbind name =>
      refine withHandle_agrees kept hw (fun _ => rfl) fun h n found selected hv => ?_
      have direct := rule.direct_hold (rooted found) (lawful n ⟨h, found, selected⟩)
      obtain rfl := Handle.node?_eq_some.1 selected
      exact (kept.agrees hv (.unbind n (alive_of_held List.mem_cons_self) direct)
        (onward_unbindNode n _).held).with _
  | invalidate name =>
      exact withHandle_agrees kept hw (fun _ => rfl) fun h n _ _ hv =>
        (invalidateNode_agrees kept hv n).with _
  | notify name =>
      refine withHandle_agrees kept hw (fun _ => rfl) fun h n _ selected hv => ?_
      obtain rfl := Handle.node?_eq_some.1 selected
      exact (pushNode_agrees kept alike hv n none List.mem_cons_self).with _
  | dispose name =>
      refine withHandle_agrees kept hw (fun _ => rfl) fun h n found selected hv => ?_
      have direct := rule.direct_hold (rooted found) (lawful n ⟨h, found, selected⟩)
      obtain rfl := Handle.node?_eq_some.1 selected
      exact (kept.agrees hv (.dispose n (alive_of_held List.mem_cons_self) direct)
        (onward_disposeNode n _).held).with _
  | isBound name => exact withHandle_agrees kept hw (fun _ => rfl) fun h n _ _ hv => .refl hv _
  | isDisposed name => exact withHandle_agrees kept hw (fun _ => rfl) fun h n _ _ hv => .refl hv _
  | cacheState name => exact withHandle_agrees kept hw (fun _ => rfl) fun h n _ _ hv => .refl hv _
  | result name =>
      exact withHandle_agrees kept hw (fun _ => rfl) fun h n _ _ hv =>
        (truthResult_agrees kept hv n).map (Answer.ofExcept Answer.flag)
  | check name state =>
      exact withHandle_agrees kept hw (fun _ => rfl) fun h s _ _ hv =>
        withHandle_agrees kept hv (fun _ => rfl) fun h' n _ _ hv' =>
          (truthCheck_agrees kept hv' n s).map Answer.flag

lemma performExpr_agrees (hw : Holds w) (act : ExprAct) :
    AgreesFor Holds w (performExpr react act w) (performExpr other act w) := by
  cases act with
  | create as cond state =>
      rw [performExpr, performExpr]
      refine withState?_agrees kept hw ?_ fun s _ hv => ?_
      · exact stored_new_agrees kept alike hw (onward_newExpr cond none w) nofun
          (.newExpr cond none nofun)
      · refine stored_new_agrees kept alike hv (onward_newExpr cond (some s) _) nofun
          (.newExpr cond (some s) ?_)
        rintro s' ⟨⟩
        exact stateAlive_iff.2 (alive_of_held List.mem_cons_self)
  | change name cond =>
      exact withHandle_agrees kept hw (fun _ => rfl) fun h e _ _ hv =>
        (changeExpr_agrees kept alike hv e cond).with _

lemma performSet_agrees (hw : Holds w) (act : SetAct) :
    AgreesFor Holds w (performSet react act w) (performSet other act w) := by
  cases act with
  | create as conds state =>
      rw [performSet, performSet]
      refine withState?_agrees kept hw ?_ fun s _ hv => ?_
      · exact stored_new_agrees kept alike hw (onward_newSet conds none w) nofun
          (.newSet conds none nofun)
      · refine stored_new_agrees kept alike hv (onward_newSet conds (some s) _) nofun
          (.newSet conds (some s) ?_)
        rintro s' ⟨⟩
        exact stateAlive_iff.2 (alive_of_held List.mem_cons_self)
  | add name cond =>
      refine withHandle_agrees kept hw (fun _ => rfl) fun h q _ selected hv => ?_
      obtain rfl := Handle.set?_eq_some.1 selected
      exact (addQuality_agrees kept alike hv q cond List.mem_cons_self).map
        (Answer.ofExcept Answer.flag)
  | remove name cond =>
      refine withHandle_agrees kept hw (fun _ => rfl) fun h q _ selected hv => ?_
      obtain rfl := Handle.set?_eq_some.1 selected
      exact (removeQuality_agrees kept alike hv q cond List.mem_cons_self).map Answer.flag
  | has name cond => exact withHandle_agrees kept hw (fun _ => rfl) fun h q _ _ hv => .refl hv _
  | member name index as =>
      refine withHandle_agrees kept hw (fun _ => rfl) fun h q _ selected hv => ?_
      obtain rfl := Handle.set?_eq_some.1 selected
      split
      · next e mem =>
          refine stored_agrees kept alike hv (.expr (List.mem_of_getElem? mem) ?_) rfl
          exact alive_of_held List.mem_cons_self
      · exact .refl hv _

lemma stored_newCard_agrees (hw : Holds w) (hash : CardHash) (content : String)
    (conds : List String)
    (s : Option StateId) (alive : ∀ s' ∈ s, w.stateAlive s') (as : String) :
    AgreesFor Holds w
      ((w.newCard hash content conds s).1.stored react as
        (.handle (.card (w.newCard hash content conds s).2)))
      ((w.newCard hash content conds s).1.stored other as
        (.handle (.card (w.newCard hash content conds s).2))) :=
  stored_new_agrees kept alike hw (onward_newCard hash content conds s w) nofun
    (.newCard hash content conds s alive)

lemma performCard_agrees (hw : Holds w) (act : CardAct) :
    AgreesFor Holds w (performCard react act w) (performCard other act w) := by
  cases act with
  | create as content conds state source =>
      rw [performCard, performCard]
      refine withState?_agrees kept hw ?_ fun s _ hv => ?_
      · refine withHash_agrees kept hw fun hs hash hv => ?_
        exact stored_newCard_agrees kept alike hv hash content conds none (by simp) as
      · refine withHash_agrees kept hv fun hs hash hv => ?_
        dsimp only
        refine stored_newCard_agrees kept alike hv hash content conds (some s) ?_ as
        intro s' mem
        obtain rfl := Option.some.inj mem
        exact stateAlive_iff.2 (alive_of_held (List.mem_append_right hs List.mem_cons_self))
  | setContent name content =>
      exact withHandle_agrees kept hw (fun _ => rfl) fun h c _ _ hv =>
        (kept.agrees hv (.setContent c content) rfl).with _
  | info name => exact withHandle_agrees kept hw (fun _ => rfl) fun h c _ _ hv => .refl hv _
  | sameHash a b =>
      exact withHandle_agrees kept hw (fun _ => rfl) fun h c _ _ hv =>
        withHandle_agrees kept hv (fun _ => rfl) fun h' d _ _ hv' => .refl hv' _
  | qualities name as =>
      refine withHandle_agrees kept hw (fun _ => rfl) fun h c _ selected hv => ?_
      obtain rfl := Handle.card?_eq_some.1 selected
      exact stored_agrees kept alike hv (alive_qualities kept hv List.mem_cons_self) rfl
  | setQualities name conds =>
      refine withHandle_agrees kept hw (fun _ => rfl) fun h c _ selected hv => ?_
      obtain rfl := Handle.card?_eq_some.1 selected
      exact (setQualities_agrees kept alike hv c conds List.mem_cons_self).map _
  | addQuality name cond =>
      refine withHandle_agrees kept hw (fun _ => rfl) fun h c _ selected hv => ?_
      obtain rfl := Handle.card?_eq_some.1 selected
      exact (addCardQuality_agrees kept alike hv c cond List.mem_cons_self).map _
  | removeQuality name cond =>
      refine withHandle_agrees kept hw (fun _ => rfl) fun h c _ selected hv => ?_
      obtain rfl := Handle.card?_eq_some.1 selected
      exact (removeCardQuality_agrees kept alike hv c cond List.mem_cons_self).map _

omit kept alike in
lemma rooted_singleton {name : String} {h : Handle} (found : w.find? name = some (.handle h)) :
    ∀ h' ∈ [h], w.isRooted h' := by
  intro h' mem
  rw [List.mem_singleton.1 mem]
  exact rooted_of_find? found

lemma showStored_agrees (hw : Holds w) (as : Option String) (c : CardId)
    (alive : w.Alive (.card c)) :
    AgreesFor Holds w (w.showStored react as c) (w.showStored other as c) := by
  cases as with
  | none => exact .refl hw _
  | some name =>
      have grants : w.grants (.handle (.card c)) := alive
      have stored : Agrees Holds w (w.keep react name (.handle (.card c)))
          (w.keep other name (.handle (.card c))) := (stored_agrees kept alike hw grants rfl).world
      have same := stored.same
      refine ⟨?_, stored.kept, stored.later, stored.held⟩
      rw [showStored, showStored]
      simp only [same]

omit kept alike in
lemma withConfig_agrees (hw : Holds w) (source : ConfigSource) {k k' : DeckConfig → Doing}
    (body : ∀ config, AgreesFor Holds w (k config w) (k' config w)) :
    AgreesFor Holds w (withConfig source k w) (withConfig source k' w) := by
  cases source with
  | none => exact body _
  | seed seed => exact body _
  | text text =>
      rcases h : DeckConfig.ofText text with fault | config
      all_goals simp only [withConfig, h]
      · exact .refl hw _
      · exact body config

/-- **A new deck, stored under a name**, if its cards and its state are held on to. -/
lemma storedDeck_agrees (hw : Holds w) (as : String) (config : DeckConfig) {cs : List CardId}
    (state : Option StateId) (stateHeld : ∀ s ∈ state, .state s ∈ w.held)
    (cardsHeld : ∀ c ∈ cs, .card c ∈ w.held)
    (enters : ∀ c ∈ cs, rule.enters w ⟨w.decks.size⟩ c) :
    AgreesFor Holds w
      ((w.newDeck config cs state).1.stored react as
        (.handle (.deck (w.newDeck config cs state).2)))
      ((w.newDeck config cs state).1.stored other as
        (.handle (.deck (w.newDeck config cs state).2))) := by
  refine stored_new_agrees kept alike hw (onward_newDeck config cs state w) nofun
    (.newDeck config cs state ?_ ?_ enters)
  · exact fun s mem => stateAlive_iff.2 (alive_of_held (stateHeld s mem))
  · exact fun c mem => cardAlive_iff.2 (alive_of_held (cardsHeld c mem))

omit alike in
/-- **Going on with a named deck and a named card** that may enter the deck if the deck can be
used. -/
lemma withEntering_agrees (hw : Holds w) {name card : String} {k k' : DeckId → CardId → Doing}
    (lawful : ∀ d, w.Names name Handle.deck? d → (w.deck d).disposed = false →
      ∀ c, w.Names card Handle.card? c → rule.enters w d c)
    (body : ∀ {v} d c, Holds v → .deck d ∈ v.held → .card c ∈ v.held →
      ((v.deck d).disposed = false → rule.enters v d c) →
      AgreesFor Holds v (k d c v) (k' d c v)) :
    AgreesFor Holds w (withDeck name (fun d => withCard card (k d)) w)
      (withDeck name (fun d => withCard card (k' d)) w) := by
  refine withHandle_agrees kept hw (fun _ => rfl) fun h d found selected hv => ?_
  refine withHandle_agrees kept hv (fun _ => rfl) fun h' c found' selected' hv' => ?_
  have enters := fun usable => rule.enters_hold (rooted_singleton found')
    (rule.enters_hold (rooted_singleton found)
      (lawful d ⟨h, found, selected⟩ usable c ⟨h', found', selected'⟩))
  obtain rfl := Handle.deck?_eq_some.1 selected
  obtain rfl := Handle.card?_eq_some.1 selected'
  exact body d c hv' (List.mem_cons_of_mem _ List.mem_cons_self) List.mem_cons_self enters

lemma performDeck_agrees (hw : Holds w) (act : DeckAct)
    (lawful : rule.permits (.act (.deck act)) w) :
    AgreesFor Holds w (performDeck react act w) (performDeck other act w) := by
  cases act with
  | create as cards state source =>
      rw [performDeck, performDeck]
      refine withCards_agrees kept hw fun cs hs rooted held named hv => ?_
      have cardsHeld : ∀ c ∈ cs, .card c ∈ (w.hold hs).held :=
        fun c mem => List.mem_append_left _ (held c mem)
      have enters : ∀ c ∈ cs, rule.enters (w.hold hs) ⟨w.decks.size⟩ c := by
        intro c mem
        obtain ⟨name, isName, named⟩ := named c mem
        exact rule.enters_hold rooted (lawful name isName c named)
      refine withState?_agrees kept hv ?_ fun s isRooted hv' => ?_
      · exact withConfig_agrees hv source fun config =>
          storedDeck_agrees kept alike hv as config none nofun cardsHeld enters
      · refine withConfig_agrees hv' source fun config =>
          storedDeck_agrees kept alike hv' as config (some s) ?_
            (fun c mem => List.mem_cons_of_mem _ (cardsHeld c mem)) ?_
        · rintro s' ⟨⟩
          exact List.mem_cons_self
        · intro c mem
          refine rule.enters_hold ?_ (enters c mem)
          intro h mem
          rwa [List.mem_singleton.1 mem]
  | cards name => exact withHandle_agrees kept hw (fun _ => rfl) fun h d _ _ hv => .refl hv _
  | setCards name cards =>
      rw [performDeck, performDeck]
      refine withCards_agrees kept hw fun cs hs rooted held named hv => ?_
      refine withHandle_agrees kept hv (fun _ => rfl) fun h d found selected hv' => ?_
      have enters : ∀ c ∈ cs, rule.enters ((w.hold hs).hold [h]) d c := by
        intro c mem
        obtain ⟨card, isName, named⟩ := named c mem
        refine rule.enters_hold (rooted_singleton found) (rule.enters_hold rooted ?_)
        exact lawful d ⟨h, found, selected⟩ card isName c named
      obtain rfl := Handle.deck?_eq_some.1 selected
      refine (setCards_agrees kept alike hv' d cs List.mem_cons_self ?_ enters).with _
      exact fun c mem => List.mem_append_right _ (List.mem_append_left _ (held c mem))
  | state name => exact withHandle_agrees kept hw (fun _ => rfl) fun h d _ _ hv => .refl hv _
  | setState name state =>
      refine withHandle_agrees kept hw (fun _ => rfl) fun h d _ selected hv => ?_
      refine withHandle_agrees kept hv (fun _ => rfl) fun h' s _ selected' hv' => ?_
      obtain rfl := Handle.deck?_eq_some.1 selected
      obtain rfl := Handle.state?_eq_some.1 selected'
      exact (rebindDeck_agrees kept alike hv' d s (List.mem_cons_of_mem _ List.mem_cons_self)
        List.mem_cons_self).map _
  | getCard name index as =>
      refine withHandle_agrees kept hw (fun _ => rfl) fun h d _ selected hv => ?_
      obtain rfl := Handle.deck?_eq_some.1 selected
      split
      · next c mem =>
          exact showStored_agrees kept alike hv as c
            (.card (List.mem_of_getElem? mem) (alive_of_held List.mem_cons_self))
      · exact .refl hv _
  | addCard name card =>
      exact withEntering_agrees kept hw lawful fun d c hv deckHeld cardHeld enters =>
        (addCard_agrees kept alike hv d c deckHeld cardHeld enters).map _
  | updateCard name card =>
      exact withEntering_agrees kept hw lawful fun d c hv deckHeld cardHeld enters =>
        (updateCard_agrees kept alike hv d c deckHeld cardHeld enters).map _
  | removeCard name card =>
      refine withHandle_agrees kept hw (fun _ => rfl) fun h d _ selected hv => ?_
      refine withHandle_agrees kept hv (fun _ => rfl) fun h' c _ selected' hv' => ?_
      obtain rfl := Handle.deck?_eq_some.1 selected
      obtain rfl := Handle.card?_eq_some.1 selected'
      exact (removeCard_agrees kept alike hv' d c (List.mem_cons_of_mem _ List.mem_cons_self)
        List.mem_cons_self).map _
  | isCardAvailable name card =>
      refine withHandle_agrees kept hw (fun _ => rfl) fun h d _ _ hv => ?_
      refine withHandle_agrees kept hv (fun _ => rfl) fun h' c _ _ hv' => ?_
      refine AgreesFor.map ?_ _
      unfold isCardAvailable
      split
      · exact .refl hv' _
      · next s _ =>
          exact (allChecks_agrees kept hv' s _).map fun value => (.ok value : Except NodeFault Bool)
  | shuffle name =>
      refine withHandle_agrees kept hw (fun _ => rfl) fun h d _ selected hv => ?_
      obtain rfl := Handle.deck?_eq_some.1 selected
      exact (shuffle_agrees kept alike hv d List.mem_cons_self).with _
  | available name =>
      refine withHandle_agrees kept hw (fun _ => rfl) fun h d _ _ hv => ?_
      have read := availableCards_agrees kept hv d
      exact ⟨rfl, read.kept, read.later, read.held⟩
  | availableIn name state =>
      refine withHandle_agrees kept hw (fun _ => rfl) fun h d _ _ hv => ?_
      refine withHandle_agrees kept hv (fun _ => rfl) fun h' s _ _ hv' => ?_
      have read := filterChecked_agrees kept hv' s (((w.hold [h]).hold [h']).deck d).cards
      exact ⟨rfl, read.kept, read.later, read.held⟩
  | draw name =>
      refine withHandle_agrees kept hw (fun _ => rfl) fun h d _ _ hv => ?_
      have drawn := draw_agrees kept hv d
      exact ⟨rfl, drawn.kept, drawn.later, drawn.held⟩
  | drawIn name state =>
      refine withHandle_agrees kept hw (fun _ => rfl) fun h d _ _ hv => ?_
      refine withHandle_agrees kept hv (fun _ => rfl) fun h' s _ _ hv' => ?_
      have drawn := drawIn_agrees kept hv' d s
      exact ⟨rfl, drawn.kept, drawn.later, drawn.held⟩

/-- **An act.** -/
theorem performAct_agrees (hw : Holds w) (act : Act) (lawful : rule.permits (.act act) w) :
    AgreesFor Holds w (performAct react act w) (performAct other act w) := by
  cases act with
  | handle act => exact performHandle_agrees kept alike hw act lawful
  | state act => exact (performState_agrees kept alike hw act).map _
  | board act => exact (performBoard_agrees kept alike hw act).map _
  | plain act => exact (performPlain_agrees kept alike hw act).map _
  | node act => exact (performNode_agrees kept alike hw act lawful).map _
  | expr act => exact (performExpr_agrees kept alike hw act).map _
  | set act => exact (performSet_agrees kept alike hw act).map _
  | card act => exact (performCard_agrees kept alike hw act).map _
  | deck act => exact (performDeck_agrees kept alike hw act lawful).map _

/-! ## Steps -/

lemma performBatch_agrees (hw : Holds w) (state : String) (count : Nat)
    {body body' : World → World × Option PanicMessage}
    (agrees : ∀ v, Holds v → AgreesFor Holds v (body v) (body' v)) :
    AgreesFor Holds w (performBatch react state count body w)
      (performBatch other state count body' w) := by
  unfold performBatch
  split
  · exact .refl hw _
  · next s named =>
      have isRooted : w.isRooted (.state s) := by
        unfold stateNamed? at named
        split at named
        · next h found =>
            rw [Handle.state?_eq_some.1 named] at found
            exact rooted_of_find? found
        · cases named
      refine holdingFor_agrees kept hw (by simpa using Alive.root isRooted) fun hv => ?_
      -- the batch is held on to while it is open, and no longer
      have entered : Holds (((w.hold [.state s]).enterBatch s).hold [.batch s]) :=
        kept.engineStep hv (.enter s (alive_of_held List.mem_cons_self))
      have inside := agrees _ entered
      have left := leaveBatch_agrees kept alike inside.kept s (granted_release inside.held)
      have opened := steady_enterBatch s (w.hold [.state s])
      have before := opened.toLater.trans (later_hold [.batch s] _)
      dsimp only [holdingFor]
      rw [← inside.same]
      have done : Agrees Holds (w.hold [.state s]) _ _ :=
        ⟨left.same, left.kept, (before.trans inside.later).trans
          ((later_withRoots _ _ _).trans left.later), left.held⟩
      split
      · exact done.with _
      · exact done.with _

lemma performSubscribe_agrees (hw : Holds w) (on as : String) (program : List Step) (times : Nat) :
    AgreesFor Holds w (performSubscribe react on as program times w)
      (performSubscribe other on as program times w) := by
  refine AgreesFor.map ?_ _
  refine withHandle_agrees kept hw (fun _ => rfl) fun h em _ selected hv => ?_
  obtain rfl := Handle.emitter?_eq_some.1 selected
  have listed :=
    kept.agrees hv (.newListener em as program times (alive_of_held List.mem_cons_self))
    (newListener_held em as program times _)
  refine listed.transFor (f := fun v => v.stored react as (.subscription ⟨w.listeners.size⟩))
    (g := fun v => v.stored other as (.subscription ⟨w.listeners.size⟩)) ?_
  refine stored_agrees kept alike listed.kept (.inl ?_) rfl
  have size : ((w.hold [em.handle]).newListener em as program times).1.listeners.size =
      w.listeners.size + 1 := by
    rw [newListener, Table.size_add]
    cases em <;> rfl
  rw [size]
  exact Nat.lt_succ_self _

omit alike in
/-- **A listener is called and runs its program.** -/
lemma respond_agrees {run run' : String → List Step → World → World × Option PanicMessage}
    (agrees : ∀ name program v, Holds v →
      AgreesFor Holds v (run name program v) (run' name program v)) :
    Alike Holds (respond run) (respond run') := by
  intro l payload w hw
  have fired : Agrees Holds w (w.fire l payload) (w.fire l payload) :=
    kept.agrees hw (.record _ fun _ => rfl) rfl
  have onward : Agrees Holds (w.fire l payload) (respond run l payload w)
      (respond run' l payload w) := by
    unfold respond
    dsimp only
    split
    · exact .refl fired.kept
    · next remaining left =>
        have spent := kept.agrees fired.kept (.spend l remaining left) rfl
        have ran := agrees ((w.fire l payload).listener l).name
          ((w.fire l payload).listener l).program _ spent.kept
        rw [← ran.same]
        rcases h : run ((w.fire l payload).listener l).name ((w.fire l payload).listener l).program
          ((w.fire l payload).spend l remaining) with ⟨v, _ | message⟩
        all_goals rw [h] at ran
        · exact ⟨rfl, ran.kept, spent.later.trans ran.later, ran.held.trans spent.held⟩
        · have noted := note_agrees kept ran.kept
            (.listenerPanicked ((w.fire l payload).listener l).emitter message.text?)
          exact ⟨rfl, noted.kept, (spent.later.trans ran.later).trans noted.later,
            noted.held.trans (ran.held.trans spent.held)⟩
  exact ⟨onward.same, onward.kept, fired.later.trans onward.later, onward.held.trans fired.held⟩

end

/-! ## Runs -/

section
variable {rule : Rule} {Holds : World → Prop} {Stale : ExprId → World → Prop}
variable {look look' : Supervisor}

mutual

/-- **A step**, with the steps inside it. -/
theorem performUnder_agrees (kept : Preserved rule Holds Stale) (obeys : look.Obeys rule.permits)
    (agree : ∀ step w, Holds w → look' step w = look step w) {react other : Reaction}
    (alike : Alike Holds react other) : ∀ (step : Step) (w : World), Holds w → rule.permits step w →
      AgreesFor Holds w (performUnder look react step w) (performUnder look' other step w)
  | .act act, _, hw, lawful => performAct_agrees kept alike hw act lawful
  | .batch state steps, _, hw, _ =>
    performBatch_agrees kept alike hw state steps.length
      fun v hv => performAllUnder_agrees kept obeys agree alike "batch" steps v hv
  | .subscribe on as steps times, _, hw, _ =>
    performSubscribe_agrees kept alike hw on as steps times

/-- Steps one after the other. -/
theorem performAllUnder_agrees (kept : Preserved rule Holds Stale) (obeys : look.Obeys rule.permits)
    (agree : ∀ step w, Holds w → look' step w = look step w) {react other : Reaction}
    (alike : Alike Holds react other) (runner : String) : ∀ (steps : List Step) (w : World),
      Holds w → AgreesFor Holds w (performAllUnder look react runner steps w)
        (performAllUnder look' other runner steps w)
  | [], _, hw => .refl hw _
  | step :: steps, w, hw => by
    rw [performAllUnder, performAllUnder, agree step w hw]
    rcases seen : look step w with _ | v
    · exact performAllUnder_agrees kept obeys agree alike runner steps w hw
    · obtain ⟨rfl, lawful⟩ := obeys step w v seen
      have first := performUnder_agrees kept obeys agree alike step v hw lawful
      dsimp only
      rw [← first.same]
      rcases h : performUnder look react step v with ⟨v', message | answer⟩
      all_goals rw [h] at first
      · exact ⟨rfl, first.kept, first.later, first.held⟩
      · have noted := kept.agrees first.kept (.record (.nested runner answer) fun _ => rfl) rfl
        have others := performAllUnder_agrees kept obeys agree alike runner steps _ noted.kept
        exact ⟨others.same, others.kept, (first.later.trans noted.later).trans others.later,
          others.held.trans (noted.held.trans first.held)⟩

end

variable (kept : Preserved rule Holds Stale) (obeys : look.Obeys rule.permits)
variable (agree : ∀ step w, Holds w → look' step w = look step w)
include kept obeys agree

/-- Listeners who run their programs under the two supervisors. -/
theorem reactionUnder_alike (depth : Nat) :
    Alike Holds (reactionUnder look depth) (reactionUnder look' depth) := by
  induction depth with
  | zero =>
      intro l payload w hw
      exact kept.agrees hw (.record _ fun _ => rfl) rfl
  | succ depth ih =>
      exact respond_agrees kept fun name program v hv =>
        performAllUnder_agrees kept obeys agree ih name program v hv

/-- **A run.** -/
theorem runUnder_agrees (depth : Nat) (steps : List Step) {w : World} (hw : Holds w) :
    Agrees Holds w (runUnder look (reactionUnder look depth) steps w)
      (runUnder look' (reactionUnder look' depth) steps w) := by
  induction steps generalizing w with
  | nil => exact .refl hw
  | cons step steps ih =>
      rw [runUnder, runUnder, agree step w hw]
      rcases seen : look step w with _ | v
      · exact ih hw
      · obtain ⟨rfl, lawful⟩ := obeys step w v seen
        have alike := reactionUnder_alike kept obeys agree depth
        have first := (performUnder_agrees kept obeys agree alike step v hw lawful).world
        exact first.trans (f := runUnder look (reactionUnder look depth) steps)
          (g := runUnder look' (reactionUnder look' depth) steps) (ih first.kept)

end

end World

variable {rule : Rule} {Holds : World → Prop} {Stale : ExprId → World → Prop}

/-- **What is kept holds in every world that a permitted run passes through.**  Otherwise, if a step
is performed there, the step could be tampered with, and nobody who looks only at worlds with the
property would ever see a difference. -/
theorem Preserved.of_permitted (kept : Preserved rule Holds Stale) (start : Holds .empty)
    {look : Supervisor} (obeys : look.Obeys rule.permits) {depth : Nat} {steps : List Step}
    {w : World} (passes : World.Passes look depth steps w) : Holds w := by
  rcases passes with ⟨step, other, elsewhere, differs⟩ | rfl
  · by_contra broken
    refine differs (World.runUnder_agrees kept obeys ?_ depth steps start).same.symm
    intro step' w' hw'
    refine elsewhere step' w' fun same => broken ?_
    obtain ⟨-, rfl⟩ := Prod.mk.inj same
    exact hw'
  · exact (World.runUnder_agrees kept obeys (fun _ _ _ => rfl) depth steps start).kept

/-- **What is kept holds in every world that a lawful run passes through.** -/
theorem Preserved.of_passes (kept : Preserved rule Holds Stale) (start : Holds .empty)
    {look : Supervisor}
    (obeys : look.Obeys rule.allows) {depth : Nat} {steps : List Step} {w : World}
    (passes : World.Passes look depth steps w) : Holds w :=
  kept.of_permitted start obeys.permits passes

/-- **What is kept holds whenever a step is performed** in the course of a lawful run. -/
theorem Preserved.of_meets (kept : Preserved rule Holds Stale) (start : Holds .empty)
    {look : Supervisor}
    (obeys : look.Obeys rule.allows) {depth : Nat} {steps : List Step} {step : Step} {w : World}
    (meets : World.Meets look depth steps step w) : Holds w :=
  kept.of_passes start obeys (.inl ⟨step, meets⟩)

end StoryEngine
