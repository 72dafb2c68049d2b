import StoryEngine.Proofs.Notifications

/-!
# Operations keep what engine steps keep

What is kept by engine steps and by notifications is kept by every operation on states and nodes.

* `World.commit_agrees`, `World.leaveBatch_agrees` — changes of a state.
* `World.addQuality_agrees`, `World.setQualities_agrees` and their like — edits of sets and cards.
* `World.addCard_agrees`, `World.rebindDeck_agrees` and their like — operations on decks.
* `World.pushNode_agrees`, `World.truthResult_agrees` — operations on nodes of any kind.
-/

namespace StoryEngine.World

/-! ## States -/

section
variable {rule : Rule} {Holds : World → Prop} {Stale : ExprId → World → Prop} {w : World}
variable {react other : Reaction} (kept : Preserved rule Holds Stale)
    (alike : Alike Holds react other)
include kept alike

lemma commit_agrees (hw : Holds w) (s : StateId) (contents : Contents)
    (changes : w.Changes s contents) :
    Agrees Holds w (w.commit react s contents) (w.commit other s contents) := by
  have amended := kept.agrees hw (.amend s contents changes) (steady_amend s contents w).held
  rw [commit_eq, commit_eq]
  split
  · exact amended.trans (f := callAll react s) (g := callAll other s)
      (callAll_agrees kept alike amended.kept s)
  · exact amended

lemma setValue_agrees (hw : Holds w) (s : StateId) (key : String) (v : Value) :
    Agrees Holds w (w.setValue react s key v) (w.setValue other s key v) := by
  unfold setValue
  split
  · next eq => exact commit_agrees kept alike hw s _ (.inl ⟨key, v, eq⟩)
  · exact .refl hw

lemma deleteValue_agrees (hw : Holds w) (s : StateId) (key : String) :
    AgreesFor Holds w (w.deleteValue react s key) (w.deleteValue other s key) := by
  unfold deleteValue
  split
  · next eq => exact (commit_agrees kept alike hw s _ (.inr ⟨key, _, eq⟩)).with _
  · exact .refl hw _

/-- **A batch closes**, as soon as names and holds do not account for it any more. -/
lemma leaveBatch_agrees (hw : Holds w) (s : StateId) {names : List (String × Object)}
    {held : List Handle} (granted : w.Granted [s] names held) :
    Agrees Holds (w.withRoots names held) ((w.withRoots names held).leaveBatch react s)
      ((w.withRoots names held).leaveBatch other s) := by
  have steady := steady_shut s (w.withRoots names held)
  have shut : Agrees Holds (w.withRoots names held) _ _ :=
    ⟨rfl, kept.engineStep hw (.shut s names held granted), steady.toLater, steady.held⟩
  rw [leaveBatch_eq, leaveBatch_eq]
  split
  · exact shut.trans (f := callAll react s) (g := callAll other s)
      (callAll_agrees kept alike shut.kept s)
  · exact shut

omit kept alike in
/-- A batch that was held on to is given up. -/
lemma granted_release {s : StateId} {held : List Handle} (was : w.held = [.batch s] ++ held) :
    w.Granted [s] w.names held where
  named _ _ := grants_of_named
  alive h mem := alive_of_held (was ▸ List.mem_append_right _ mem)
  distinct := id
  balanced _ t := by
    rw [openScopes, scopes, scopes, was, List.count_append]
    simp only [List.count_singleton, beq_iff_eq, Handle.batch.injEq]
    omega

omit alike in
lemma amendAll_agrees (hw : Holds w) (s : StateId) (pairs : List (String × Value)) :
    Agrees Holds w (w.amendAll s pairs) (w.amendAll s pairs) := by
  induction pairs generalizing w with
  | nil => exact .refl hw
  | cons pair rest ih =>
      obtain ⟨key, v⟩ := pair
      rw [amendAll]
      split
      · next contents eq =>
          have amended := kept.agrees hw (.amend s contents (.inl ⟨key, v, eq⟩))
            (steady_amend s contents w).held
          exact amended.trans (f := amendAll s rest) (g := amendAll s rest) (ih amended.kept)
      · exact ih hw

/-- **Several keys are set in one batch**, which is held on to meanwhile. -/
lemma extend_agrees (hw : Holds w) (s : StateId) (pairs : List (String × Value))
    (alive : w.Alive (.state s)) :
    Agrees Holds w (w.extend react s pairs) (w.extend other s pairs) := by
  have inside : ((w.enterBatch s).store s).openBatches ≠ 0 := by
    rw [store_enterBatch, if_pos rfl]
    exact Nat.succ_ne_zero _
  have steady := (steady_enterBatch s w).trans (steady_amendAll s pairs _)
  have written := amendAll_agrees kept (kept.engineStep hw (.enter s alive)) s pairs
  have hold : ((w.hold [.batch s]).enterBatch s).amendAll s pairs =
      ((w.enterBatch s).amendAll s pairs).hold [.batch s] :=
    amendAll_hold [.batch s] pairs inside
  rw [hold] at written
  have left := leaveBatch_agrees kept alike written.kept s (granted_release rfl)
  rw [extend, extend, setValues_eq _ _ inside, setValues_eq _ _ inside]
  exact ⟨left.same, left.kept, steady.toLater.trans left.later, left.held.trans steady.held⟩

/-! ## Edits -/

lemma addQuality_agrees (hw : Holds w) (q : SetId) (cond : String) (held : .set q ∈ w.held) :
    AgreesFor Holds w (w.addQuality react q cond) (w.addQuality other q cond) := by
  unfold addQuality
  split
  · exact .refl hw _
  · next usable =>
      have alive := setAlive_iff.2 (alive_of_held held)
      by_cases has : w.hasQuality q cond
      · rw [insertQuality, if_pos has]
        exact .refl hw _
      · have engineStep : EngineStep rule w ((w.insertQuality q cond).1.invalidateSet q) :=
          .addQuality q cond alive (by simpa using usable) (by simpa using has)
        have inserted : (w.insertQuality q cond).2 = true := by
          rw [insertQuality, if_neg has]
        rcases h : w.insertQuality q cond with ⟨v, added⟩
        rw [h] at engineStep inserted
        obtain rfl : added = true := inserted
        have held : v.held = w.held := by
          have := (onward_insertQuality q cond w).held
          rwa [h] at this
        have agrees := kept.agrees hw engineStep held
        exact (agrees.trans (f := pushSet react q none) (g := pushSet other q none)
          (pushSet_agrees kept alike agrees.kept q none)).with _

lemma removeQuality_agrees (hw : Holds w) (q : SetId) (cond : String) (held : .set q ∈ w.held) :
    AgreesFor Holds w (w.removeQuality react q cond) (w.removeQuality other q cond) := by
  unfold removeQuality
  split
  · exact .refl hw _
  · next m found =>
      have alive := setAlive_iff.2 (alive_of_held held)
      have agrees := kept.agrees hw (.dropMember q cond m alive found)
        (onward_dropMember q m w).held
      exact (agrees.trans (f := pushSet react q none) (g := pushSet other q none)
        (pushSet_agrees kept alike agrees.kept q none)).with _

lemma setQualities_agrees (hw : Holds w) (c : CardId) (conds : List String)
    (held : .card c ∈ w.held) :
    AgreesFor Holds w (w.setQualities react c conds) (w.setQualities other c conds) := by
  unfold setQualities
  split
  · exact .refl hw _
  · next usable =>
      have agrees :=
        kept.agrees hw (.replaceQualities c conds (cardAlive_iff.2 (alive_of_held held))
        (by simpa using usable)) (onward_replaceQualities c conds w).held
      rcases h : w.replaceQualities c conds with ⟨v, fault | _⟩
      all_goals rw [h] at agrees
      · exact agrees.with _
      · exact (agrees.trans (f := pushCard react c none) (g := pushCard other c none)
          (pushCard_agrees kept alike agrees.kept c none)).with _

omit alike in
lemma alive_qualities (hw : Holds w) {c : CardId} (held : .card c ∈ w.held) :
    w.Alive (.set (w.card c).qualities) :=
  .set (kept.bounded hw held) (alive_of_held held)

lemma addCardQuality_agrees (hw : Holds w) (c : CardId) (cond : String)
    (held : .card c ∈ w.held) :
    AgreesFor Holds w (w.addCardQuality react c cond) (w.addCardQuality other c cond) := by
  unfold addCardQuality
  split
  · exact .refl hw _
  · refine holdingFor_agrees kept hw ?_ fun hv => addQuality_agrees kept alike hv _ cond
      List.mem_cons_self
    simpa using alive_qualities kept hw held

lemma removeCardQuality_agrees (hw : Holds w) (c : CardId) (cond : String)
    (held : .card c ∈ w.held) :
    AgreesFor Holds w (w.removeCardQuality react c cond) (w.removeCardQuality other c cond) := by
  unfold removeCardQuality
  split
  · exact .refl hw _
  · refine holdingFor_agrees kept hw ?_ fun hv =>
      (removeQuality_agrees kept alike hv _ cond List.mem_cons_self).map
        fun removed => (.ok removed : Except NodeFault Bool)
    simpa using alive_qualities kept hw held

/-! ## Decks -/

lemma setCards_agrees (hw : Holds w) (d : DeckId) (cards : List CardId) (held : .deck d ∈ w.held)
    (cardsHeld : ∀ c ∈ cards, .card c ∈ w.held) (enters : ∀ c ∈ cards, rule.enters w d c) :
    Agrees Holds w (w.setCards react d cards) (w.setCards other d cards) := by
  have onward := onward_replaceCards d cards w
  have agrees := kept.agrees hw (.replaceCards d cards (deckAlive_iff.2 (alive_of_held held))
    (fun c mem => cardAlive_iff.2 (alive_of_held (cardsHeld c mem))) enters) onward.held
  exact agrees.trans (f := pushDeck react d none) (g := pushDeck other d none)
    (pushDeck_agrees kept alike agrees.kept d none (onward.held ▸ held))

lemma rebindDeck_agrees (hw : Holds w) (d : DeckId) (s : StateId) (held : .deck d ∈ w.held)
    (stateHeld : .state s ∈ w.held) :
    AgreesFor Holds w (w.rebindDeck react d s) (w.rebindDeck other d s) := by
  have onward := onward_bindDeck d s w
  have agrees := kept.agrees hw (.bind (.deck d) s (alive_of_held held)
    (stateAlive_iff.2 (alive_of_held stateHeld)) (rule.deck w d)) onward.held
  unfold rebindDeck
  rcases h : w.bindDeck d s with ⟨v, fault | _⟩
  all_goals
    rw [bindNode, h] at agrees
    rw [h] at onward
  · exact agrees.with _
  · exact (agrees.trans (f := pushDeck react d none) (g := pushDeck other d none)
      (pushDeck_agrees kept alike agrees.kept d none (onward.held ▸ held))).with _

lemma addCard_agrees (hw : Holds w) (d : DeckId) (c : CardId) (held : .deck d ∈ w.held)
    (cardHeld : .card c ∈ w.held) (enters : (w.deck d).disposed = false → rule.enters w d c) :
    AgreesFor Holds w (w.addCard react d c) (w.addCard other d c) := by
  unfold addCard
  split
  · exact .refl hw _
  · next isUsable =>
      have usable : (w.deck d).disposed = false := Bool.eq_false_iff.2 isUsable
      split
      · exact .refl hw _
      · next cardUsable =>
          have onward := onward_insertCard d c w
          have agrees := kept.agrees hw (.insertCard d c (deckAlive_iff.2 (alive_of_held held))
            (cardAlive_iff.2 (alive_of_held cardHeld)) usable
            (by simpa using cardUsable) (enters usable)) onward.held
          rcases h : w.insertCard d c with ⟨v, fault | _⟩
          all_goals rw [h] at agrees onward
          · exact agrees.with _
          · exact (agrees.trans (f := pushDeck react d none) (g := pushDeck other d none)
              (pushDeck_agrees kept alike agrees.kept d none (onward.held ▸ held))).with _

lemma removeCard_agrees (hw : Holds w) (d : DeckId) (c : CardId) (held : .deck d ∈ w.held)
    (cardHeld : .card c ∈ w.held) :
    AgreesFor Holds w (w.removeCard react d c) (w.removeCard other d c) := by
  unfold removeCard
  dsimp only
  split
  · exact .refl hw _
  · next taken =>
      have onward := onward_takeCard d c ((w.deck d).entries.partition (·.card == c)).1
        ((w.deck d).entries.partition (·.card == c)).2 w
      have agrees := kept.agrees hw (.takeCard d c _ _ (deckAlive_iff.2 (alive_of_held held))
        (cardAlive_iff.2 (alive_of_held cardHeld)) rfl (mt List.isEmpty_iff.2 taken)) onward.held
      exact (agrees.trans (f := pushDeck react d none) (g := pushDeck other d none)
        (pushDeck_agrees kept alike agrees.kept d none (onward.held ▸ held))).with _

lemma updateCard_agrees (hw : Holds w) (d : DeckId) (c : CardId) (held : .deck d ∈ w.held)
    (cardHeld : .card c ∈ w.held) (enters : (w.deck d).disposed = false → rule.enters w d c) :
    AgreesFor Holds w (w.updateCard react d c) (w.updateCard other d c) := by
  unfold updateCard
  split
  · exact .refl hw _
  · next isUsable =>
      have usable : (w.deck d).disposed = false := Bool.eq_false_iff.2 isUsable
      split
      · exact .refl hw _
      · next cardUsable =>
          dsimp only
          split
          · exact .refl hw _
          · next index old found =>
              have onward := onward_replaceCard d c index old w
              have agrees := kept.agrees hw (.replaceCard d c index old
                (deckAlive_iff.2 (alive_of_held held)) (cardAlive_iff.2 (alive_of_held cardHeld))
                usable (by simpa using cardUsable) (enters usable) found) onward.held
              rcases h : w.replaceCard d c index old with ⟨v, fault | _⟩
              all_goals rw [h] at agrees onward
              · exact agrees.with _
              · have noted := agrees.step kept
                  (.record (.note (.cardUpdated (w.card c).hash index)) fun _ => rfl) rfl
                exact (noted.trans (f := pushDeck react d none) (g := pushDeck other d none)
                  (pushDeck_agrees kept alike noted.kept d none (onward.held ▸ held))).with _

lemma shuffle_agrees (hw : Holds w) (d : DeckId) (held : .deck d ∈ w.held) :
    Agrees Holds w (w.shuffle react d) (w.shuffle other d) := by
  have agrees := kept.agrees hw (.reorder d) rfl
  exact agrees.trans (f := pushDeck react d none) (g := pushDeck other d none)
    (pushDeck_agrees kept alike agrees.kept d none held)

omit alike in
lemma pick_agrees (hw : Holds w) (d : DeckId) (cards : List CardId) :
    AgreesFor Holds w (w.pick d cards) (w.pick d cards) :=
  (kept.agrees hw (.pick d cards) rfl).with _

omit alike in
lemma draw_agrees (hw : Holds w) (d : DeckId) : AgreesFor Holds w (w.draw d) (w.draw d) := by
  have read := availableCards_agrees kept hw d
  unfold draw
  rcases h : w.availableCards d with ⟨v, fault | cards⟩
  all_goals rw [h] at read
  · exact read.world.with _
  · have picked := pick_agrees kept read.kept d cards
    exact ⟨rfl, picked.kept, read.later.trans picked.later, picked.held.trans read.held⟩

omit alike in
lemma drawIn_agrees (hw : Holds w) (d : DeckId) (s : StateId) :
    AgreesFor Holds w (w.drawIn d s) (w.drawIn d s) := by
  have read := filterChecked_agrees kept hw s (w.deck d).cards
  have picked := pick_agrees kept read.kept d (w.availableIn d s).2
  exact ⟨rfl, picked.kept, read.later.trans picked.later, picked.held.trans read.held⟩

/-! ## Nodes of any kind -/

lemma pushNode_agrees (hw : Holds w) (n : NodeId) (cause : Option Nat) (held : n.handle ∈ w.held) :
    Agrees Holds w (w.pushNode react n cause) (w.pushNode other n cause) := by
  cases n with
  | expr e => exact pushExpr_agrees kept alike hw e cause
  | set q => exact pushSet_agrees kept alike hw q cause
  | card c => exact pushCard_agrees kept alike hw c cause
  | deck d => exact pushDeck_agrees kept alike hw d cause held

omit alike in
lemma invalidateNode_agrees (hw : Holds w) (n : NodeId) :
    Agrees Holds w (w.invalidateNode n) (w.invalidateNode n) := by
  cases n with
  | expr e => exact kept.agrees hw (.invalidateExpr e) rfl
  | set q => exact kept.agrees hw (.invalidateSet q) rfl
  | card c => exact kept.agrees hw (.invalidateSet _) rfl
  | deck d => exact Agrees.foldl (fun c v hv => kept.agrees hv (.invalidateSet _) rfl) hw

omit alike in
lemma truthResult_agrees (hw : Holds w) (n : TruthId) :
    AgreesFor Holds w (w.truthResult n) (w.truthResult n) := by
  cases n with
  | expr e => exact exprResult_agrees kept hw e
  | set q => exact setResult_agrees kept hw q
  | card c => exact cardResult_agrees kept hw c

omit alike in
lemma truthCheck_agrees (hw : Holds w) (n : TruthId) (s : StateId) :
    AgreesFor Holds w (w.truthCheck n s) (w.truthCheck n s) := by
  cases n with
  | expr e => exact checkAgainst_agrees kept hw _ s
  | set q => exact allChecks_agrees kept hw s _
  | card c => exact allChecks_agrees kept hw s _

end

end StoryEngine.World
