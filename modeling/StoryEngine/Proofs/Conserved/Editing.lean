import StoryEngine.Proofs.Conserved.Binding
import StoryEngine.Proofs.Edited

/-!
# Making and editing nodes keeps the account

Whoever owns something listens to it.  A new owner subscribes first and then puts the number into
its place; an owner that gives something up lets the number go.

* `World.conserves_newExpr`, `World.conserves_newSet`, `World.conserves_newCard`,
  `World.conserves_newDeck` — new nodes.
* `World.conserves_insertQuality`, `World.clears_dropMember` — the members of a quality set.
* `World.conserves_turnTo`, `World.clears_exchangeSet`, `World.conserved_replaceQualities` — a card
  turns to another quality set.
* `World.conserves_replaceCards` and its like — the cards of a deck.
-/

namespace StoryEngine.World

variable {rest : Holdings} {w v : World}

/-! ## New objects -/

lemma clears_addExpr (w : World) {n : ExprNode} (listeners : n.listeners = .empty)
    (holdings : n.holdings = 0) : Clears [] rest rest w { w with exprs := w.exprs.add n } := by
  have read : ∀ e : ExprId, ({ w with exprs := w.exprs.add n } : World).expr e =
      if e.place = w.exprs.size then n else w.expr e := fun e => Table.get_add _ _ _
  have unmade : ∀ e : ExprId, e.place = w.exprs.size → w.expr e = default := fun e eq =>
    Table.get_of_size_le (Nat.le_of_eq eq.symm)
  refine clears_of_same ?_ ?_
  · funext em
    rcases em with s | e | q | c | d | b <;> try rfl
    rw [registry, registry, read]
    split
    · next eq => rw [unmade e eq, listeners]; rfl
    · rfl
  · funext h
    rcases h with l | e | q | c | d <;> try rfl
    rw [World.holdings, World.holdings, read]
    split
    · next eq => rw [unmade e eq, holdings]; rfl
    · rfl

lemma clears_addSet (w : World) : Clears [] rest rest w { w with sets := w.sets.add .new } := by
  refine clears_of_same ?_ ?_
  · funext em
    rcases em with s | e | q | c | d | b <;> try rfl
    rw [registry, registry, set_addSet]
  · funext h
    rcases h with l | e | q | c | d <;> try rfl
    rw [World.holdings, World.holdings, set_addSet]

lemma clears_emptyDeck (config : DeckConfig) (w : World) :
    Clears [] rest rest w (w.emptyDeck config) := by
  have read : ∀ d : DeckId, (w.emptyDeck config).deck d =
      if d.place = w.decks.size then .new config.generator else w.deck d :=
    fun d => Table.get_add _ _ _
  have unmade : ∀ d : DeckId, d.place = w.decks.size → w.deck d = default := fun d eq =>
    Table.get_of_size_le (Nat.le_of_eq eq.symm)
  have new : ∀ generator, (DeckNode.new generator).listeners = .empty ∧
      (DeckNode.new generator).holdings = 0 := fun _ => ⟨rfl, rfl⟩
  have none : (default : DeckNode).listeners = .empty ∧ (default : DeckNode).holdings = 0 :=
    new default
  refine clears_of_same ?_ ?_
  · funext em
    rcases em with s | e | q | c | d | b <;> try rfl
    rw [registry, registry, read]
    split
    · next eq => rw [unmade d eq, (new _).1, none.1]
    · rfl
  · funext h
    rcases h with l | e | q | c | d <;> try rfl
    rw [World.holdings, World.holdings, read]
    split
    · next eq => rw [unmade d eq, (new _).2, none.2]
    · rfl

/-- A new card puts into its place what it holds of its quality set. -/
lemma clears_addCard (w : World) {n : CardNode} (listeners : n.listeners = .empty) :
    Clears [] (Pi.single (.node (.card ⟨w.cards.size⟩)) n.holdings) 0 w
      { w with cards := w.cards.add n } := by
  have read : ∀ c : CardId, ({ w with cards := w.cards.add n } : World).card c =
      if c.place = w.cards.size then n else w.card c := fun c => Table.get_add _ _ _
  refine clears_of_eq ?_ ?_
  · funext em
    rcases em with s | e | q | c | d | b <;> try rfl
    rw [registry, registry, read]
    split
    · next eq =>
        rw [card, Table.get_of_size_le (Nat.le_of_eq eq.symm), listeners]
        rfl
    · rfl
  · funext h
    rw [add_zero, Pi.add_apply]
    by_cases here : h = .node (.card ⟨w.cards.size⟩)
    · subst here
      rw [Pi.single_eq_same, World.holdings, World.holdings, Table.size_add, read,
        if_pos (Nat.lt_succ_self _), if_neg (Nat.lt_irrefl _), if_pos rfl, zero_add]
    · rw [Pi.single_eq_of_ne here, add_zero]
      rcases h with l | e | q | c | d <;> try rfl
      have other : c.place ≠ w.cards.size := fun eq => here (by rw [← eq])
      have bound : c.place < w.cards.size + 1 ↔ c.place < w.cards.size := by omega
      rw [World.holdings, World.holdings, Table.size_add, read, if_neg other]
      simp only [bound]

lemma conserves_newExpr (cond : String) (state : Option StateId) (w : World) :
    Conserves 0 0 w (w.newExpr cond state).1 := by
  have added : Conserves 0 0 w { w with exprs := w.exprs.add (.new cond) } :=
    (clears_addExpr w rfl rfl).conserves
  cases state with
  | none => exact added
  | some s => exact added.trans (conserves_attachExpr _ s _)

/-! ## Owners subscribe -/

/-- Someone subscribes to a node, and the number is in hand. -/
lemma conserves_of_subscribe {em : Emitter} {h : Subscriber}
    (registry : v.registry = Function.update w.registry em ((w.registry em).subscribe h))
    (holdings : v.holdings = w.holdings) :
    Conserves 0 (Pi.single h {(em, (w.registry em).next)}) w v := by
  refine ⟨fun {hand since} c => ?_⟩
  rw [add_zero] at c
  rw [Conserved, ← add_assoc, registry, holdings]
  exact c.subscribe em h

lemma conserves_subscribeExpr (e : ExprId) (l : ExprListener) (w : World) :
    Conserves 0 (Pi.single l.subscriber {(.expr e, (w.expr e).listeners.next)}) w
      (w.onExpr e fun n => { n with listeners := n.listeners.subscribe l }) := by
  refine conserves_of_subscribe ?_ ?_
  · rw [registry_onExpr, Registry.map_subscribe]
    rfl
  · rw [holdings_onExpr]
    exact Function.update_eq_self _ _

lemma conserves_subscribeSet (q : SetId) (c : CardId) (w : World) :
    Conserves 0 (Pi.single (.node (.card c)) {(.set q, (w.set q).listeners.next)}) w
      (w.subscribeSet q c).1 := by
  refine conserves_of_subscribe ?_ ?_
  · rw [subscribeSet, registry_onSet, Registry.map_subscribe]
    rfl
  · rw [subscribeSet, holdings_onSet]
    exact Function.update_eq_self _ _

lemma conserves_enterCard (d : DeckId) {c : CardId} (exist : c.place < w.cards.size) :
    Conserves 0 (Pi.single (.node (.deck d)) {(w.enterCard d c).2.holding}) w
      (w.enterCard d c).1 := by
  have before : w.holdings (.node (.card c)) = (w.card c).holdings := if_pos exist
  refine conserves_of_subscribe ?_ ?_
  · rw [enterCard, registry_onCard, Registry.map_subscribe]
    rfl
  · rw [enterCard, holdings_onCard exist]
    exact Function.update_eq_iff.2 ⟨before.symm, fun _ _ => rfl⟩

/-! ## Members -/

/-- A quality set puts into its place what it holds of another member. -/
lemma conserves_append (q : SetId) (m : Member) (w : World) :
    Conserves (Pi.single (.node (.set q)) {m.holding}) 0 w
      (w.onSet q fun n => { n with members := n.members ++ [m] }) := by
  have placed : Clears [] (Pi.single (.node (.set q)) {m.holding}) (Pi.single (.node (.set q)) 0) w
      (w.onSet q fun n => { n with members := n.members ++ [m] }) := by
    refine clears_onSet q (fun _ => rfl) ?_
    rw [add_zero, SetNode.holdings, SetNode.holdings, add_assoc, List.map_append,
      ← Multiset.coe_add]
    rfl
  rw [Pi.single_zero] at placed
  exact placed.conserves

/-- **A quality set gets another member.** -/
lemma conserves_insertQuality (q : SetId) (cond : String) (w : World) :
    Conserves 0 0 w (w.insertQuality q cond).1 := by
  by_cases has : w.hasQuality q cond
  · rw [insertQuality_of_has has]
    exact .refl w
  · rw [insertQuality_of_lacks (by simpa using has)]
    refine Conserves.trans ?_ (conserves_append q (w.newMember q cond) _)
    exact (conserves_newExpr cond _ w).trans (conserves_subscribeExpr _ (.owner q) _)

/-- **A new quality set.** -/
lemma conserves_newSet (conds : List String) (state : Option StateId) (w : World) :
    Conserves 0 0 w (w.newSet conds state).1 := by
  refine Conserves.trans ?_ (Conserves.foldl (fun w cond _ => conserves_insertQuality _ cond w) _)
  have added : Conserves 0 0 w { w with sets := w.sets.add .new } := (clears_addSet w).conserves
  cases state with
  | none => exact added
  | some s => exact added.trans (conserves_attachSet _ s _)

/-- A quality set lets go what it holds of a member. -/
lemma clears_eraseMember {q : SetId} {m : Member} (mem : m ∈ (w.set q).members) :
    Clears [] 0 (Pi.single (.node (.set q)) {m.holding}) w
      (w.onSet q fun n => { n with members := n.members.erase m }) := by
  have out : Clears [] (Pi.single (.node (.set q)) 0) (Pi.single (.node (.set q)) {m.holding}) w
      (w.onSet q fun n => { n with members := n.members.erase m }) := by
    refine clears_onSet q (fun _ => rfl) ?_
    have parts : (((w.set q).members.erase m).map Member.holding : Multiset (Emitter × Nat)) +
        {m.holding} = ((w.set q).members.map Member.holding : Multiset (Emitter × Nat)) := by
      rw [add_comm]
      exact Multiset.coe_eq_coe.2 ((List.perm_cons_erase mem).symm.map Member.holding)
    rw [add_zero, SetNode.holdings, SetNode.holdings, add_assoc, parts]
  rwa [Pi.single_zero] at out

/-- **A quality set loses a member**, which is disposed of. -/
lemma clears_dropMember {q : SetId} {m : Member} (mem : m ∈ (w.set q).members) :
    Clears [.expr m.expr] 0 0 w (w.dropMember q m) := by
  refine Clears.after ?_ (clears_keepSet q (fun _ => rfl) fun _ => rfl)
  refine Clears.after ?_ (clears_unsubscribeFrom (.node (.set q)) (.expr m.expr) m.number _)
  exact (clears_eraseMember mem).before (clears_disposeExpr m.expr _).frame_zero

/-! ## Cards -/

lemma conserves_bareCard (hash : CardHash) (content : String) (conds : List String) (w : World) :
    Conserves 0 0 w (w.bareCard hash content conds) := by
  have listening := (conserves_newSet conds none w).trans
    (conserves_subscribeSet ⟨w.sets.size⟩ ⟨w.cards.size⟩ _)
  have cards : ((w.newSet conds none).1.subscribeSet ⟨w.sets.size⟩ ⟨w.cards.size⟩).1.cards =
      w.cards := newSet_cards conds w
  have added := (clears_addCard
    ((w.newSet conds none).1.subscribeSet ⟨w.sets.size⟩ ⟨w.cards.size⟩).1
    (n := ⟨hash, content, ⟨w.sets.size⟩,
      ((w.newSet conds none).1.set ⟨w.sets.size⟩).listeners.next, none, .fresh, .empty, false⟩)
    rfl).conserves
  rw [cards] at added
  exact listening.trans added

/-- **A new card.** -/
lemma conserves_newCard (hash : CardHash) (content : String) (conds : List String)
    (state : Option StateId) (w : World) :
    Conserves 0 0 w (w.newCard hash content conds state).1 := by
  have bare := conserves_bareCard hash content conds w
  rw [newCard_eq]
  cases state with
  | none => exact bare
  | some s =>
      refine bare.trans (conserves_attachCard ?_ s)
      rw [bareCard, Table.size_add]
      exact Nat.lt_succ_self _

lemma conserves_bindSetWhere (c : CardId) (q : SetId) (w : World) :
    Conserves 0 0 w (w.bindSetWhere c q).1 := by
  unfold bindSetWhere
  split
  · exact conserves_bindSet q _ w
  · exact .refl w

/-- A card turns to another quality set; what it held of the one it had is in hand. -/
lemma conserves_turnTo {c : CardId} (exist : c.place < w.cards.size) (q : SetId) :
    Conserves 0 (Pi.single (.node (.card c)) (w.card c).holdings) w (w.turnTo c q) := by
  refine (conserves_subscribeSet q c w).trans (Clears.conserves ?_)
  exact clears_onCard (w := (w.subscribeSet q c).1) exist (f := fun n =>
    { n with qualities := q, number := (w.set q).listeners.next }) (fun _ => rfl) (add_comm _ _)

/-- The quality set that a card has turned away from is disposed of. -/
lemma clears_exchangeSet (c : CardId) (q : SetId) (w : World) :
    Clears ((w.turnTo c q).setAndMembers (w.card c).qualities)
      (Pi.single (.node (.card c)) (w.card c).holdings) 0 (w.turnTo c q) (w.exchangeSet c q) := by
  rw [exchangeSet_eq]
  refine (clears_disposeSet _ _).frame_zero.after ?_
  exact clears_unsubscribeFrom (.node (.card c)) (.set (w.card c).qualities) (w.card c).number _

/-! ### What a new quality set does not touch -/

lemma insertQuality_set {q other : SetId} (ne : q ≠ other) (cond : String) (w : World) :
    (w.insertQuality q cond).1.set other = w.set other := by
  by_cases has : w.hasQuality q cond
  · rw [insertQuality_of_has has]
  · rw [insertQuality_of_lacks (by simpa using has), set_onSet, if_neg ne]
    exact (sameSets_newExpr cond _ w).set_eq other

lemma insertQuality_exprs (q : SetId) (cond : String) (w : World) :
    w.exprs.size ≤ (w.insertQuality q cond).1.exprs.size :=
  (wider_insertQuality q cond w : w.Wider (fun _ => False) _).exprs

/-- A new set touches no other set and nobody who listens to an expression, and can be used. -/
lemma newSet_spares (conds : List String) (w : World) :
    (∀ other : SetId, other ≠ ⟨w.sets.size⟩ → (w.newSet conds none).1.set other = w.set other) ∧
    (∀ e : ExprId, e.place < w.exprs.size →
      ((w.newSet conds none).1.expr e).listeners = (w.expr e).listeners) ∧
    ((w.newSet conds none).1.set ⟨w.sets.size⟩).disposed = false := by
  have each : ∀ (conds : List String) (q : SetId) (w : World),
      (∀ other, other ≠ q →
        (conds.foldl (fun w cond => (w.insertQuality q cond).1) w).set other = w.set other) ∧
      (∀ e : ExprId, e.place < w.exprs.size →
        ((conds.foldl (fun w cond => (w.insertQuality q cond).1) w).expr e).listeners =
          (w.expr e).listeners) ∧
      ((conds.foldl (fun w cond => (w.insertQuality q cond).1) w).set q).disposed =
        (w.set q).disposed := by
    intro conds q
    induction conds with
    | nil => exact fun _ => ⟨fun _ _ => rfl, fun _ _ => rfl, rfl⟩
    | cons cond rest ih =>
        intro w
        obtain ⟨sets, exprs, disposed⟩ := ih (w.insertQuality q cond).1
        refine ⟨fun other ne => ?_, fun e bound => ?_, ?_⟩
        · exact (sets other ne).trans (insertQuality_set ne.symm cond w)
        · exact (exprs e (Nat.lt_of_lt_of_le bound (insertQuality_exprs q cond w))).trans
            (congrArg ExprNode.listeners (expr_insertQuality bound q cond))
        · exact disposed.trans (by rw [set_insertQuality])
  obtain ⟨sets, exprs, disposed⟩ := each conds ⟨w.sets.size⟩ { w with sets := w.sets.add .new }
  refine ⟨fun other ne => (sets other ne).trans (set_addSet w other), exprs, disposed.trans ?_⟩
  rw [set_addSet, set, Table.get_of_size_le (Nat.le_refl _)]
  rfl

lemma members_turnTo (c : CardId) (q other : SetId) (w : World) :
    (w.turnTo c q).members other = w.members other := by
  have members : ((w.subscribeSet q c).1.set other).members = (w.set other).members := by
    rw [subscribeSet, set_onSet]
    split <;> rfl
  exact congrArg (List.map _) members

/-- Where a card turns to another set, nobody else gives out a number. -/
lemma registry_turnTo {c : CardId} {q : SetId} {em : Emitter} (ne : em ≠ .set q) (w : World) :
    (w.turnTo c q).registry em = w.registry em := by
  rcases em with s | e | other | c' | d | b <;> try rfl
  · have elsewhere : q ≠ other := fun eq => ne (by rw [eq])
    have same : (w.turnTo c q).set other = w.set other := by
      exact (set_onSet w q other _).trans (if_neg elsewhere)
    rw [registry, same]
    rfl
  · rw [registry, card_turnTo]
    split <;> rfl

lemma BindingsOnly.setListeners_eq (h : w.BindingsOnly v) (q : SetId) :
    (v.set q).listeners = (w.set q).listeners := by
  rw [h.set q]

/-- The world in which a card turns to a new quality set. -/
def withNewSet (w : World) (c : CardId) (conds : List String) : World :=
  ((w.newSet conds none).1.bindSetWhere c ⟨w.sets.size⟩).1

/-- **To replace its qualities, a card turns to a new set.**  That set can be bound, as it has not
been disposed of. -/
lemma replaceQualities_eq (c : CardId) (conds : List String) (w : World) :
    (w.replaceQualities c conds).1 = (w.withNewSet c conds).exchangeSet c ⟨w.sets.size⟩ := by
  obtain ⟨-, -, usable⟩ := newSet_spares conds w
  have id : (w.newSet conds none).2 = ⟨w.sets.size⟩ := rfl
  rw [replaceQualities, withNewSet]
  dsimp only
  rw [id]
  rcases done : (w.newSet conds none).1.bindSetWhere c ⟨w.sets.size⟩ with ⟨v, fault | _⟩
  · rw [bindSetWhere] at done
    split at done
    · rw [bindSet, usable] at done
      cases (Prod.mk.inj done).2
    · cases (Prod.mk.inj done).2
  · rfl

/-- A new set is of no concern to the cards there are, to other sets and to those who listen to the
expressions there are. -/
lemma withNewSet_spares (c : CardId) (conds : List String) (w : World) :
    (w.withNewSet c conds).cards = w.cards ∧
    (∀ other : SetId, other ≠ ⟨w.sets.size⟩ →
      ((w.withNewSet c conds).set other).members = (w.set other).members ∧
      ((w.withNewSet c conds).set other).listeners = (w.set other).listeners) ∧
    (∀ e : ExprId, e.place < w.exprs.size →
      ((w.withNewSet c conds).expr e).listeners = (w.expr e).listeners) := by
  obtain ⟨sets, exprs, -⟩ := newSet_spares conds w
  have only := bindingsOnly_bindSetWhere c ⟨w.sets.size⟩ (w.newSet conds none).1
  refine ⟨?_, fun other ne => ⟨?_, ?_⟩, fun e bound => ?_⟩
  · exact (sameCards_bindSetWhere c _ _).cards.trans (newSet_cards conds w)
  · rw [withNewSet, only.setMembers_eq, sets other ne]
  · rw [withNewSet, only.setListeners_eq, sets other ne]
  · rw [withNewSet, only.exprListeners_eq, exprs e bound]

lemma conserves_withNewSet (c : CardId) (conds : List String) (w : World) :
    Conserves 0 0 w (w.withNewSet c conds) :=
  (conserves_newSet conds none w).trans (conserves_bindSetWhere c _ _)

/-- **A card has a new quality set**, and the one it had is disposed of. -/
theorem conserved_replaceQualities (owned : w.Owned w.Alive) {c : CardId}
    (alive : w.Alive (.card c)) (conds : List String) {hand : Holdings} {since : NodeId → Nat}
    (kept : w.Conserved hand since) :
    (w.replaceQualities c conds).1.Conserved hand
      (w.raised (w.setAndMembers (w.card c).qualities) since) := by
  obtain ⟨cards, sets, exprs⟩ := withNewSet_spares c conds w
  have made := conserves_withNewSet c conds w
  rw [replaceQualities_eq]
  generalize w.withNewSet c conds = v at *
  have old : (w.card c).qualities ≠ ⟨w.sets.size⟩ := fun eq =>
    absurd (owned.quality alive) (by rw [eq]; exact Nat.lt_irrefl _)
  have card : v.card c = w.card c := congrArg (fun t : Table CardNode => t.get c.place) cards
  have exist : c.place < v.cards.size := cards ▸ owned.bounded alive
  have members : (v.turnTo c ⟨w.sets.size⟩).setAndMembers (w.card c).qualities =
      w.setAndMembers (w.card c).qualities := by
    rw [setAndMembers, members_turnTo, World.members, (sets _ old).1]
    rfl
  have next : ∀ n ∈ w.setAndMembers (w.card c).qualities,
      ((v.turnTo c ⟨w.sets.size⟩).registry n.emitter).next = (w.registry n.emitter).next := by
    intro n mem
    rcases List.mem_cons.1 mem with rfl | mem
    · rw [NodeId.emitter, registry_turnTo fun eq => old (Emitter.set.inj eq), registry, registry,
        (sets _ old).2]
    · obtain ⟨e, isMember, rfl⟩ := List.mem_map.1 mem
      rw [NodeId.emitter, registry_turnTo (by simp), registry, registry,
        exprs e (owned.member isMember)]
  have turned := made.trans (conserves_turnTo exist ⟨w.sets.size⟩)
  have cleared := clears_exchangeSet c ⟨w.sets.size⟩ v
  rw [card] at turned
  rw [card, members] at cleared
  rw [← add_zero hand] at kept ⊢
  rw [← List.nil_append (w.setAndMembers _), ← raised_append next, raised_nil]
  exact cleared.kept (turned.kept kept)

/-! ## Decks -/

/-- **A deck subscribes to cards**, and the places for them are in hand. -/
lemma conserves_enterCards (d : DeckId) {cards : List CardId}
    (exist : ∀ c ∈ cards, c.place < w.cards.size) :
    Conserves 0 (Pi.single (.node (.deck d)) ↑((w.enterCards d cards).2.map Entry.holding)) w
      (w.enterCards d cards).1 := by
  induction cards generalizing w with
  | nil =>
      have nothing : (Pi.single (.node (.deck d)) ↑([].map Entry.holding) : Holdings) = 0 :=
        Pi.single_zero _
      rw [enterCards, nothing]
      exact .refl w
  | cons c cards ih =>
      have grown : w.cards.size ≤ (w.enterCard d c).1.cards.size := Table.size_le_modify _ _ _
      have first := conserves_enterCard d (exist c List.mem_cons_self)
      have others := ih (w := (w.enterCard d c).1) fun c' mem =>
        Nat.lt_of_lt_of_le (exist c' (.tail _ mem)) grown
      have framed :
          Conserves (Pi.single (.node (.deck d)) {(w.enterCard d c).2.holding} + 0) _ _ _ :=
        others.frame
      rw [add_zero, ← Pi.single_add] at framed
      exact first.trans framed

lemma enterCards_decks (d : DeckId) (cards : List CardId) (w : World) :
    (w.enterCards d cards).1.decks = w.decks := by
  induction cards generalizing w with
  | nil => rfl
  | cons c cards ih => exact ih (w.enterCard d c).1

/-- A deck without cards puts its places in order. -/
lemma conserves_placeEntries {d : DeckId} (bare : (w.deck d).entries = []) (entries : List Entry) :
    Conserves (Pi.single (.node (.deck d)) ↑(entries.map Entry.holding)) 0 w
      (w.onDeck d fun n => { n with entries }) := by
  have placed := clears_exchangeEntries (w := w) d (f := fun n => { n with entries }) (fun _ => rfl)
    (fun _ => rfl) entries [] (by rw [bare, List.append_nil, List.nil_append])
  rw [List.map_nil, Multiset.coe_nil, Pi.single_zero] at placed
  exact placed.conserves

/-- **A new deck.** -/
lemma conserves_newDeck (config : DeckConfig) {cards : List CardId} (state : Option StateId)
    (exist : ∀ c ∈ cards, c.place < w.cards.size) :
    Conserves 0 0 w (w.newDeck config cards state).1 := by
  have bare : (((w.emptyDeck config).enterCards ⟨w.decks.size⟩ cards).1.deck
      ⟨w.decks.size⟩).entries = [] := by
    rw [deck, enterCards_decks, emptyDeck, Table.get_add, if_pos rfl]
    rfl
  have entered : Conserves 0 0 w (w.bareDeck config cards) :=
    ((clears_emptyDeck config w).conserves.trans
      (conserves_enterCards (w := w.emptyDeck config) ⟨w.decks.size⟩ exist)).trans
        (conserves_placeEntries bare _)
  have tight : w.Tighter (fun c => c ∈ cards) (w.bareDeck config cards) :=
    tighter_bareDeck config w fun _ => id
  rw [newDeck_eq]
  cases state with
  | none => exact entered
  | some s =>
      refine entered.trans (conserves_attachDeck (fun c mem => ?_) s)
      rw [bareDeck, deck_onDeck, if_pos rfl] at mem
      have mem : c ∈ cards := enterCards_cards ⟨w.decks.size⟩ cards (w.emptyDeck config) ▸ mem
      exact Nat.lt_of_lt_of_le (exist c mem) tight.cards

/-- A deck gives up all its cards. -/
lemma clears_clearCards (d : DeckId) (w : World) : Clears [] 0 0 w (w.clearCards d) := by
  have out := clears_exchangeEntries (w := w) d (f := fun n => { n with entries := [] })
    (fun _ => rfl) (fun _ => rfl) [] (w.deck d).entries (by rw [List.append_nil]; rfl)
  rw [List.map_nil, Multiset.coe_nil, Pi.single_zero] at out
  have released := Clears.foldl (fun w (entry : Entry) => clears_unbindCard entry.card w)
    (w.deck d).entries (w.onDeck d fun n => { n with entries := [] })
  exact (out.trans released.frame_zero).trans (clears_forgetEntries _ _ _)

lemma clearCards_entries (d : DeckId) (w : World) : ((w.clearCards d).deck d).entries = [] := by
  have forgot : ∀ (w : World) (entry : Entry), (w.forgetEntry entry).decks = w.decks :=
    fun _ _ => rfl
  rw [clearCards, deck, foldl_decks forgot, foldl_decks fun w entry => unbindCard_decks _ w]
  exact congrArg DeckNode.entries ((deck_onDeck w d d _).trans (if_pos rfl))

lemma conserves_bindCardsWhere (d : DeckId) {cards : List CardId}
    (exist : ∀ c ∈ cards, c.place < w.cards.size) :
    Conserves 0 0 w (w.bindCardsWhere d cards) := by
  unfold bindCardsWhere
  split
  · exact conserves_bindAll _ exist
  · exact .refl w

lemma bindCardsWhere_decks (d : DeckId) (cards : List CardId) (w : World) :
    (w.bindCardsWhere d cards).decks = w.decks := by
  unfold bindCardsWhere
  split
  · exact foldl_decks (bindOrSkip_decks _) _ _
  · rfl

/-- **A deck gets other cards.** -/
lemma conserves_replaceCards (d : DeckId) {cards : List CardId}
    (exist : ∀ c ∈ cards, c.place < w.cards.size) :
    Conserves 0 0 w (w.replaceCards d cards) := by
  have cleared : w.Tighter (fun _ => False) (w.clearCards d) := tighter_clearCards d w
  have entering : ∀ c ∈ cards, c.place < (w.clearCards d).cards.size := fun c mem =>
    Nat.lt_of_lt_of_le (exist c mem) cleared.cards
  have entered : (w.clearCards d).Tighter (fun _ => False) _ := tighter_enterCards d cards _
  have binding : ∀ c ∈ cards, c.place < ((w.clearCards d).enterCards d cards).1.cards.size :=
    fun c mem => Nat.lt_of_lt_of_le (entering c mem) entered.cards
  have bare : (((((w.clearCards d).enterCards d cards).1.bindCardsWhere d cards).note
      (.cardsReplaced ((w.clearCards d).enterCards d cards).2.length)).deck d).entries = [] := by
    show ((((w.clearCards d).enterCards d cards).1.bindCardsWhere d cards).deck d).entries = []
    rw [deck, bindCardsWhere_decks, enterCards_decks]
    exact clearCards_entries d w
  refine Conserves.trans ?_ <|
    conserves_placeEntries bare ((w.clearCards d).enterCards d cards).2
  refine Conserves.trans ?_ (clears_note _ _).conserves
  refine Conserves.trans ?_ (conserves_bindCardsWhere d binding).frame_zero
  exact (clears_clearCards d w).conserves.trans (conserves_enterCards d entering)

lemma conserves_bindWhere (d : DeckId) {c : CardId} (exist : c.place < w.cards.size) :
    Conserves 0 0 w (w.bindWhere d c).1 := by
  unfold bindWhere
  split
  · exact conserves_bindCard exist _
  · exact .refl w

/-- **A card goes to the end of a deck.** -/
lemma conserves_insertCard (d : DeckId) {c : CardId} (exist : c.place < w.cards.size) :
    Conserves 0 0 w (w.insertCard d c).1 := by
  have bound := conserves_bindWhere d exist
  have only := bindingsOnly_bindWhere d c w
  unfold insertCard
  rcases done : w.bindWhere d c with ⟨v, fault | _⟩
  all_goals rw [done] at bound only
  · exact bound
  · have noted := bound.trans (clears_note (.cardAdded (v.card c).hash) v).conserves
    have entered := noted.trans <|
      conserves_enterCard (w := v.note (.cardAdded (v.card c).hash)) d
        (Nat.lt_of_lt_of_le exist only.cards)
    have placed := clears_exchangeEntries
      (w := ((v.note (.cardAdded (v.card c).hash)).enterCard d c).1) d (f := fun n => { n with
        entries := n.entries ++ [((v.note (.cardAdded (v.card c).hash)).enterCard d c).2] })
      (fun _ => rfl) (fun _ => rfl) [((v.note (.cardAdded (v.card c).hash)).enterCard d c).2] []
      (by rw [List.append_nil])
    rw [List.map_nil, Multiset.coe_nil, Pi.single_zero] at placed
    exact entered.trans placed.conserves

/-- **A card leaves a deck.** -/
lemma clears_takeCard {d : DeckId} {c : CardId} {gone kept : List Entry}
    (parts : (w.deck d).entries.partition (·.card == c) = (gone, kept)) :
    Clears [] 0 0 w (w.takeCard d c gone kept) := by
  have split : (kept ++ gone).Perm ((w.deck d).entries ++ []) := by
    rw [List.partition_eq_filter_filter] at parts
    obtain ⟨rfl, rfl⟩ := Prod.mk.inj parts
    rw [List.append_nil]
    exact List.perm_append_comm.trans (List.filter_append_perm _ _)
  have out := clears_exchangeEntries (w := w) d (f := fun n => { n with entries := kept })
    (fun _ => rfl) (fun _ => rfl) [] gone split
  rw [List.map_nil, Multiset.coe_nil, Pi.single_zero] at out
  refine Clears.after ?_ (clears_note _ _)
  exact (out.trans (clears_unbindCard c _).frame_zero).trans (clears_forgetEntries _ gone _)

/-- To put something in another's place. -/
lemma set_append_perm {α : Type} {xs : List α} {index : Nat} {old : α} (new : α)
    (found : xs[index]? = some old) : (xs.set index new ++ [old]).Perm (xs ++ [new]) := by
  induction xs generalizing index with
  | nil => simp at found
  | cons x xs ih =>
      cases index with
      | zero =>
          obtain rfl : x = old := by simpa using found
          have swapped : (new :: x :: xs).Perm (x :: new :: xs) := List.Perm.swap _ _ _
          exact (((List.perm_append_singleton x xs).cons new).trans swapped).trans <|
            (List.perm_append_singleton new xs).symm.cons x
      | succ index => exact (ih (by simpa using found)).cons x

/-- **A card takes the place of another one.** -/
lemma conserves_replaceCard {d : DeckId} {c : CardId} {index : Nat} {old : Entry}
    (exist : c.place < w.cards.size) (found : (w.deck d).entries[index]? = some old) :
    Conserves 0 0 w (w.replaceCard d c index old).1 := by
  have grown : w.cards.size ≤ (w.enterCard d c).1.cards.size := Table.size_le_modify _ _ _
  have placed := clears_exchangeEntries (w := (w.enterCard d c).1) d (f := fun n => { n with
      entries := n.entries.set index (w.enterCard d c).2 }) (fun _ => rfl) (fun _ => rfl)
    [(w.enterCard d c).2] [old] (set_append_perm _ found)
  have entered := (conserves_enterCard d exist).trans placed.conserves
  have released := entered.trans (clears_unbindCard old.card _).frame_zero.conserves
  have forgot := released.trans
    (clears_unsubscribeFrom (.node (.deck d)) (.card old.card) old.number _).conserves
  have exist : c.place < ((((w.enterCard d c).1.onDeck d fun n => { n with
      entries := n.entries.set index (w.enterCard d c).2 }).unbindCard old.card).forgetEntry
        old).cards.size := by
    have only := bindingsOnly_unbindCard old.card ((w.enterCard d c).1.onDeck d fun n => { n with
      entries := n.entries.set index (w.enterCard d c).2 })
    refine Nat.lt_of_lt_of_le exist (Nat.le_trans grown (Nat.le_trans only.cards ?_))
    exact Table.size_le_modify _ _ _
  exact forgot.trans (conserves_bindWhere d exist)

/-- **A deck is shuffled.** -/
lemma clears_reorder (d : DeckId) (w : World) : Clears [] 0 0 w (w.reorder d) := by
  have shuffled : ∀ n : DeckNode,
      ((Random.shuffle n.entries n.generator).1 ++ []).Perm (n.entries ++ []) :=
    fun n => (Random.shuffle_perm n.entries n.generator).append_right []
  have same := clears_exchangeEntries (w := w) d (f := fun n =>
    { n with entries := (Random.shuffle n.entries n.generator).1,
             generator := (Random.shuffle n.entries n.generator).2 })
    (fun _ => rfl) (fun _ => rfl) [] [] (shuffled _)
  rw [List.map_nil, Multiset.coe_nil, Pi.single_zero] at same
  exact same

end StoryEngine.World
