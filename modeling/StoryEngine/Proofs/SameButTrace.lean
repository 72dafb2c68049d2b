import StoryEngine.Proofs.Life
import StoryEngine.Script.Perform

/-!
# Worlds that differ in what was recorded

Nothing that the engine does depends on the trace.  Two worlds that are the same but for their
traces therefore stay the same whatever is done to both, and so do the visible events of both.

* `World.retrace` — a world with another trace.
* **`SameButTrace`** — a world is the same as another but for its trace, and of the events of both
  traces the same are visible, in the same order.  Which events are visible is a parameter.
* `SameButTraceFor` — the same for worlds with an outcome.
* `SameButTrace.unbindExpr`, `SameButTrace.disposeDeck`, `SameButTrace.replaceQualities` and their
  like — one lemma for each operation that calls nobody.

Events that are not visible are left out of the comparison; if all events are visible, worlds are
compared as they are (`SameButTrace.eq`).
-/

namespace StoryEngine

/-- A world with another trace. -/
def World.retrace (w : World) (trace : List Event) : World :=
  { w with trace }

/-- **A world that is the same but for its trace**, with the same visible events. -/
inductive SameButTrace (visible : Event → Bool) (w : World) : World → Prop
  | intro (trace : List Event) (same : w.trace.filter visible = trace.filter visible) :
    SameButTrace visible w (w.retrace trace)

/-- Worlds with the same outcome that are the same but for their traces. -/
structure SameButTraceFor (visible : Event → Bool) {α : Type} (p q : World × α) : Prop where
  world : SameButTrace visible p.1 q.1
  outcome : p.2 = q.2

section
variable {visible : Event → Bool} {w v u : World}

lemma SameButTrace.refl (w : World) : SameButTrace visible w w :=
  .intro w.trace rfl

lemma SameButTrace.symm (e : SameButTrace visible w v) : SameButTrace visible v w := by
  obtain ⟨trace, same⟩ := e
  exact .intro (w := w.retrace trace) w.trace same.symm

lemma SameButTrace.trans (e : SameButTrace visible w v) (e' : SameButTrace visible v u) :
    SameButTrace visible w u := by
  obtain ⟨trace, same⟩ := e
  obtain ⟨trace', same'⟩ := e'
  exact .intro trace' (same.trans same')

/-- **Where all events are visible, the worlds are the same.** -/
lemma SameButTrace.eq (e : SameButTrace (fun _ => true) w v) : v = w := by
  obtain ⟨trace, same⟩ := e
  rw [List.filter_eq_self.2 fun _ _ => rfl, List.filter_eq_self.2 fun _ _ => rfl] at same
  rw [← same]
  rfl

lemma SameButTrace.with {α : Type} (e : SameButTrace visible w v) (a : α) :
    SameButTraceFor visible (w, a) (v, a) :=
  ⟨e, rfl⟩

/-- Two worlds with the same outcome, by their parts. -/
lemma SameButTraceFor.elim {α : Type} {p q : World × α} (e : SameButTraceFor visible p q) :
    ∃ w v a, p = (w, a) ∧ q = (v, a) ∧ SameButTrace visible w v := by
  obtain ⟨w, a⟩ := p
  obtain ⟨v, b⟩ := q
  obtain ⟨world, outcome⟩ := e
  obtain rfl : a = b := outcome
  exact ⟨w, v, a, rfl, rfl, world⟩

lemma SameButTraceFor.map {α β : Type} {p q : World × α} (e : SameButTraceFor visible p q)
    (f : α → β) :
    SameButTraceFor visible (p.map id f) (q.map id f) :=
  ⟨e.world, congrArg f e.outcome⟩

/-- One step after the other, over a list. -/
lemma SameButTrace.foldl {β : Type} {step : World → β → World}
    (each : ∀ b w v, SameButTrace visible w v → SameButTrace visible (step w b) (step v b))
    (e : SameButTrace visible w v)
    (bs : List β) : SameButTrace visible (bs.foldl step w) (bs.foldl step v) := by
  induction bs generalizing w v with
  | nil => exact e
  | cons b rest ih => exact ih (each b w v e)

end

namespace SameButTrace

variable {visible : Event → Bool} {w v : World} (e : SameButTrace visible w v)
include e

/-! ## What can be seen -/

lemma held : v.held = w.held := by cases e; rfl
lemma exprs : v.exprs = w.exprs := by cases e; rfl
lemma sets : v.sets = w.sets := by cases e; rfl
lemma cards : v.cards = w.cards := by cases e; rfl
lemma decks : v.decks = w.decks := by cases e; rfl
lemma boards : v.boards = w.boards := by cases e; rfl
lemma listeners : v.listeners = w.listeners := by cases e; rfl
lemma store (s : StateId) : v.store s = w.store s := by cases e; rfl
lemma expr (x : ExprId) : v.expr x = w.expr x := by cases e; rfl
lemma set (q : SetId) : v.set q = w.set q := by cases e; rfl
lemma card (c : CardId) : v.card c = w.card c := by cases e; rfl
lemma deck (d : DeckId) : v.deck d = w.deck d := by cases e; rfl
lemma board (b : BoardId) : v.board b = w.board b := by cases e; rfl
lemma listener (l : ListenerId) : v.listener l = w.listener l := by cases e; rfl
lemma find? (name : String) : v.find? name = w.find? name := by cases e; rfl
lemma stateNamed? (name : String) : v.stateNamed? name = w.stateNamed? name := by cases e; rfl
lemma stateAlive (s : StateId) : v.stateAlive s = w.stateAlive s := by cases e; rfl
lemma stateListenerAlive (l : StateListener) :
    v.stateListenerAlive l = w.stateListenerAlive l := by cases e; rfl
lemma exprListenerAlive (l : ExprListener) :
    v.exprListenerAlive l = w.exprListenerAlive l := by cases e; rfl
lemma setListenerAlive (l : SetListener) :
    v.setListenerAlive l = w.setListenerAlive l := by cases e; rfl
lemma cardListenerAlive (l : CardListener) :
    v.cardListenerAlive l = w.cardListenerAlive l := by cases e; rfl
lemma stateEntries (s : StateId) : v.stateEntries s = w.stateEntries s := by cases e; rfl
lemma exprEntries (x : ExprId) : v.exprEntries x = w.exprEntries x := by cases e; rfl
lemma setEntries (q : SetId) : v.setEntries q = w.setEntries q := by cases e; rfl
lemma cardEntries (c : CardId) : v.cardEntries c = w.cardEntries c := by cases e; rfl
lemma deckEntries (d : DeckId) : v.deckEntries d = w.deckEntries d := by cases e; rfl
lemma boardEntries (b : BoardId) : v.boardEntries b = w.boardEntries b := by cases e; rfl
lemma listenerCount (em : Emitter) : v.listenerCount em = w.listenerCount em := by cases e; rfl
lemma exprState (x : ExprId) : v.exprState x = w.exprState x := by cases e; rfl
lemma setState (q : SetId) : v.setState q = w.setState q := by cases e; rfl
lemma cardState (c : CardId) : v.cardState c = w.cardState c := by cases e; rfl
lemma deckState (d : DeckId) : v.deckState d = w.deckState d := by cases e; rfl
lemma members (q : SetId) : v.members q = w.members q := by cases e; rfl
lemma hasQuality (q : SetId) (cond : String) : v.hasQuality q cond = w.hasQuality q cond := by
  cases e; rfl
lemma memberWith? (q : SetId) (cond : String) : v.memberWith? q cond = w.memberWith? q cond := by
  cases e; rfl
lemma placeOf? (d : DeckId) (hash : CardHash) : v.placeOf? d hash = w.placeOf? d hash := by
  cases e; rfl
lemma observe (name : String) : v.observe name = w.observe name := by cases e; rfl
lemma describe (o : Object) : v.describe o = w.describe o := by cases e; rfl
lemma sizeOf? (h : Handle) : v.sizeOf? h = w.sizeOf? h := by cases e; rfl
lemma isBound (n : NodeId) : v.isBound n = w.isBound n := by cases e; rfl
lemma isDisposed (n : NodeId) : v.isDisposed n = w.isDisposed n := by cases e; rfl
lemma truthStatus (n : TruthId) : v.truthStatus n = w.truthStatus n := by cases e; cases n <;> rfl
lemma firstName? (h : Handle) : v.firstName? h = w.firstName? h := by cases e; rfl
lemma cardView (c : CardId) : v.cardView c = w.cardView c := by cases e; rfl
lemma cardAnswer (c : Option CardId) : v.cardAnswer c = w.cardAnswer c := by cases e; rfl
lemma cardsAnswer (cs : List CardId) : v.cardsAnswer cs = w.cardsAnswer cs := by cases e; rfl
lemma toldContents (p : Payload) : v.toldContents p = w.toldContents p := by cases e; rfl

/-! ## Changes of one object -/

lemma record (event : Event) : SameButTrace visible (w.record event) (v.record event) := by
  obtain ⟨trace, same⟩ := e
  refine .intro (w := w.record event) (event :: trace) ?_
  simp only [World.record, List.filter_cons, same]

/-- An event that is not visible may be recorded in one of the worlds only. -/
lemma record_left {event : Event} (hidden : visible event = false) :
    SameButTrace visible (w.record event) v := by
  obtain ⟨trace, same⟩ := e
  refine .intro (w := w.record event) trace ?_
  simpa [World.record, List.filter_cons, hidden] using same

lemma note (n : Note) : SameButTrace visible (w.note n) (v.note n) := e.record _

lemma onStore (s : StateId) (f : Store → Store) :
    SameButTrace visible (w.onStore s f) (v.onStore s f) := by
  obtain ⟨trace, same⟩ := e
  exact .intro (w := w.onStore s f) trace same

lemma onExpr (x : ExprId) (f : ExprNode → ExprNode) :
    SameButTrace visible (w.onExpr x f) (v.onExpr x f) := by
  obtain ⟨trace, same⟩ := e
  exact .intro (w := w.onExpr x f) trace same

lemma onSet (q : SetId) (f : SetNode → SetNode) :
    SameButTrace visible (w.onSet q f) (v.onSet q f) := by
  obtain ⟨trace, same⟩ := e
  exact .intro (w := w.onSet q f) trace same

lemma onCard (c : CardId) (f : CardNode → CardNode) :
    SameButTrace visible (w.onCard c f) (v.onCard c f) := by
  obtain ⟨trace, same⟩ := e
  exact .intro (w := w.onCard c f) trace same

lemma onDeck (d : DeckId) (f : DeckNode → DeckNode) :
    SameButTrace visible (w.onDeck d f) (v.onDeck d f) := by
  obtain ⟨trace, same⟩ := e
  exact .intro (w := w.onDeck d f) trace same

lemma onBoard (b : BoardId) (f : Registry ListenerId → Registry ListenerId) :
    SameButTrace visible (w.onBoard b f) (v.onBoard b f) := by
  obtain ⟨trace, same⟩ := e
  exact .intro (w := w.onBoard b f) trace same

lemma onListener (l : ListenerId) (f : Listener → Listener) :
    SameButTrace visible (w.onListener l f) (v.onListener l f) := by
  obtain ⟨trace, same⟩ := e
  exact .intro (w := w.onListener l f) trace same

lemma put (name : String) (o : Object) : SameButTrace visible (w.put name o) (v.put name o) := by
  obtain ⟨trace, same⟩ := e
  exact .intro (w := w.put name o) trace same

lemma erase (name : String) : SameButTrace visible (w.erase name) (v.erase name) := by
  obtain ⟨trace, same⟩ := e
  exact .intro (w := w.erase name) trace same

lemma hold (hs : List Handle) : SameButTrace visible (w.hold hs) (v.hold hs) := by
  obtain ⟨trace, same⟩ := e
  exact .intro (w := w.hold hs) trace same

lemma withHeld (hs : List Handle) :
    SameButTrace visible { w with held := hs } { v with held := hs } := by
  obtain ⟨trace, same⟩ := e
  exact .intro (w := { w with held := hs }) trace same

/-! ## Reading -/

lemma checkAgainst (x : Expression) (s : StateId) :
    SameButTraceFor visible (w.checkAgainst x s) (v.checkAgainst x s) := by
  unfold World.checkAgainst
  rw [e.store]
  split
  · exact e.with _
  · exact (e.note _).with _

lemma exprCheck (x : ExprId) (s : StateId) :
    SameButTraceFor visible (w.exprCheck x s) (v.exprCheck x s) := by
  unfold World.exprCheck
  rw [e.expr]
  exact e.checkAgainst _ s

lemma exprResult (x : ExprId) : SameButTraceFor visible (w.exprResult x) (v.exprResult x) := by
  unfold World.exprResult
  rw [e.exprState]
  split
  · exact e.with _
  · next s _ =>
      dsimp only
      rw [e.store, e.expr]
      split
      · exact e.with _
      · obtain ⟨w', v', value, left, right, e'⟩ := (e.exprCheck x s).elim
        rw [left, right]
        exact (e'.onExpr x _).with _

lemma allResults (xs : List ExprId) :
    SameButTraceFor visible (w.allResults xs) (v.allResults xs) := by
  induction xs generalizing w v with
  | nil => exact e.with _
  | cons x rest ih =>
      obtain ⟨w', v', result, left, right, e'⟩ := (e.exprResult x).elim
      rw [World.allResults, World.allResults, left, right]
      rcases result with fault | _ | _
      · exact e'.with _
      · exact e'.with _
      · exact ih e'

lemma setResult (q : SetId) : SameButTraceFor visible (w.setResult q) (v.setResult q) := by
  unfold World.setResult
  rw [e.setState]
  split
  · exact e.with _
  · next s _ =>
      dsimp only
      rw [e.store, e.set, e.members]
      split
      · exact e.with _
      · obtain ⟨w', v', result, left, right, e'⟩ := (e.allResults (w.members q)).elim
        rw [left, right]
        rcases result with fault | value
        · exact e'.with _
        · exact (e'.onSet q _).with _

lemma allChecks (s : StateId) (xs : List ExprId) :
    SameButTraceFor visible (w.allChecks s xs) (v.allChecks s xs) := by
  induction xs generalizing w v with
  | nil => exact e.with _
  | cons x rest ih =>
      obtain ⟨w', v', value, left, right, e'⟩ := (e.exprCheck x s).elim
      rw [World.allChecks, World.allChecks, left, right]
      rcases value with _ | _
      · exact e'.with _
      · exact ih e'

lemma setCheck (q : SetId) (s : StateId) :
    SameButTraceFor visible (w.setCheck q s) (v.setCheck q s) := by
  unfold World.setCheck
  rw [e.members]
  exact e.allChecks s _

lemma cardResult (c : CardId) : SameButTraceFor visible (w.cardResult c) (v.cardResult c) := by
  unfold World.cardResult
  rw [e.cardState, e.card]
  split
  · exact e.with _
  · exact e.setResult _

lemma cardCheck (c : CardId) (s : StateId) :
    SameButTraceFor visible (w.cardCheck c s) (v.cardCheck c s) := by
  unfold World.cardCheck
  rw [e.card]
  exact e.setCheck _ s

lemma isOffered (c : CardId) (s : StateId) :
    SameButTraceFor visible (w.isOffered c s) (v.isOffered c s) := by
  obtain ⟨w', v', result, left, right, e'⟩ := (e.cardResult c).elim
  unfold World.isOffered
  rw [left, right]
  rcases result with fault | value
  · dsimp only
    rw [e'.card]
    exact (e'.note _).cardCheck c s
  · exact e'.with _

lemma offered (s : StateId) (cs : List CardId) :
    SameButTraceFor visible (w.offered s cs) (v.offered s cs) := by
  induction cs generalizing w v with
  | nil => exact e.with _
  | cons c rest ih =>
      rw [World.offered, World.offered, e.card]
      split
      · exact ih e
      · obtain ⟨w', v', value, left, right, e'⟩ := (e.isOffered c s).elim
        obtain ⟨w'', v'', more, left', right', e''⟩ := (ih e').elim
        rw [left, right]
        dsimp only
        rw [left', right']
        exact e''.with _

lemma availableCards (d : DeckId) :
    SameButTraceFor visible (w.availableCards d) (v.availableCards d) := by
  unfold World.availableCards
  rw [e.deckState, e.deck]
  split
  · exact e.with _
  · exact (e.offered _ _).map _

lemma filterChecked (s : StateId) (cs : List CardId) :
    SameButTraceFor visible (w.filterChecked s cs) (v.filterChecked s cs) := by
  induction cs generalizing w v with
  | nil => exact e.with _
  | cons c rest ih =>
      obtain ⟨w', v', value, left, right, e'⟩ := (e.cardCheck c s).elim
      obtain ⟨w'', v'', more, left', right', e''⟩ := (ih e').elim
      rw [World.filterChecked, World.filterChecked, left, right]
      dsimp only
      rw [left', right']
      exact e''.with _

lemma availableIn (d : DeckId) (s : StateId) :
    SameButTraceFor visible (w.availableIn d s) (v.availableIn d s) := by
  unfold World.availableIn
  rw [e.deck]
  exact e.filterChecked s _

lemma isCardAvailable (d : DeckId) (c : CardId) :
    SameButTraceFor visible (w.isCardAvailable d c) (v.isCardAvailable d c) := by
  unfold World.isCardAvailable
  rw [e.deckState]
  split
  · exact e.with _
  · next s _ => exact (e.cardCheck c s).map fun value => (.ok value : Except NodeFault Bool)

/-! ## Binding and disposing -/

lemma subscribeState (s : StateId) (l : StateListener) :
    SameButTraceFor visible (w.subscribeState s l) (v.subscribeState s l) := by
  unfold World.subscribeState
  rw [e.store]
  exact (e.onStore s _).with _

lemma release (binding : Option Binding) :
    SameButTrace visible (w.release binding) (v.release binding) := by
  cases binding with
  | none => exact e
  | some b => exact e.onStore _ _

lemma unbindExpr (x : ExprId) : SameButTrace visible (w.unbindExpr x) (v.unbindExpr x) := by
  unfold World.unbindExpr
  rw [e.expr]
  exact (e.release _).onExpr x _

lemma attachExpr (x : ExprId) (s : StateId) :
    SameButTrace visible (w.attachExpr x s) (v.attachExpr x s) := by
  obtain ⟨w', v', number, left, right, e'⟩ := ((e.unbindExpr x).subscribeState s (.expr x)).elim
  unfold World.attachExpr
  rw [left, right]
  exact e'.onExpr x _

lemma bindExpr (x : ExprId) (s : StateId) :
    SameButTraceFor visible (w.bindExpr x s) (v.bindExpr x s) := by
  unfold World.bindExpr
  rw [e.expr]
  split
  · exact e.with _
  · exact (e.attachExpr x s).with _

lemma disposeExpr (x : ExprId) : SameButTrace visible (w.disposeExpr x) (v.disposeExpr x) :=
  (e.unbindExpr x).onExpr x _

lemma forgetMember (m : Member) : SameButTrace visible (w.forgetMember m) (v.forgetMember m) :=
  e.onExpr m.expr _

lemma unbindExprs (xs : List ExprId) : SameButTrace visible (w.unbindExprs xs) (v.unbindExprs xs) :=
  foldl (fun x _ _ e => e.unbindExpr x) e xs

lemma attachExprs (xs : List ExprId) (s : StateId) :
    SameButTrace visible (w.attachExprs xs s) (v.attachExprs xs s) :=
  foldl (fun x _ _ e => e.attachExpr x s) e xs

lemma unbindSet (q : SetId) : SameButTrace visible (w.unbindSet q) (v.unbindSet q) := by
  have released := (e.release (w.set q).binding).onSet q fun n => { n with binding := none }
  unfold World.unbindSet
  rw [e.set]
  dsimp only
  rw [released.members]
  exact (released.unbindExprs _).onSet q _

lemma attachSet (q : SetId) (s : StateId) :
    SameButTrace visible (w.attachSet q s) (v.attachSet q s) := by
  have unbound := e.unbindSet q
  obtain ⟨w', v', number, left, right, e'⟩ :=
    ((unbound.attachExprs ((w.unbindSet q).members q) s).subscribeState s (.set q)).elim
  unfold World.attachSet
  dsimp only
  rw [unbound.members, left, right]
  exact e'.onSet q _

lemma bindSet (q : SetId) (s : StateId) :
    SameButTraceFor visible (w.bindSet q s) (v.bindSet q s) := by
  unfold World.bindSet
  rw [e.set]
  split
  · exact e.with _
  · exact (e.attachSet q s).with _

lemma disposeSet (q : SetId) : SameButTrace visible (w.disposeSet q) (v.disposeSet q) := by
  have unbound := e.unbindSet q
  unfold World.disposeSet
  dsimp only
  rw [unbound.set]
  have emptied := unbound.onSet q fun n => { n with members := [] }
  have disposed := foldl (fun (m : Member) _ _ e => e.disposeExpr m.expr) emptied
    ((w.unbindSet q).set q).members
  exact (foldl (fun m _ _ e => e.forgetMember m) disposed _).onSet q _

lemma unbindCard (c : CardId) : SameButTrace visible (w.unbindCard c) (v.unbindCard c) := by
  unfold World.unbindCard
  rw [e.card]
  split
  · have noted :=
      (e.onCard c fun n => { n with binding := none }).note (.cardUnbound (w.card c).hash)
    dsimp only
    rw [noted.card]
    exact noted.unbindSet _
  · dsimp only
    rw [e.card]
    exact e.unbindSet _

lemma attachCard (c : CardId) (s : StateId) :
    SameButTrace visible (w.attachCard c s) (v.attachCard c s) := by
  have unbound := e.unbindCard c
  unfold World.attachCard
  dsimp only
  rw [unbound.card]
  obtain ⟨w', v', result, left, right, e'⟩ :=
    (unbound.bindSet ((w.unbindCard c).card c).qualities s).elim
  rw [left, right]
  rcases result with fault | _
  · exact e'.note _
  · exact (e'.onCard c _).note _

lemma bindCard (c : CardId) (s : StateId) :
    SameButTraceFor visible (w.bindCard c s) (v.bindCard c s) := by
  unfold World.bindCard
  rw [e.card]
  split
  · exact e.with _
  · exact (e.attachCard c s).with _

lemma disposeCard (c : CardId) : SameButTrace visible (w.disposeCard c) (v.disposeCard c) := by
  have unbound := e.unbindCard c
  unfold World.disposeCard
  dsimp only
  rw [unbound.card]
  exact (unbound.disposeSet _).onCard c _

lemma enterCard (d : DeckId) (c : CardId) :
    SameButTraceFor visible (w.enterCard d c) (v.enterCard d c) := by
  unfold World.enterCard
  rw [e.card]
  exact (e.onCard c _).with _

lemma forgetEntry (entry : Entry) :
    SameButTrace visible (w.forgetEntry entry) (v.forgetEntry entry) :=
  e.onCard entry.card _

lemma bindOrSkip (s : StateId) (c : CardId) :
    SameButTrace visible (World.bindOrSkip s w c) (World.bindOrSkip s v c) := by
  obtain ⟨w', v', result, left, right, e'⟩ := (e.bindCard c s).elim
  unfold World.bindOrSkip
  rw [left, right]
  rcases result with fault | _
  · dsimp only
    rw [e'.card]
    exact e'.note _
  · exact e'

lemma bindAll (s : StateId) (cs : List CardId) :
    SameButTrace visible (cs.foldl (World.bindOrSkip s) w) (cs.foldl (World.bindOrSkip s) v) :=
  foldl (fun c _ _ e => e.bindOrSkip s c) e cs

lemma unbindCards (cs : List CardId) :
    SameButTrace visible (cs.foldl (fun w c => w.unbindCard c) w)
      (cs.foldl (fun w c => w.unbindCard c) v) :=
  foldl (fun c _ _ e => e.unbindCard c) e cs

lemma forgetEntries (entries : List Entry) :
    SameButTrace visible (entries.foldl (fun w entry => w.forgetEntry entry) w)
      (entries.foldl (fun w entry => w.forgetEntry entry) v) :=
  foldl (fun entry _ _ e => e.forgetEntry entry) e entries

lemma unbindDeck (d : DeckId) : SameButTrace visible (w.unbindDeck d) (v.unbindDeck d) := by
  unfold World.unbindDeck
  rw [e.deck]
  split
  · have noted := ((e.release (w.deck d).binding).onDeck d
      fun n => { n with binding := none }).note .deckUnbound
    dsimp only
    rw [noted.deck]
    exact noted.unbindCards _
  · dsimp only
    rw [e.deck]
    exact e.unbindCards _

lemma attachDeck (d : DeckId) (s : StateId) :
    SameButTrace visible (w.attachDeck d s) (v.attachDeck d s) := by
  have unbound := e.unbindDeck d
  unfold World.attachDeck
  dsimp only
  rw [unbound.deck]
  obtain ⟨w', v', number, left, right, e'⟩ :=
    ((unbound.bindAll s ((w.unbindDeck d).deck d).cards).subscribeState s (.deck d)).elim
  rw [left, right]
  exact (e'.onDeck d _).note _

lemma bindDeck (d : DeckId) (s : StateId) :
    SameButTraceFor visible (w.bindDeck d s) (v.bindDeck d s) := by
  unfold World.bindDeck
  rw [e.deck]
  split
  · exact e.with _
  · exact (e.attachDeck d s).with _

lemma disposeDeck (d : DeckId) : SameButTrace visible (w.disposeDeck d) (v.disposeDeck d) := by
  have unbound := e.unbindDeck d
  unfold World.disposeDeck
  dsimp only
  rw [unbound.deck]
  have emptied := unbound.onDeck d fun n => { n with entries := [] }
  have disposed := foldl (fun (entry : Entry) _ _ e => e.disposeCard entry.card) emptied
    ((w.unbindDeck d).deck d).entries
  exact ((disposed.forgetEntries _).onDeck d _).note _

/-! ## Nodes of any kind -/

lemma bindNode (n : NodeId) (s : StateId) :
    SameButTraceFor visible (w.bindNode n s) (v.bindNode n s) := by
  cases n with
  | expr x => exact e.bindExpr x s
  | set q => exact e.bindSet q s
  | card c => exact e.bindCard c s
  | deck d => exact e.bindDeck d s

lemma unbindNode (n : NodeId) : SameButTrace visible (w.unbindNode n) (v.unbindNode n) := by
  cases n with
  | expr x => exact e.unbindExpr x
  | set q => exact e.unbindSet q
  | card c => exact e.unbindCard c
  | deck d => exact e.unbindDeck d

lemma disposeNode (n : NodeId) : SameButTrace visible (w.disposeNode n) (v.disposeNode n) := by
  cases n with
  | expr x => exact e.disposeExpr x
  | set q => exact e.disposeSet q
  | card c => exact e.disposeCard c
  | deck d => exact e.disposeDeck d

lemma invalidateExpr (x : ExprId) :
    SameButTrace visible (w.invalidateExpr x) (v.invalidateExpr x) :=
  e.onExpr x _

lemma invalidateSet (q : SetId) : SameButTrace visible (w.invalidateSet q) (v.invalidateSet q) :=
  e.onSet q _

lemma invalidateNode (n : NodeId) :
    SameButTrace visible (w.invalidateNode n) (v.invalidateNode n) := by
  cases n with
  | expr x => exact e.invalidateExpr x
  | set q => exact e.invalidateSet q
  | card c =>
      unfold World.invalidateNode
      dsimp only
      rw [e.card]
      exact e.invalidateSet _
  | deck d =>
      unfold World.invalidateNode World.invalidateDeck
      dsimp only
      rw [e.deck]
      refine foldl (fun c w v e => ?_) e _
      rw [e.card]
      exact e.invalidateSet _

lemma truthResult (n : TruthId) : SameButTraceFor visible (w.truthResult n) (v.truthResult n) := by
  cases n with
  | expr x => exact e.exprResult x
  | set q => exact e.setResult q
  | card c => exact e.cardResult c

lemma truthCheck (n : TruthId) (s : StateId) :
    SameButTraceFor visible (w.truthCheck n s) (v.truthCheck n s) := by
  cases n with
  | expr x => exact e.exprCheck x s
  | set q => exact e.setCheck q s
  | card c => exact e.cardCheck c s

/-! ## Making and editing nodes -/

lemma newState : SameButTraceFor visible w.newState v.newState := by
  obtain ⟨trace, same⟩ := e
  exact ⟨.intro (w := w.newState.1) trace same, rfl⟩

lemma newBoard : SameButTrace visible { w with boards := w.boards.add .empty }
    { v with boards := v.boards.add .empty } := by
  obtain ⟨trace, same⟩ := e
  exact .intro (w := { w with boards := w.boards.add .empty }) trace same

lemma addExpr (n : ExprNode) : SameButTrace visible { w with exprs := w.exprs.add n }
    { v with exprs := v.exprs.add n } := by
  obtain ⟨trace, same⟩ := e
  exact .intro (w := { w with exprs := w.exprs.add n }) trace same

lemma addSet (n : SetNode) : SameButTrace visible { w with sets := w.sets.add n }
    { v with sets := v.sets.add n } := by
  obtain ⟨trace, same⟩ := e
  exact .intro (w := { w with sets := w.sets.add n }) trace same

lemma addCardNode (n : CardNode) : SameButTrace visible { w with cards := w.cards.add n }
    { v with cards := v.cards.add n } := by
  obtain ⟨trace, same⟩ := e
  exact .intro (w := { w with cards := w.cards.add n }) trace same

lemma addDeck (n : DeckNode) : SameButTrace visible { w with decks := w.decks.add n }
    { v with decks := v.decks.add n } := by
  obtain ⟨trace, same⟩ := e
  exact .intro (w := { w with decks := w.decks.add n }) trace same

lemma addListener (n : Listener) : SameButTrace visible { w with listeners := w.listeners.add n }
    { v with listeners := v.listeners.add n } := by
  obtain ⟨trace, same⟩ := e
  exact .intro (w := { w with listeners := w.listeners.add n }) trace same

lemma newExpr (cond : String) (state : Option StateId) :
    SameButTraceFor visible (w.newExpr cond state) (v.newExpr cond state) := by
  unfold World.newExpr
  rw [e.exprs]
  have added := e.addExpr (.new cond)
  rw [e.exprs] at added
  cases state with
  | none => exact added.with _
  | some s => exact (added.attachExpr _ s).with _

lemma rewriteExpr (x : ExprId) (cond : String) :
    SameButTrace visible (w.rewriteExpr x cond) (v.rewriteExpr x cond) :=
  (e.onExpr x _).invalidateExpr x

lemma insertQuality (q : SetId) (cond : String) :
    SameButTraceFor visible (w.insertQuality q cond) (v.insertQuality q cond) := by
  unfold World.insertQuality
  rw [e.hasQuality, e.setState]
  split
  · exact e.with _
  · obtain ⟨w', v', x, left, right, e'⟩ := (e.newExpr cond (w.setState q).toOption).elim
    rw [left, right]
    dsimp only
    rw [e'.expr]
    exact ((e'.onExpr x _).onSet q _).with _

lemma newSet (conds : List String) (state : Option StateId) :
    SameButTraceFor visible (w.newSet conds state) (v.newSet conds state) := by
  unfold World.newSet
  rw [e.sets]
  have added := e.addSet .new
  rw [e.sets] at added
  have attached : ∀ {w v : World}, SameButTrace visible w v → ∀ q, SameButTrace visible
      (conds.foldl (fun w cond => (w.insertQuality q cond).1) w)
      (conds.foldl (fun w cond => (w.insertQuality q cond).1) v) :=
    fun e q => foldl (fun cond _ _ e => (e.insertQuality q cond).world) e conds
  cases state with
  | none => exact (attached added _).with _
  | some s => exact (attached (added.attachSet _ s) _).with _

lemma dropMember (q : SetId) (m : Member) :
    SameButTrace visible (w.dropMember q m) (v.dropMember q m) :=
  (((e.onSet q _).disposeExpr m.expr).forgetMember m).invalidateSet q

lemma subscribeSet (q : SetId) (c : CardId) :
    SameButTraceFor visible (w.subscribeSet q c) (v.subscribeSet q c) := by
  unfold World.subscribeSet
  rw [e.set]
  exact (e.onSet q _).with _

lemma newCard (hash : CardHash) (content : String) (conds : List String) (state : Option StateId) :
    SameButTraceFor visible (w.newCard hash content conds state)
      (v.newCard hash content conds state) := by
  obtain ⟨w', v', q, left, right, e'⟩ := (e.newSet conds none).elim
  unfold World.newCard
  rw [left, right]
  dsimp only
  rw [e'.cards]
  obtain ⟨w'', v'', number, left', right', e''⟩ := (e'.subscribeSet q ⟨w'.cards.size⟩).elim
  rw [left', right']
  dsimp only
  have added := e''.addCardNode ⟨hash, content, q, number, none, .fresh, .empty, false⟩
  cases state with
  | none => exact added.with _
  | some s => exact (added.attachCard _ s).with _

lemma bindSetWhere (c : CardId) (q : SetId) :
    SameButTraceFor visible (w.bindSetWhere c q) (v.bindSetWhere c q) := by
  unfold World.bindSetWhere
  rw [e.cardState]
  split
  · exact e.bindSet q _
  · exact e.with _

lemma exchangeSet (c : CardId) (q : SetId) :
    SameButTrace visible (w.exchangeSet c q) (v.exchangeSet c q) := by
  obtain ⟨w', v', number, left, right, e'⟩ := (e.subscribeSet q c).elim
  unfold World.exchangeSet
  rw [left, right]
  dsimp only
  rw [e'.card]
  exact ((e'.onCard c _).disposeSet _).onSet _ _

lemma replaceQualities (c : CardId) (conds : List String) :
    SameButTraceFor visible (w.replaceQualities c conds) (v.replaceQualities c conds) := by
  obtain ⟨w', v', q, left, right, e'⟩ := (e.newSet conds none).elim
  unfold World.replaceQualities
  rw [left, right]
  dsimp only
  obtain ⟨w'', v'', result, left', right', e''⟩ := (e'.bindSetWhere c q).elim
  rw [left', right']
  rcases result with fault | _
  · exact e''.with _
  · exact (e''.exchangeSet c q).with _

lemma enterCards (d : DeckId) (cs : List CardId) :
    SameButTraceFor visible (w.enterCards d cs) (v.enterCards d cs) := by
  induction cs generalizing w v with
  | nil => exact e.with _
  | cons c rest ih =>
      obtain ⟨w', v', entry, left, right, e'⟩ := (e.enterCard d c).elim
      obtain ⟨w'', v'', more, left', right', e''⟩ := (ih e').elim
      rw [World.enterCards, World.enterCards, left, right]
      dsimp only
      rw [left', right']
      exact e''.with _

lemma newDeck (config : DeckConfig) (cs : List CardId) (state : Option StateId) :
    SameButTraceFor visible (w.newDeck config cs state) (v.newDeck config cs state) := by
  unfold World.newDeck
  rw [e.decks]
  have added := e.addDeck (.new config.generator)
  rw [e.decks] at added
  obtain ⟨w', v', entries, left, right, e'⟩ := (added.enterCards ⟨w.decks.size⟩ cs).elim
  dsimp only
  rw [left, right]
  have placed := e'.onDeck ⟨w.decks.size⟩ fun n => { n with entries }
  cases state with
  | none => exact placed.with _
  | some s => exact (placed.attachDeck _ s).with _

lemma clearCards (d : DeckId) : SameButTrace visible (w.clearCards d) (v.clearCards d) := by
  unfold World.clearCards
  rw [e.deck]
  have emptied := e.onDeck d fun n => { n with entries := [] }
  exact (foldl (fun (entry : Entry) _ _ e => e.unbindCard entry.card) emptied _).forgetEntries _

lemma bindCardsWhere (d : DeckId) (cs : List CardId) :
    SameButTrace visible (w.bindCardsWhere d cs) (v.bindCardsWhere d cs) := by
  unfold World.bindCardsWhere
  rw [e.deckState]
  split
  · exact e.bindAll _ cs
  · exact e

lemma replaceCards (d : DeckId) (cs : List CardId) :
    SameButTrace visible (w.replaceCards d cs) (v.replaceCards d cs) := by
  obtain ⟨w', v', entries, left, right, e'⟩ := ((e.clearCards d).enterCards d cs).elim
  unfold World.replaceCards
  rw [left, right]
  exact ((e'.bindCardsWhere d cs).note _).onDeck d _

lemma bindWhere (d : DeckId) (c : CardId) :
    SameButTraceFor visible (w.bindWhere d c) (v.bindWhere d c) := by
  unfold World.bindWhere
  rw [e.deckState]
  split
  · exact e.bindCard c _
  · exact e.with _

lemma insertCard (d : DeckId) (c : CardId) :
    SameButTraceFor visible (w.insertCard d c) (v.insertCard d c) := by
  obtain ⟨w', v', result, left, right, e'⟩ := (e.bindWhere d c).elim
  unfold World.insertCard
  rw [left, right]
  rcases result with fault | _
  · exact e'.with _
  · dsimp only
    rw [e'.card]
    obtain ⟨w'', v'', entry, left', right', e''⟩ :=
      ((e'.note (.cardAdded (w'.card c).hash)).enterCard d c).elim
    rw [left', right']
    exact (e''.onDeck d _).with _

lemma takeCard (d : DeckId) (c : CardId) (gone kept : List Entry) :
    SameButTrace visible (w.takeCard d c gone kept) (v.takeCard d c gone kept) := by
  have taken := ((e.onDeck d fun n => { n with entries := kept }).unbindCard c).forgetEntries gone
  unfold World.takeCard
  dsimp only
  rw [taken.card]
  exact taken.note _

lemma replaceCard (d : DeckId) (c : CardId) (index : Nat) (old : Entry) :
    SameButTraceFor visible (w.replaceCard d c index old) (v.replaceCard d c index old) := by
  obtain ⟨w', v', entry, left, right, e'⟩ := (e.enterCard d c).elim
  unfold World.replaceCard
  rw [left, right]
  exact (((e'.onDeck d _).unbindCard _).forgetEntry old).bindWhere d c

lemma pick (d : DeckId) (cs : List CardId) :
    SameButTraceFor visible (w.pick d cs) (v.pick d cs) := by
  unfold World.pick
  rw [e.deck]
  exact (e.onDeck d _).with _

/-! ## States and listeners -/

lemma alter (s : StateId) (contents : Contents) :
    SameButTrace visible (w.alter s contents) (v.alter s contents) := by
  have committed := e.onStore s (·.commit contents)
  unfold World.alter
  dsimp only
  rw [committed.store]
  exact committed.record _

lemma enterBatch (s : StateId) : SameButTrace visible (w.enterBatch s) (v.enterBatch s) :=
  (e.onStore s _).record _

lemma closeBatch (s : StateId) : SameButTrace visible (w.closeBatch s) (v.closeBatch s) :=
  (e.onStore s _).record _

lemma settle (s : StateId) : SameButTrace visible (w.settle s) (v.settle s) := by
  have settled := e.onStore s (·.settle)
  unfold World.settle
  dsimp only
  rw [settled.store]
  exact settled.note _

lemma subscribeTo (em : Emitter) (l : ListenerId) :
    SameButTraceFor visible (w.subscribeTo em l) (v.subscribeTo em l) := by
  cases em with
  | state s => exact e.subscribeState s (.user l)
  | expr x =>
      unfold World.subscribeTo
      dsimp only
      rw [e.expr]
      exact (e.onExpr x _).with _
  | set q =>
      unfold World.subscribeTo
      dsimp only
      rw [e.set]
      exact (e.onSet q _).with _
  | card c =>
      unfold World.subscribeTo
      dsimp only
      rw [e.card]
      exact (e.onCard c _).with _
  | deck d =>
      unfold World.subscribeTo
      dsimp only
      rw [e.deck]
      exact (e.onDeck d _).with _
  | board b =>
      unfold World.subscribeTo
      dsimp only
      rw [e.board]
      exact (e.onBoard b _).with _

lemma unsubscribeFrom (em : Emitter) (number : Nat) :
    SameButTrace visible (w.unsubscribeFrom em number) (v.unsubscribeFrom em number) := by
  cases em with
  | state s => exact e.onStore s _
  | expr x => exact e.onExpr x _
  | set q => exact e.onSet q _
  | card c => exact e.onCard c _
  | deck d => exact e.onDeck d _
  | board b => exact e.onBoard b _

lemma clearListeners (em : Emitter) :
    SameButTrace visible (w.clearListeners em) (v.clearListeners em) := by
  cases em with
  | state s => exact e.onStore s _
  | expr x => exact e.onExpr x _
  | set q => exact e.onSet q _
  | card c => exact e.onCard c _
  | deck d => exact e.onDeck d _
  | board b => exact e.onBoard b _

lemma newListener (em : Emitter) (name : String) (program : List Step) (times : Nat) :
    SameButTraceFor visible (w.newListener em name program times)
      (v.newListener em name program times) := by
  unfold World.newListener
  rw [e.listeners]
  obtain ⟨w', v', number, left, right, e'⟩ := (e.subscribeTo em ⟨w.listeners.size⟩).elim
  dsimp only
  rw [left, right]
  exact (e'.addListener _).with _

lemma fire (l : ListenerId) (payload : Payload) :
    SameButTrace visible (World.fire l payload w) (World.fire l payload v) := by
  unfold World.fire
  rw [e.toldContents]
  exact e.record _

lemma spend (l : ListenerId) (remaining : Nat) :
    SameButTrace visible (w.spend l remaining) (v.spend l remaining) :=
  e.onListener l _

end SameButTrace

end StoryEngine
