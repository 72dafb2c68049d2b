import StoryEngine.Proofs.Amend
import StoryEngine.Proofs.Supervision

/-!
# What the engine does between two calls of listeners

The engine calls listeners in the middle of its work, and a listener can do anything.  What can be
relied on is what the engine does from one call to the next.  Those pieces of work are few, and each
is done in circumstances that the engine sees to: what it works on is alive, what it takes hold of
is alive too, open batches are accounted for, and what a rule forbids is not done.

* `Rule` — what may be done to nodes directly, beside their owners.
* `Rule.allows` — the law that a rule makes for the steps of a script.
* `Rule.permits` — the same law, but for what a deck refuses anyway.
* `World.openScopes` — the open batches that names and holds account for.
* `World.Granted` — names and holds that only keep alive what is alive already, and give up the
  batches that they should.
* **`EngineStep`** — one piece of work, with its circumstances.
* `Move`, `EngineStep.move` — what engine steps are for those who do not look into nodes.
* `Preserved` — a property of worlds that all engine steps keep.
-/

namespace StoryEngine

/-! ## Rules -/

/-- **A rule**: whether a node may be bound, released or disposed of through a handle of its own,
whether an emitter may be cleared of its listeners, and whether a card may enter a deck.  To hold on
to what is held on to anyway makes no difference to a rule. -/
structure Rule where
  direct : World → NodeId → Prop
  clears : World → Emitter → Prop
  enters : World → DeckId → CardId → Prop
  deck : ∀ w d, direct w (.deck d)
  direct_hold : ∀ {w hs n}, (∀ h ∈ hs, w.isRooted h) → direct w n → direct (w.hold hs) n
  clears_hold : ∀ {w hs em}, (∀ h ∈ hs, w.isRooted h) → clears w em → clears (w.hold hs) em
  enters_hold : ∀ {w hs d c}, (∀ h ∈ hs, w.isRooted h) → enters w d c → enters (w.hold hs) d c

/-- The rule that forbids nothing. -/
def Rule.free : Rule where
  direct _ _ := True
  clears _ _ := True
  enters _ _ _ := True
  deck _ _ := trivial
  direct_hold _ _ := trivial
  clears_hold _ _ := trivial
  enters_hold _ _ := trivial

namespace World

/-- A name stands for something that is held on to, of a kind. -/
def Names {α : Type} (w : World) (name : String) (select : Handle → Option α) (a : α) : Prop :=
  ∃ h, w.find? name = some (.handle h) ∧ select h = some a

/-- The state that a node is bound to. -/
def boundTo (w : World) : NodeId → Option StateId
  | .expr e => (w.expr e).binding.map (·.state)
  | .set q => (w.set q).binding.map (·.state)
  | .card c => (w.card c).binding
  | .deck d => (w.deck d).binding.map (·.state)

end World

open World in
/-- **The law of a rule.**  Only those steps are restricted that bind, release or dispose of a node,
clear an emitter, or put cards into a deck. -/
def Rule.allows (rule : Rule) : Step → World → Prop
  | .act (.node (.bind name _)), w => ∀ n, w.Names name Handle.node? n → rule.direct w n
  | .act (.node (.unbind name)), w => ∀ n, w.Names name Handle.node? n → rule.direct w n
  | .act (.node (.dispose name)), w => ∀ n, w.Names name Handle.node? n → rule.direct w n
  | .act (.handle (.clearListeners name)), w =>
    ∀ em, w.Names name Handle.emitter? em → rule.clears w em
  | .act (.deck (.create _ cards _ _)), w =>
    ∀ name ∈ cards, ∀ c, w.Names name Handle.card? c → rule.enters w ⟨w.decks.size⟩ c
  | .act (.deck (.setCards name cards)), w =>
    ∀ d, w.Names name Handle.deck? d →
      ∀ card ∈ cards, ∀ c, w.Names card Handle.card? c → rule.enters w d c
  | .act (.deck (.addCard name card)), w =>
    ∀ d, w.Names name Handle.deck? d → ∀ c, w.Names card Handle.card? c → rule.enters w d c
  | .act (.deck (.updateCard name card)), w =>
    ∀ d, w.Names name Handle.deck? d → ∀ c, w.Names card Handle.card? c → rule.enters w d c
  | _, _ => True

open World in
/-- **What a rule permits**: all that its law allows, and to offer any card to a deck that has been
disposed of, for the deck refuses it. -/
def Rule.permits (rule : Rule) : Step → World → Prop
  | .act (.deck (.addCard name card)), w =>
    ∀ d, w.Names name Handle.deck? d → (w.deck d).disposed = false →
      ∀ c, w.Names card Handle.card? c → rule.enters w d c
  | .act (.deck (.updateCard name card)), w =>
    ∀ d, w.Names name Handle.deck? d → (w.deck d).disposed = false →
      ∀ c, w.Names card Handle.card? c → rule.enters w d c
  | step, w => rule.allows step w

/-- What the law of a rule allows is permitted. -/
lemma Rule.permits_of_allows {rule : Rule} {step : Step} {w : World}
    (allowed : rule.allows step w) : rule.permits step w := by
  unfold permits
  split
  · exact fun d named _ => allowed d named
  · exact fun d named _ => allowed d named
  · exact allowed

/-- Who obeys the law of a rule does what it permits. -/
lemma Supervisor.Obeys.permits {look : Supervisor} {rule : Rule} (obeys : look.Obeys rule.allows) :
    look.Obeys rule.permits := by
  intro step w w' passed
  obtain ⟨same, allowed⟩ := obeys step w w' passed
  exact ⟨same, Rule.permits_of_allows allowed⟩

/-! ## Names and holds -/

/-- The handle of an emitter. -/
def Emitter.handle : Emitter → Handle
  | .state s => .state s
  | .expr e => .expr e
  | .set q => .set q
  | .card c => .card c
  | .deck d => .deck d
  | .board b => .board b

/-- The handle of a node. -/
def NodeId.handle : NodeId → Handle
  | .expr e => .expr e
  | .set q => .set q
  | .card c => .card c
  | .deck d => .deck d

lemma Handle.emitter?_eq_some {h : Handle} {em : Emitter} :
    h.emitter? = some em ↔ h = em.handle := by
  cases h <;> cases em <;> simp [emitter?, Emitter.handle]

lemma Handle.node?_eq_some {h : Handle} {n : NodeId} : h.node? = some n ↔ h = n.handle := by
  cases h <;> cases n <;> simp [node?, NodeId.handle]

namespace World

/-- An object that a name may stand for: it keeps nothing alive but what is alive already, and it is
no subscription but one that was made before. -/
def grants (w : World) : Object → Prop
  | .handle h => w.Alive h
  | .subscription l => l.place < w.listeners.size ∨ ∃ name, (name, .subscription l) ∈ w.names
  | _ => True

/-- How many open batches of a state some names and holds account for. -/
def scopes (names : List (String × Object)) (held : List Handle) (s : StateId) : Nat :=
  names.countP (fun entry => entry.2.handle? == some (.batch s)) + held.count (.batch s)

/-- **The open batches of a state that names and holds account for.** -/
def openScopes (w : World) (s : StateId) : Nat :=
  scopes w.names w.held s

/-- No name stands for two things. -/
def Distinct (names : List (String × Object)) : Prop :=
  (names.map Prod.fst).Nodup

/-- **Names and holds that a world grants**, if it is to give up some open batches. -/
structure Granted (w : World) (batches : List StateId) (names : List (String × Object))
    (held : List Handle) : Prop where
  named : ∀ name o, (name, o) ∈ names → w.grants o
  alive : ∀ h ∈ held, w.Alive h
  distinct : Distinct w.names → Distinct names
  balanced : Distinct w.names → ∀ s, scopes names held s + batches.count s = w.openScopes s

/-- What is rooted in a world with names and holds that were granted. -/
lemma Granted.root {w v : World} {batches : List StateId} {names : List (String × Object)}
    {held : List Handle} (granted : w.Granted batches names held) {x : Handle}
    (rooted : (v.withRoots names held).isRooted x) : w.Alive x := by
  rcases isRooted_iff.1 rooted with mem | ⟨name, mem⟩
  · exact granted.alive x mem
  · exact granted.named name _ mem

/-- The contents of a state after a key was set or deleted, if that changes anything. -/
def Changes (w : World) (s : StateId) (contents : Contents) : Prop :=
  (∃ key v, (w.store s).write? key v = some contents) ∨
    ∃ key old, (w.store s).erase? key = some (old, contents)

end World

/-! ## Engine steps -/

open World in
/-- **An engine step**: what the engine does to a world between two calls of listeners. -/
inductive EngineStep (rule : Rule) (w : World) : World → Prop
  | record (event : Event) (aside : event.Aside) : EngineStep rule w (w.record event)
  | roots (names : List (String × Object)) (held : List Handle)
      (granted : w.Granted [] names held) :
      EngineStep rule w (w.withRoots names held)
  -- states
  | amend (s : StateId) (contents : Contents) (changes : w.Changes s contents) :
      EngineStep rule w (w.amend s contents)
  | enter (s : StateId) (alive : w.Alive (.state s)) :
      EngineStep rule w ((w.hold [.batch s]).enterBatch s)
  | shut (s : StateId) (names : List (String × Object)) (held : List Handle)
      (granted : w.Granted [s] names held) : EngineStep rule w ((w.withRoots names held).shut s)
  -- new objects, which are held on to
  | newState : EngineStep rule w (w.newState.1.hold [.state w.newState.2])
  | newBoard :
      EngineStep rule w ({ w with boards := w.boards.add .empty } |>.hold [.board ⟨w.boards.size⟩])
  | newExpr (cond : String) (state : Option StateId) (alive : ∀ s ∈ state, w.stateAlive s) :
      EngineStep rule w ((w.newExpr cond state).1.hold [.expr (w.newExpr cond state).2])
  | newSet (conds : List String) (state : Option StateId) (alive : ∀ s ∈ state, w.stateAlive s) :
      EngineStep rule w ((w.newSet conds state).1.hold [.set (w.newSet conds state).2])
  | newCard (hash : CardHash) (content : String) (conds : List String) (state : Option StateId)
      (alive : ∀ s ∈ state, w.stateAlive s) :
      EngineStep rule w ((w.newCard hash content conds state).1.hold
        [.card (w.newCard hash content conds state).2])
  | newDeck (config : DeckConfig) (cards : List CardId) (state : Option StateId)
      (alive : ∀ s ∈ state, w.stateAlive s) (cardsAlive : ∀ c ∈ cards, w.cardAlive c)
      (enters : ∀ c ∈ cards, rule.enters w ⟨w.decks.size⟩ c) :
      EngineStep rule w
        ((w.newDeck config cards state).1.hold [.deck (w.newDeck config cards state).2])
  -- listeners
  | newListener (emitter : Emitter) (name : String) (program : List Step) (times : Nat)
      (alive : w.Alive emitter.handle) :
      EngineStep rule w (w.newListener emitter name program times).1
  | spend (l : ListenerId) (remaining : Nat) (left : (w.listener l).remaining = remaining + 1) :
      EngineStep rule w (w.spend l remaining)
  | unsubscribeFrom (l : ListenerId) :
      EngineStep rule w (w.unsubscribeFrom (w.listener l).emitter (w.listener l).number)
  | clearListeners (emitter : Emitter) (clears : rule.clears w emitter) :
      EngineStep rule w (w.clearListeners emitter)
  -- reading, and the gates of nodes
  | readExpr (e : ExprId) : EngineStep rule w (w.exprResult e).1
  | readSet (q : SetId) : EngineStep rule w (w.setResult q).1
  | invalidateExpr (e : ExprId) : EngineStep rule w (w.invalidateExpr e)
  | invalidateSet (q : SetId) : EngineStep rule w (w.invalidateSet q)
  | admitExpr (e : ExprId) (cause : Option Nat) (admits : (w.expr e).gate.admits cause) :
      EngineStep rule w (w.onExpr e fun n => { n with gate := n.gate.after cause })
  | admitSet (q : SetId) (cause : Option Nat) (admits : (w.set q).gate.admits cause) :
      EngineStep rule w (w.onSet q fun n => { n with gate := n.gate.after cause })
  | admitCard (c : CardId) (cause : Option Nat) (admits : (w.card c).gate.admits cause) :
      EngineStep rule w (w.onCard c fun n => { n with gate := n.gate.after cause })
  | admitDeck (d : DeckId) (cause : Option Nat) (admits : (w.deck d).gate.admits cause) :
      EngineStep rule w (w.onDeck d fun n => { n with gate := n.gate.after cause })
  -- nodes of any kind
  | bind (n : NodeId) (s : StateId) (alive : w.Alive n.handle) (stateAlive : w.stateAlive s)
      (direct : rule.direct w n) : EngineStep rule w (w.bindNode n s).1
  | unbind (n : NodeId) (alive : w.Alive n.handle) (direct : rule.direct w n) :
      EngineStep rule w (w.unbindNode n)
  | dispose (n : NodeId) (alive : w.Alive n.handle) (direct : rule.direct w n) :
      EngineStep rule w (w.disposeNode n)
  -- quality sets and cards
  | addQuality (q : SetId) (cond : String) (alive : w.setAlive q)
      (usable : (w.set q).disposed = false)
      (lacks : w.hasQuality q cond = false) :
      EngineStep rule w ((w.insertQuality q cond).1.invalidateSet q)
  | dropMember (q : SetId) (cond : String) (m : Member) (alive : w.setAlive q)
      (found : w.memberWith? q cond = some m) : EngineStep rule w (w.dropMember q m)
  | replaceQualities (c : CardId) (conds : List String) (alive : w.cardAlive c)
      (usable : (w.card c).disposed = false) : EngineStep rule w (w.replaceQualities c conds).1
  | setContent (c : CardId) (content : String) :
      EngineStep rule w (w.onCard c fun n => { n with content })
  -- decks
  | replaceCards (d : DeckId) (cards : List CardId) (alive : w.deckAlive d)
      (cardsAlive : ∀ c ∈ cards, w.cardAlive c) (enters : ∀ c ∈ cards, rule.enters w d c) :
      EngineStep rule w (w.replaceCards d cards)
  | insertCard (d : DeckId) (c : CardId) (alive : w.deckAlive d) (cardAlive : w.cardAlive c)
      (usable : (w.deck d).disposed = false) (cardUsable : (w.card c).disposed = false)
      (enters : rule.enters w d c) : EngineStep rule w (w.insertCard d c).1
  | takeCard (d : DeckId) (c : CardId) (gone kept : List Entry) (alive : w.deckAlive d)
      (cardAlive : w.cardAlive c)
      (parts : (w.deck d).entries.partition (·.card == c) = (gone, kept)) (taken : gone ≠ []) :
      EngineStep rule w (w.takeCard d c gone kept)
  | replaceCard (d : DeckId) (c : CardId) (index : Nat) (old : Entry) (alive : w.deckAlive d)
      (cardAlive : w.cardAlive c) (usable : (w.deck d).disposed = false)
      (cardUsable : (w.card c).disposed = false) (enters : rule.enters w d c)
      (found : w.placeOf? d (w.card c).hash = some (index, old)) :
      EngineStep rule w (w.replaceCard d c index old).1
  | reorder (d : DeckId) : EngineStep rule w (w.reorder d)
  | pick (d : DeckId) (cards : List CardId) : EngineStep rule w (w.pick d cards).1

/-- **What one rule grants, a rule that forbids less grants too.** -/
theorem EngineStep.mono {rule rule' : Rule} {w v : World} (engineStep : EngineStep rule w v)
    (direct : ∀ n, rule.direct w n → rule'.direct w n)
    (clears : ∀ em, rule.clears w em → rule'.clears w em)
    (enters : ∀ d c, rule.enters w d c → rule'.enters w d c) : EngineStep rule' w v := by
  cases engineStep with
  | record event aside => exact .record event aside
  | roots names held granted => exact .roots names held granted
  | amend s contents changes => exact .amend s contents changes
  | enter s alive => exact .enter s alive
  | shut s names held granted => exact .shut s names held granted
  | newState => exact .newState
  | newBoard => exact .newBoard
  | newExpr cond state alive => exact .newExpr cond state alive
  | newSet conds state alive => exact .newSet conds state alive
  | newCard hash content conds state alive => exact .newCard hash content conds state alive
  | newDeck config cards state alive cardsAlive ok =>
      exact .newDeck config cards state alive cardsAlive fun c mem => enters _ c (ok c mem)
  | newListener em name program times alive => exact .newListener em name program times alive
  | spend l remaining left => exact .spend l remaining left
  | unsubscribeFrom l => exact .unsubscribeFrom l
  | clearListeners em ok => exact .clearListeners em (clears em ok)
  | readExpr e => exact .readExpr e
  | readSet q => exact .readSet q
  | invalidateExpr e => exact .invalidateExpr e
  | invalidateSet q => exact .invalidateSet q
  | admitExpr e cause admits => exact .admitExpr e cause admits
  | admitSet q cause admits => exact .admitSet q cause admits
  | admitCard c cause admits => exact .admitCard c cause admits
  | admitDeck d cause admits => exact .admitDeck d cause admits
  | bind n s alive stateAlive ok => exact .bind n s alive stateAlive (direct n ok)
  | unbind n alive ok => exact .unbind n alive (direct n ok)
  | dispose n alive ok => exact .dispose n alive (direct n ok)
  | addQuality q cond alive usable lacks => exact .addQuality q cond alive usable lacks
  | dropMember q cond m alive found => exact .dropMember q cond m alive found
  | replaceQualities c conds alive usable => exact .replaceQualities c conds alive usable
  | setContent c content => exact .setContent c content
  | replaceCards d cards alive cardsAlive ok =>
      exact .replaceCards d cards alive cardsAlive fun c mem => enters d c (ok c mem)
  | insertCard d c alive cardAlive usable cardUsable ok =>
      exact .insertCard d c alive cardAlive usable cardUsable (enters d c ok)
  | takeCard d c gone kept alive cardAlive parts taken =>
      exact .takeCard d c gone kept alive cardAlive parts taken
  | replaceCard d c index old alive cardAlive usable cardUsable ok found =>
      exact .replaceCard d c index old alive cardAlive usable cardUsable (enters d c ok) found
  | reorder d => exact .reorder d
  | pick d cards => exact .pick d cards

/-! ## Engine steps for those who do not look into nodes -/

/-- **A move**: what an engine step comes to for those who look at states, names, holds and
subscribed listeners only. -/
inductive Move (w : World) : World → Prop
  | onward {w' : World} (onward : w.Onward w') : Move w w'
  | made {v : World} (h : Handle) (onward : w.Onward v) (noBatch : ∀ s, h ≠ .batch s)
      (exist : ∀ c, h = .card c → c.place < v.cards.size) : Move w (v.hold [h])
  | roots {names : List (String × Object)} {held : List Handle}
      (granted : w.Granted [] names held) :
      Move w (w.withRoots names held)
  | amend (s : StateId) (contents : Contents) : Move w (w.amend s contents)
  | enter (s : StateId) : Move w ((w.hold [.batch s]).enterBatch s)
  | shut (s : StateId) {names : List (String × Object)} {held : List Handle}
      (granted : w.Granted [s] names held) : Move w ((w.withRoots names held).shut s)
  | newListener (emitter : Emitter) (name : String) (program : List Step) (times : Nat) :
      Move w (w.newListener emitter name program times).1
  | spend (l : ListenerId) (remaining : Nat) (left : (w.listener l).remaining = remaining + 1) :
      Move w (w.spend l remaining)

open World in
/-- **Every engine step is a move.** -/
theorem EngineStep.move {rule : Rule} {w w' : World} (engineStep : EngineStep rule w w') :
    Move w w' := by
  cases engineStep with
  | record event aside => exact .onward (onward_record w aside)
  | roots names held granted => exact .roots granted
  | amend s contents _ => exact .amend s contents
  | enter s => exact .enter s
  | shut s names held granted => exact .shut s granted
  | newState => exact .made _ (onward_addStore w) nofun nofun
  | newBoard => exact .made _ (onward_addBoard w) nofun nofun
  | newExpr => exact .made _ (onward_newExpr _ _ w) nofun nofun
  | newSet => exact .made _ (onward_newSet _ _ w) nofun nofun
  | newCard hash content conds state =>
      refine .made _ (onward_newCard hash content conds state w) nofun fun c eq => ?_
      rw [← Handle.card.inj eq, newCard_id]
      exact newCard_bound hash content conds state w
  | newDeck => exact .made _ (onward_newDeck _ _ _ w) nofun nofun
  | newListener emitter name program times => exact .newListener emitter name program times
  | spend l remaining left => exact .spend l remaining left
  | unsubscribeFrom => exact .onward (onward_unsubscribeFrom _ _ w)
  | clearListeners => exact .onward (onward_clearListeners _ w)
  | readExpr e => exact .onward (onward_exprResult e w)
  | readSet q => exact .onward (onward_setResult q w)
  | invalidateExpr e => exact .onward (onward_invalidateExpr e w)
  | invalidateSet q => exact .onward (onward_invalidateSet q w)
  | admitExpr =>
      exact .onward (onward_onExpr (fun _ => .refl _ _) fun _ => .same rfl rfl rfl)
  | admitSet => exact .onward (onward_onSet fun _ => .refl _ _)
  | admitCard => exact .onward (onward_onCard fun _ => .refl _ _)
  | admitDeck => exact .onward (onward_onDeck fun _ => .refl _ _)
  | bind n s => exact .onward (onward_bindNode n s w)
  | unbind n => exact .onward (onward_unbindNode n w)
  | dispose n => exact .onward (onward_disposeNode n w)
  | addQuality q cond =>
      exact .onward ((onward_insertQuality q cond w).trans (onward_invalidateSet q _))
  | dropMember q _ m => exact .onward (onward_dropMember q m w)
  | replaceQualities c conds => exact .onward (onward_replaceQualities c conds w)
  | setContent => exact .onward (onward_onCard fun _ => .refl _ _)
  | replaceCards d cards => exact .onward (onward_replaceCards d cards w)
  | insertCard d c => exact .onward (onward_insertCard d c w)
  | takeCard d c gone kept => exact .onward (onward_takeCard d c gone kept w)
  | replaceCard d c index old => exact .onward (onward_replaceCard d c index old w)
  | reorder => exact .onward (onward_onDeck fun _ => .refl _ _)
  | pick => exact .onward (onward_onDeck fun _ => .refl _ _)

open World in
/-- **Every move leads to a later world.** -/
theorem Move.later {w w' : World} (move : Move w w') : w.Later w' := by
  cases move with
  | onward onward => exact onward.toLater
  | @made v h onward => exact onward.toLater.trans (later_withRoots v _ _)
  | @roots names held _ => exact later_withRoots w names held
  | amend s contents => exact (steady_amend s contents w).toLater
  | enter s => exact (later_withRoots w _ _).trans (steady_enterBatch s _).toLater
  | @shut s names held _ => exact (later_withRoots w names held).trans (steady_shut s _).toLater
  | newListener emitter name program times => exact later_newListener emitter name program times w
  | spend l remaining _ => exact later_onListener fun _ => ⟨rfl, rfl, rfl⟩

/-- Every engine step leads to a later world. -/
theorem EngineStep.later {rule : Rule} {w w' : World} (engineStep : EngineStep rule w w') :
    w.Later w' :=
  engineStep.move.later

open World in
/-- **What owners gain by an engine step is new**, but for decks, which may gain cards that are
alive. -/
theorem EngineStep.wider {rule : Rule} {w w' : World} (engineStep : EngineStep rule w w') :
    w.Wider (fun c => w.Alive (.card c)) w' := by
  have same : w.Tighter (fun c => w.Alive (.card c)) w := .refl w
  cases engineStep with
  | record event => exact (tighter_record event w).wider
  | roots => exact { same.wider with }
  | amend s contents => exact (tighter_amend s contents w).wider
  | enter s => exact { (tighter_enterBatch s w).wider with }
  | shut s names held =>
      exact { (tighter_shut s (w.withRoots names held)).wider with }
  | newState => exact { same.wider with }
  | newBoard => exact { same.wider with }
  | newExpr cond state => exact { (tighter_newExpr cond state w).wider with }
  | newSet conds state => exact { (wider_newSet conds state w) with }
  | newCard hash content conds state => exact { wider_newCard hash content conds state w with }
  | newDeck config cards state _ cardsAlive _ =>
      have tight := tighter_newDeck config state w fun c mem => cardAlive_iff.1 (cardsAlive c mem)
      exact { tight.wider with }
  | newListener emitter name program times =>
      exact (tighter_newListener emitter name program times w).wider
  | spend => exact { same.wider with }
  | unsubscribeFrom => exact (tighter_unsubscribeFrom _ _ w).wider
  | clearListeners emitter => exact (tighter_clearListeners emitter w).wider
  | readExpr e => exact (cachesOnly_exprResult e w).bindingsOnly.tighter.wider
  | readSet q => exact (cachesOnly_setResult q w).bindingsOnly.tighter.wider
  | invalidateExpr e => exact (cachesOnly_invalidateExpr e w).bindingsOnly.tighter.wider
  | invalidateSet q => exact (cachesOnly_invalidateSet q w).bindingsOnly.tighter.wider
  | admitExpr => exact (tighter_onExpr _ _).wider
  | admitSet q =>
      refine Tighter.wider ?_
      exact tighter_onSet q fun _ => .refl _
  | admitCard c =>
      refine Tighter.wider ?_
      exact tighter_onCard c fun _ => rfl
  | admitDeck d =>
      refine Tighter.wider ?_
      exact tighter_onDeck d fun _ _ => .inl
  | bind n s => exact (bindingsOnly_bindNode n s w).tighter.wider
  | unbind n => exact (bindingsOnly_unbindNode n w).tighter.wider
  | dispose n => exact (tighter_disposeNode n w).wider
  | addQuality q cond =>
      exact (wider_insertQuality q cond w).trans
        (cachesOnly_invalidateSet q _).bindingsOnly.tighter.wider
  | dropMember q _ m => exact (tighter_dropMember q m w).wider
  | replaceQualities c conds => exact wider_replaceQualities c conds w
  | setContent c =>
      refine Tighter.wider ?_
      exact tighter_onCard c fun _ => rfl
  | replaceCards d cards _ cardsAlive _ =>
      exact (tighter_replaceCards d w fun c mem => cardAlive_iff.1 (cardsAlive c mem)).wider
  | insertCard d c _ cardAlive => exact (tighter_insertCard d w (cardAlive_iff.1 cardAlive)).wider
  | takeCard d c gone kept _ _ parts _ => exact (tighter_takeCard d c gone kept parts).wider
  | replaceCard d c index old _ cardAlive =>
      exact (tighter_replaceCard d index old w (cardAlive_iff.1 cardAlive)).wider
  | reorder d => exact (tighter_reorder d w).wider
  | pick d cards => exact (tighter_pick d cards w).wider

open World in
/-- **Cards that can be got hold of exist**, and go on to. -/
theorem World.CardsExist.engineStep {rule : Rule} {w w' : World} (h : w.CardsExist)
    (engineStep : EngineStep rule w w') : w'.CardsExist := by
  have wider := engineStep.wider
  have still : ∀ {c : CardId}, w.Alive (.card c) → c.place < w'.cards.size :=
    fun alive => Nat.lt_of_lt_of_le (h.bounded alive) wider.cards
  refine ⟨?_, ?_⟩
  · intro c rooted
    cases engineStep.move with
    | onward onward =>
        rw [onward.isRooted_eq] at rooted
        exact still (.root rooted)
    | made new onward _ exist =>
        rcases isRooted_hold.1 rooted with mem | old
        · exact exist c (List.mem_singleton.1 mem).symm
        · rw [onward.isRooted_eq] at old
          exact still (.root old)
    | roots granted => exact still (granted.root rooted)
    | amend s contents =>
        rw [(steady_amend s contents w).isRooted_eq] at rooted
        exact still (.root rooted)
    | enter s =>
        rw [(steady_enterBatch s (w.hold [.batch s])).isRooted_eq] at rooted
        rcases isRooted_hold.1 rooted with mem | old
        · cases List.mem_singleton.1 mem
        · exact still (.root old)
    | shut s granted =>
        rw [(steady_shut s _).isRooted_eq] at rooted
        exact still (granted.root rooted)
    | newListener emitter name program times =>
        have same : w.Tighter (fun _ => False) _ := tighter_newListener emitter name program times w
        rw [same.isRooted_eq] at rooted
        exact still (.root rooted)
    | spend l remaining left => exact still (.root rooted)
  · intro d c mem
    rcases wider.deckCards d c mem with old | alive
    · exact Nat.lt_of_lt_of_le (h.entry old) wider.cards
    · exact still alive

/-! ## Properties that are kept -/

/-- **A property that the engine keeps.**  Every engine step keeps it, but for one: when an
expression gets another condition, the property may be off until its quality set, which is the first
to be notified, has invalidated its cache.  `Stale` is what holds in between.  The property has to
say that cards which are held on to exist. -/
structure Preserved (rule : Rule) (Holds : World → Prop) (Stale : ExprId → World → Prop) :
    Prop where
  engineStep : ∀ {w w'}, Holds w → EngineStep rule w w' → Holds w'
  bounded : ∀ {w c}, Holds w → .card c ∈ w.held → c.place < w.cards.size
  rewrite : ∀ {w} (e : ExprId) (cond : String), Holds w → Stale e (w.rewriteExpr e cond)
  skips : ∀ {w e}, Stale e w → ((w.exprEntries e).isEmpty || (w.expr e).binding.isNone) = true →
    Holds w
  fault : ∀ {w e fault}, Stale e w → w.exprState e = .error fault → Holds w
  read : ∀ {w e}, Stale e w → Stale e (w.exprResult e).1
  record : ∀ {w e} {event : Event}, event.Aside → Stale e w → Stale e (w.record event)
  user : ∀ {w e k l rest}, Stale e w → w.exprEntries e = (k, .user l) :: rest → Holds w
  owner : ∀ {w e k q rest}, Stale e w → w.exprEntries e = (k, .owner q) :: rest →
    Holds ((w.hold [.set q]).invalidateSet q)

end StoryEngine
