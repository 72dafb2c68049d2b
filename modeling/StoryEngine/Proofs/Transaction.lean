import StoryEngine.Proofs.Performing

/-!
# What is done to subscriptions

A subscription that is made is held by somebody: by a name, if a listener subscribed, or by the node
that listens.  Here the work of the engine is cut into pieces that leave no subscription without its
holder.  Each piece is done in one go; between two of them listeners may be called.

* `Licence` — what a script may dispose of, and which emitters it may clear of their listeners.
* `Licence.allows` — the law that a licence makes for the steps of a script.
* `World.Still` — nothing has changed that has to do with subscriptions or with who owns whom.
* `World.disposedWith` — the nodes that are disposed of along with a node.
* `World.replace`, `World.forget` — a name gets another object, or none, and the subscription that
  it stood for ends.
* **`Transaction`** — one piece of work, with the nodes that are disposed of in it.
-/

namespace StoryEngine

/-! ## Licences -/

/-- **A licence**: which nodes may be disposed of through a handle of their own, and which emitters
may be cleared of their listeners.  To hold on to what is held on to anyway makes no difference. -/
structure Licence where
  disposes : World → NodeId → Prop
  clears : World → Emitter → Prop
  disposes_hold : ∀ {w hs n}, (∀ h ∈ hs, w.isRooted h) → disposes w n → disposes (w.hold hs) n
  clears_hold : ∀ {w hs em}, (∀ h ∈ hs, w.isRooted h) → clears w em → clears (w.hold hs) em

/-- The licence to do anything. -/
def Licence.free : Licence where
  disposes _ _ := True
  clears _ _ := True
  disposes_hold _ _ := trivial
  clears_hold _ _ := trivial

open World in
/-- **The law of a licence.**  Only those steps are restricted that dispose of a node or clear an
emitter. -/
def Licence.allows (licence : Licence) : Step → World → Prop
  | .act (.node (.dispose name)), w =>
    ∀ n, w.Names name Handle.node? n → licence.disposes w n
  | .act (.handle (.clearListeners name)), w =>
    ∀ em, w.Names name Handle.emitter? em → licence.clears w em
  | _, _ => True

/-- Nothing is against the law of the licence to do anything. -/
lemma Licence.free_allows (step : Step) (w : World) : Licence.free.allows step w := by
  unfold allows
  split <;> simp [free]

/-! ## What has to do with subscriptions -/

/-- What an expression has to do with subscriptions: its own, and those of others to it. -/
def ExprNode.ties (n : ExprNode) : Option Binding × Registry ExprListener :=
  (n.binding, n.listeners)

/-- What a quality set has to do with subscriptions, and what it owns. -/
def SetNode.ties (n : SetNode) : List Member × Option Binding × Registry SetListener :=
  (n.members, n.binding, n.listeners)

/-- What a card has to do with subscriptions, and what it owns. -/
def CardNode.ties (n : CardNode) : SetId × Nat × Registry CardListener × Bool :=
  (n.qualities, n.number, n.listeners, n.disposed)

/-- What a deck has to do with subscriptions, and what it owns. -/
def DeckNode.ties (n : DeckNode) : List Entry × Option Binding × Registry ListenerId :=
  (n.entries, n.binding, n.listeners)

/-- What a subscribed listener has to do with subscriptions. -/
def Listener.ties (n : Listener) : Emitter × Nat :=
  (n.emitter, n.number)

namespace World

/-- **Nothing has changed** that has to do with subscriptions, with who owns whom, or with what is
held on to. -/
structure Still (w v : World) : Prop where
  store : ∀ s, (v.store s).listeners = (w.store s).listeners
  expr : ∀ e, (v.expr e).ties = (w.expr e).ties
  set : ∀ q, (v.set q).ties = (w.set q).ties
  card : ∀ c, (v.card c).ties = (w.card c).ties
  deck : ∀ d, (v.deck d).ties = (w.deck d).ties
  board : ∀ b, v.board b = w.board b
  listener : ∀ l, (v.listener l).ties = (w.listener l).ties
  names : v.names = w.names
  held : v.held = w.held
  exprs : w.exprs.size ≤ v.exprs.size
  sets : w.sets.size ≤ v.sets.size
  cards : v.cards.size = w.cards.size
  listeners : w.listeners.size ≤ v.listeners.size

section
variable {w v u : World}

lemma Still.refl (w : World) : w.Still w :=
  ⟨fun _ => rfl, fun _ => rfl, fun _ => rfl, fun _ => rfl, fun _ => rfl, fun _ => rfl, fun _ => rfl,
    rfl, rfl, Nat.le_refl _, Nat.le_refl _, rfl, Nat.le_refl _⟩

lemma Still.trans (h : w.Still v) (h' : v.Still u) : w.Still u where
  store s := (h'.store s).trans (h.store s)
  expr e := (h'.expr e).trans (h.expr e)
  set q := (h'.set q).trans (h.set q)
  card c := (h'.card c).trans (h.card c)
  deck d := (h'.deck d).trans (h.deck d)
  board b := (h'.board b).trans (h.board b)
  listener l := (h'.listener l).trans (h.listener l)
  names := h'.names.trans h.names
  held := h'.held.trans h.held
  exprs := Nat.le_trans h.exprs h'.exprs
  sets := Nat.le_trans h.sets h'.sets
  cards := h'.cards.trans h.cards
  listeners := Nat.le_trans h.listeners h'.listeners

lemma Still.foldl {β : Type} {step : World → β → World} (h : ∀ (w : World) b, w.Still (step w b))
    (bs : List β) (w : World) : w.Still (bs.foldl step w) := by
  induction bs generalizing w with
  | nil => exact .refl w
  | cons b bs ih => exact (h w b).trans (ih _)

/-! ### Single changes -/

lemma still_record (event : Event) (w : World) : w.Still (w.record event) :=
  { Still.refl w with }

lemma still_note (n : Note) (w : World) : w.Still (w.note n) :=
  still_record _ w

lemma still_onStore {s : StateId} {f : Store → Store}
    (same : ∀ st : Store, (f st).listeners = st.listeners) : w.Still (w.onStore s f) :=
  { Still.refl w with
    store := by
      intro other
      rw [store_onStore]
      split
      · exact same _
      · rfl }

lemma still_onExpr {e : ExprId} {f : ExprNode → ExprNode} (same : ∀ n, (f n).ties = n.ties) :
    w.Still (w.onExpr e f) :=
  { Still.refl w with
    exprs := Table.size_le_modify _ _ _
    expr := by
      intro other
      rw [expr_onExpr]
      split
      · exact same _
      · rfl }

lemma still_onSet {q : SetId} {f : SetNode → SetNode} (same : ∀ n, (f n).ties = n.ties) :
    w.Still (w.onSet q f) :=
  { Still.refl w with
    sets := Table.size_le_modify _ _ _
    set := by
      intro other
      rw [set_onSet]
      split
      · exact same _
      · rfl }

lemma still_onDeck {d : DeckId} {f : DeckNode → DeckNode} (same : ∀ n, (f n).ties = n.ties) :
    w.Still (w.onDeck d f) :=
  { Still.refl w with
    deck := by
      intro other
      rw [deck_onDeck]
      split
      · exact same _
      · rfl }

lemma still_spend (l : ListenerId) (remaining : Nat) (w : World) : w.Still (w.spend l remaining) :=
  { Still.refl w with
    listeners := Table.size_le_modify _ _ _
    listener := by
      intro other
      rw [spend, listener_onListener]
      split <;> rfl }

lemma CachesOnly.still (h : w.CachesOnly v) : w.Still v where
  store s := by rw [h.store_eq s]
  expr e := by rw [h.expr e]; rfl
  set q := by rw [h.set q]; rfl
  card c := by rw [h.card_eq c]
  deck d := by rw [h.deck_eq d]
  board b := by rw [board, board, h.boards]
  listener l := by rw [listener, listener, h.listeners]
  names := h.names
  held := h.held
  exprs := h.exprs
  sets := h.sets
  cards := by rw [h.cards]
  listeners := Nat.le_of_eq (by rw [h.listeners])

/-! ### Changes of states -/

lemma still_alter (s : StateId) (contents : Contents) (w : World) :
    w.Still (w.alter s contents) := by
  refine Still.trans ?_ (still_record _ _)
  exact still_onStore fun _ => rfl

lemma still_enterBatch (s : StateId) (w : World) : w.Still (w.enterBatch s) := by
  refine Still.trans ?_ (still_record _ _)
  exact still_onStore fun _ => rfl

lemma still_closeBatch (s : StateId) (w : World) : w.Still (w.closeBatch s) := by
  refine Still.trans ?_ (still_record _ _)
  exact still_onStore fun _ => rfl

lemma still_settle (s : StateId) (w : World) : w.Still (w.settle s) := by
  refine Still.trans ?_ (still_note _ _)
  exact still_onStore fun _ => rfl

lemma still_newState (w : World) : w.Still w.newState.1 :=
  { Still.refl w with
    store := by
      intro s
      rw [newState, store_addStore] }

lemma still_newBoard (w : World) : w.Still { w with boards := w.boards.add .empty } :=
  { Still.refl w with
    board := by
      intro b
      rw [board, Table.get_add]
      split
      · next eq => rw [board, eq, Table.get_of_size_le (Nat.le_refl _)]; rfl
      · rfl }

/-! ### Changes of nodes -/

lemma still_rewriteExpr (e : ExprId) (cond : String) (w : World) :
    w.Still (w.rewriteExpr e cond) := by
  refine Still.trans ?_ (cachesOnly_invalidateExpr e _).still
  exact still_onExpr fun _ => rfl

lemma still_invalidateNode (n : NodeId) (w : World) : w.Still (w.invalidateNode n) := by
  cases n with
  | expr e => exact (cachesOnly_invalidateExpr e w).still
  | set q => exact (cachesOnly_invalidateSet q w).still
  | card c => exact (cachesOnly_invalidateSet _ w).still
  | deck d => exact Still.foldl (fun w c => (cachesOnly_invalidateSet _ w).still) _ w

lemma still_pick (d : DeckId) (cards : List CardId) (w : World) : w.Still (w.pick d cards).1 :=
  still_onDeck fun _ => rfl

end

/-! ## What is disposed of -/

/-- A quality set and its members. -/
def setAndMembers (w : World) (q : SetId) : List NodeId :=
  .set q :: (w.members q).map .expr

/-- A card and what it owns. -/
def cardAndQualities (w : World) (c : CardId) : List NodeId :=
  .card c :: w.setAndMembers (w.card c).qualities

/-- **The nodes that are disposed of along with a node**: itself, and what it owns. -/
def disposedWith (w : World) : NodeId → List NodeId
  | .expr e => [.expr e]
  | .set q => w.setAndMembers q
  | .card c => w.cardAndQualities c
  | .deck d => .deck d :: (w.deck d).cards.flatMap w.cardAndQualities

/-! ## Names and the subscriptions they stand for -/

/-- A subscription ends if that is what an object is. -/
def dropSubscription (o : Option Object) (w : World) : World :=
  match o with
  | some (.subscription l) => w.unsubscribeFrom (w.listener l).emitter (w.listener l).number
  | _ => w

/-- **A name gets another object**, and the subscription that it stood for ends. -/
def replace (name : String) (o : Object) (w : World) : World :=
  (w.put name o).dropSubscription (w.find? name)

/-- **A name is forgotten**, and the subscription that it stood for ends. -/
def forget (name : String) (w : World) : World :=
  (w.erase name).dropSubscription (w.find? name)

/-- A batch closes if that is what an object is. -/
def finish (react : Reaction) (o : Option Object) (w : World) : World :=
  match o with
  | some (.handle (.batch s)) => w.holding [.state s] (leaveBatch react s)
  | _ => w

lemma giveUp_eq (react : Reaction) (o : Object) (w : World) :
    w.giveUp react o = (w.dropSubscription (some o)).finish react (some o) := by
  rcases o with (s | e | q | c | d | b | s) | s | e | l <;> rfl

/-- **To store an object** is to give the name another object, and to close the batch that it may
have stood for. -/
lemma keep_eq (react : Reaction) (name : String) (o : Object) (w : World) :
    w.keep react name o = (w.replace name o).finish react (w.find? name) := by
  rw [keep, replace]
  rcases w.find? name with _ | old
  · rfl
  · exact giveUp_eq react old _

lemma discard_eq (react : Reaction) {name : String} {o : Object} {w : World}
    (found : w.find? name = some o) :
    w.discard react name o = (w.forget name).finish react (some o) := by
  rw [discard, forget, found]
  exact giveUp_eq react o _

/-! ## What may be held on to -/

/-- What may be held on to: anything alive, the quality set of a card that is alive, and whatever is
no node at all. -/
def Offers (w : World) (h : Handle) : Prop :=
  h.node? = none ∨ w.Alive h ∨ ∃ c, w.Alive (.card c) ∧ h = .set (w.card c).qualities

/-- What a name may stand for without further ado: anything but a subscription, which has one name
only. -/
def OffersObject (w : World) : Object → Prop
  | .handle h => w.Offers h
  | .subscription _ => False
  | _ => True

lemma offers_of_alive {w : World} {h : Handle} (alive : w.Alive h) : w.Offers h :=
  .inr (.inl alive)

lemma offers_of_held {w : World} {h : Handle} (mem : h ∈ w.held) : w.Offers h :=
  offers_of_alive (alive_of_held mem)

end World

/-! ## Transactions -/

open World in
/-- **A transaction**: what the engine does in one go, with the nodes that are disposed of in it. -/
inductive Transaction (licence : Licence) (w : World) : List NodeId → World → Prop
  | still {v : World} (still : w.Still v) : Transaction licence w [] v
  -- names and holds
  | hold (held : List Handle) (offered : ∀ h ∈ held, w.Offers h) :
      Transaction licence w [] { w with held }
  | store (name : String) (o : Object) (offered : w.OffersObject o) (held : List Handle)
      (kept : held ⊆ w.held) : Transaction licence w [] { w.replace name o with held }
  | forget (name : String) : Transaction licence w [] (w.forget name)
  | subscribe (emitter : Emitter) (name : String) (program : List Step) (times : Nat)
      (alive : w.Alive emitter.handle) :
      Transaction licence w []
        ((w.newListener emitter name program times).1.replace name
          (.subscription ⟨w.listeners.size⟩))
  | clearListeners (emitter : Emitter) (clears : licence.clears w emitter) :
      Transaction licence w [] (w.clearListeners emitter)
  -- new nodes, which are held on to
  | newExpr (cond : String) (state : Option StateId) :
      Transaction licence w [] ((w.newExpr cond state).1.hold [.expr (w.newExpr cond state).2])
  | newSet (conds : List String) (state : Option StateId) :
      Transaction licence w [] ((w.newSet conds state).1.hold [.set (w.newSet conds state).2])
  | newCard (hash : CardHash) (content : String) (conds : List String) (state : Option StateId) :
      Transaction licence w [] ((w.newCard hash content conds state).1.hold
        [.card (w.newCard hash content conds state).2])
  | newDeck (config : DeckConfig) (cards : List CardId) (state : Option StateId)
      (alive : ∀ c ∈ cards, w.Alive (.card c)) :
      Transaction licence w [] ((w.newDeck config cards state).1.hold
        [.deck (w.newDeck config cards state).2])
  -- nodes of any kind
  | bind (n : NodeId) (s : StateId) (alive : w.Alive n.handle) :
      Transaction licence w [] (w.bindNode n s).1
  | unbind (n : NodeId) (alive : w.Alive n.handle) : Transaction licence w [] (w.unbindNode n)
  | dispose (n : NodeId) (alive : w.Alive n.handle) (disposes : licence.disposes w n) :
      Transaction licence w (w.disposedWith n) (w.disposeNode n)
  -- quality sets and cards
  | insertQuality (q : SetId) (cond : String) : Transaction licence w [] (w.insertQuality q cond).1
  | dropMember (q : SetId) (m : Member) (mem : m ∈ (w.set q).members) :
      Transaction licence w [.expr m.expr] (w.dropMember q m)
  | replaceQualities (c : CardId) (conds : List String) (alive : w.Alive (.card c))
      (usable : (w.card c).disposed = false) :
      Transaction licence w (w.setAndMembers (w.card c).qualities) (w.replaceQualities c conds).1
  | editCard (c : CardId) (f : CardNode → CardNode) (alive : w.Alive (.card c))
      (same : ∀ n, (f n).ties = n.ties) : Transaction licence w [] (w.onCard c f)
  -- decks
  | replaceCards (d : DeckId) (cards : List CardId) (alive : ∀ c ∈ cards, w.Alive (.card c)) :
      Transaction licence w [] (w.replaceCards d cards)
  | insertCard (d : DeckId) (c : CardId) (alive : w.Alive (.card c)) :
      Transaction licence w [] (w.insertCard d c).1
  | takeCard (d : DeckId) (c : CardId) (gone kept : List Entry)
      (parts : (w.deck d).entries.partition (·.card == c) = (gone, kept)) :
      Transaction licence w [] (w.takeCard d c gone kept)
  | replaceCard (d : DeckId) (c : CardId) (index : Nat) (old : Entry) (alive : w.Alive (.card c))
      (found : (w.deck d).entries[index]? = some old) :
      Transaction licence w [] (w.replaceCard d c index old).1
  | reorder (d : DeckId) : Transaction licence w [] (w.reorder d)

/-- **A property that every transaction keeps.** -/
def Upheld (licence : Licence) (Holds : World → Prop) : Prop :=
  ∀ {w v : World} {gone : List NodeId}, Holds w → Transaction licence w gone v → Holds v

end StoryEngine
