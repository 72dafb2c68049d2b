import StoryEngine.Proofs.DeckEdits
import StoryEngine.Proofs.Vacant

/-!
# What is out of use keeps to itself

A quality set or a deck that is out of use has nothing to work on and nobody to notify.  Whatever is
asked of it, no other node is bound or released or listened to, and nobody is called.  There is one
act that is different: a deck that is given cards has them, and then works on them.

* `Act.subject?` — the name under which an act asks something of a quality set or a deck.
* `World.Confined` — nothing has changed but one quality set or one deck.
* `World.KeepsTo` — an operation of which nothing else comes, whatever listeners do.
* `World.keepsTo_performAct` — all acts on what is out of use, but to give cards to a deck.
* **`World.confined_set_of_passes`** — in every run, quality sets that have been disposed of are
  empty and keep to themselves.
* **`World.confined_deck_of_passes`** — and so are decks, in every run in which they are not given
  cards any more.
* **`World.setCards_of_retired`** — what comes of it if they are.
* `World.calls_editDeck_of_disposed` — even then, nobody is called when their cards are edited.
-/

namespace StoryEngine

/-! ## What acts are asked of -/

/-- The name of the node that an act works on. -/
def NodeAct.subject : NodeAct → String
  | .kind name | .bind name _ | .unbind name | .invalidate name | .notify name | .dispose name
  | .isBound name | .isDisposed name | .cacheState name | .result name | .check name _ => name

/-- The name of the quality set that an act works on, unless it makes one. -/
def SetAct.subject? : SetAct → Option String
  | .create .. => none
  | .add name _ | .remove name _ | .has name _ | .member name _ _ => some name

/-- The name of the deck that an act works on, unless it makes one. -/
def DeckAct.subject? : DeckAct → Option String
  | .create .. => none
  | .cards name | .setCards name _ | .state name | .setState name _ | .getCard name _ _
  | .addCard name _ | .updateCard name _ | .removeCard name _ | .isCardAvailable name _
  | .shuffle name | .available name | .availableIn name _ | .draw name | .drawIn name _ => some name

/-- The name of the object that an act looks at or clears, whatever it is. -/
def HandleAct.subject? : HandleAct → Option String
  | .describe name | .observe name | .listenerCount name | .clearListeners name | .size name =>
    some name
  | _ => none

/-- **The name under which an act asks something** of a node such as this one, a quality set or a
deck. -/
def Act.subject? : NodeId → Act → Option String
  | _, .node act => some act.subject
  | _, .handle act => act.subject?
  | .set _, .set act => act.subject?
  | .deck _, .deck act => act.subject?
  | _, _ => none

lemma NodeId.node?_handle (n : NodeId) : n.handle.node? = some n :=
  Handle.node?_eq_some.2 rfl

lemma NodeId.emitter?_handle (n : NodeId) : n.handle.emitter? = some n.emitter := by
  cases n <;> rfl

namespace World

variable {w v u : World} {n : NodeId} {q : SetId} {d : DeckId} {name : String}

/-! ## Confined to one node -/

/-- **Nothing has changed but one quality set or one deck**, and nobody was called. -/
structure Confined (n : NodeId) (w v : World) : Prop where
  stores : v.stores = w.stores
  exprs : v.exprs = w.exprs
  sets : ∀ q, n ≠ .set q → v.set q = w.set q
  cards : v.cards = w.cards
  decks : ∀ d, n ≠ .deck d → v.deck d = w.deck d
  boards : v.boards = w.boards
  names : v.names = w.names
  held : v.held = w.held
  calls : v.calls = w.calls

namespace Confined

lemma refl (w : World) : w.Confined n w :=
  ⟨rfl, rfl, fun _ _ => rfl, rfl, fun _ _ => rfl, rfl, rfl, rfl, rfl⟩

lemma trans (h : w.Confined n v) (h' : v.Confined n u) : w.Confined n u where
  stores := h'.stores.trans h.stores
  exprs := h'.exprs.trans h.exprs
  sets q other := (h'.sets q other).trans (h.sets q other)
  cards := h'.cards.trans h.cards
  decks d other := (h'.decks d other).trans (h.decks d other)
  boards := h'.boards.trans h.boards
  names := h'.names.trans h.names
  held := h'.held.trans h.held
  calls := h'.calls.trans h.calls

lemma note (remark : Note) (w : World) : w.Confined n (w.note remark) :=
  { refl w with calls := calls_record rfl w }

lemma onSet (q : SetId) (f : SetNode → SetNode) (w : World) : w.Confined (.set q) (w.onSet q f) :=
  { refl w with
    sets := fun other ne => by
      rw [set_onSet, if_neg fun here => ne (congrArg NodeId.set here)] }

lemma onDeck (d : DeckId) (f : DeckNode → DeckNode) (w : World) :
    w.Confined (.deck d) (w.onDeck d f) :=
  { refl w with
    decks := fun other ne => by
      rw [deck_onDeck, if_neg fun here => ne (congrArg NodeId.deck here)] }

/-- What is held on to meanwhile does not matter. -/
lemma unhold {handles : List Handle} (h : (w.hold handles).Confined n v) :
    w.Confined n { v with held := w.held } :=
  ⟨h.stores, h.exprs, h.sets, h.cards, h.decks, h.boards, h.names, rfl, h.calls⟩

end Confined

/-! ## What is out of use -/

/-- A deck that is not bound notifies nobody. -/
lemma pushDeck_of_unbound (unbound : (w.deck d).binding = none) (react : Reaction)
    (cause : Option Nat) : w.pushDeck react d cause = w :=
  if_pos (by rw [unbound]; exact Bool.or_true _)

namespace Retired

lemma hold (h : w.Retired n) (handles : List Handle) : (w.hold handles).Retired n := by
  cases h with
  | set disposed empty unbound => exact .set disposed empty unbound
  | deck disposed empty unbound => exact .deck disposed empty unbound

/-- **It has nothing.** -/
lemma sizeOf? (h : w.Retired n) : w.sizeOf? n.handle = some 0 := by
  cases h with
  | set _ empty => exact congrArg some (by rw [members, empty]; rfl)
  | deck _ empty => exact congrArg (fun entries => some (List.length entries)) empty

/-- It is not bound again. -/
lemma bindNode (h : w.Retired n) (s : StateId) :
    w.bindNode n s = (w, .error (.disposed n.kind)) := by
  cases h with
  | set disposed => exact if_pos disposed
  | deck disposed => exact if_pos disposed

/-- It notifies nobody. -/
lemma pushNode (h : w.Retired n) (react : Reaction) (cause : Option Nat) :
    w.pushNode react n cause = w := by
  cases h with
  | set _ _ unbound => exact if_pos (by rw [unbound]; exact Bool.or_true _)
  | deck _ _ unbound => exact pushDeck_of_unbound unbound react cause

lemma unbindDeck (h : w.Retired (.deck d)) : w.unbindDeck d = w := by
  cases h with
  | deck _ empty unbound => simp [World.unbindDeck, unbound, DeckNode.cards, empty]

/-- To release it does nothing to others. -/
lemma unbindNode (h : w.Retired n) : w.Confined n (w.unbindNode n) := by
  cases id h with
  | @set q _ empty unbound =>
      have memberless : (w.onSet q fun n => { n with binding := none }).members q = [] := by
        rw [members, set_onSet, if_pos rfl, empty]
        rfl
      have released : w.unbindSet q =
          (w.onSet q fun n => { n with binding := none }).onSet q fun n =>
            { n with cache := .unbound } := by
        rw [unbindSet, unbound, release, memberless]
        rfl
      rw [World.unbindNode, released]
      exact (Confined.onSet q _ w).trans (.onSet q _ _)
  | deck =>
      rw [World.unbindNode, h.unbindDeck]
      exact .refl w

/-- Nor does it to have it forget results. -/
lemma invalidateNode (h : w.Retired n) : w.Confined n (w.invalidateNode n) := by
  cases h with
  | set => exact .onSet _ _ w
  | deck _ empty =>
      rw [World.invalidateNode, invalidateDeck, DeckNode.cards, empty]
      exact .refl w

/-- Nor does it to dispose of it again. -/
lemma disposeNode (h : w.Retired n) : w.Confined n (w.disposeNode n) := by
  cases id h with
  | @set q _ empty =>
      have memberless : ((w.unbindSet q).set q).members = [] := by
        rw [(bindingsOnly_unbindSet q w).set q]
        exact empty
      rw [World.disposeNode, disposeSet_eq, memberless]
      exact (h.unbindNode.trans (.onSet q _ _)).trans (.onSet q _ _)
  | @deck d _ empty =>
      rw [World.disposeNode, disposeDeck, h.unbindDeck, empty]
      exact ((Confined.onDeck d _ w).trans (.onDeck d _ _)).trans (.note _ _)

/-- It refuses conditions. -/
lemma addQuality (h : w.Retired (.set q)) (react : Reaction) (cond : String) :
    w.addQuality react q cond = (w, .error (.disposed .qualitySet)) := by
  cases h with
  | set disposed => exact if_pos disposed

lemma removeQuality (h : w.Retired (.set q)) (react : Reaction) (cond : String) :
    w.removeQuality react q cond = (w, false) := by
  cases h with
  | set _ empty => rw [World.removeQuality, memberWith?, empty]; rfl

lemma setResult (h : w.Retired (.set q)) : w.setResult q = (w, .error (.unbound .qualitySet)) := by
  cases h with
  | set _ _ unbound => rw [World.setResult, setState, unbound]; rfl

lemma setCheck (h : w.Retired (.set q)) (s : StateId) : w.setCheck q s = (w, true) := by
  cases h with
  | set _ empty => rw [World.setCheck, members, empty]; rfl

lemma entries (h : w.Retired (.deck d)) : (w.deck d).entries = [] := by
  cases h with
  | deck _ empty => exact empty

lemma unbound (h : w.Retired (.deck d)) : (w.deck d).binding = none := by
  cases h with
  | deck _ _ unbound => exact unbound

lemma cards (h : w.Retired (.deck d)) : (w.deck d).cards = [] := by
  rw [DeckNode.cards, h.entries]
  rfl

lemma deckState (h : w.Retired (.deck d)) : w.deckState d = .error (.unbound .deck) := by
  rw [World.deckState, h.unbound]
  rfl

/-- It refuses cards. -/
lemma addCard (h : w.Retired (.deck d)) (react : Reaction) (c : CardId) :
    w.addCard react d c = (w, .error (.disposed .deck)) := by
  cases h with
  | deck disposed => exact if_pos disposed

lemma updateCard (h : w.Retired (.deck d)) (react : Reaction) (c : CardId) :
    w.updateCard react d c = (w, .error (.disposed .deck)) := by
  cases h with
  | deck disposed => exact if_pos disposed

lemma removeCard (h : w.Retired (.deck d)) (react : Reaction) (c : CardId) :
    w.removeCard react d c = (w, false) := by
  rw [World.removeCard, h.entries]
  rfl

lemma rebindDeck (h : w.Retired (.deck d)) (react : Reaction) (s : StateId) :
    w.rebindDeck react d s = (w, .error (.disposed .deck)) := by
  have refused : w.bindDeck d s = (w, .error (.disposed .deck)) := h.bindNode s
  rw [World.rebindDeck, refused]

/-- **To give it cards** is to listen to them. -/
lemma replaceCards (h : w.Retired (.deck d)) (cards : List CardId) :
    w.replaceCards d cards =
      let entered := (w.onDeck d fun n => { n with entries := [] }).enterCards d cards
      (entered.1.note (.cardsReplaced entered.2.length)).onDeck d fun n =>
        { n with entries := entered.2 } := by
  have cleared : w.clearCards d = w.onDeck d fun n => { n with entries := [] } := by
    rw [clearCards, h.entries]
    rfl
  have nowhere := (deckState_cleared d cards w).trans h.deckState
  rw [World.replaceCards]
  dsimp only
  rw [bindCardsWhere, nowhere, cleared]

/-- Nobody is called. -/
lemma setCards (h : w.Retired (.deck d)) (react : Reaction) (cards : List CardId) :
    w.setCards react d cards = w.replaceCards d cards := by
  refine pushDeck_of_unbound ?_ react none
  rw [(replaceCards_deck d cards w).2, h.unbound]

/-- To give it no cards does nothing to others. -/
lemma replaceCards_nil (h : w.Retired (.deck d)) : w.Confined (.deck d) (w.replaceCards d []) := by
  rw [h.replaceCards]
  exact ((Confined.onDeck d _ w).trans (.note _ _)).trans (.onDeck d _ _)

lemma shuffle (h : w.Retired (.deck d)) (react : Reaction) : w.shuffle react d = w.reorder d := by
  refine pushDeck_of_unbound ?_ react none
  rw [reorder, deck_onDeck, if_pos rfl]
  exact h.unbound

lemma availableCards (h : w.Retired (.deck d)) :
    w.availableCards d = (w, .error (.unbound .deck)) := by
  rw [World.availableCards, h.deckState]

lemma availableIn (h : w.Retired (.deck d)) (s : StateId) : w.availableIn d s = (w, []) := by
  rw [World.availableIn, h.cards]
  rfl

lemma draw (h : w.Retired (.deck d)) : w.draw d = (w, .error (.unbound .deck)) := by
  rw [World.draw, h.availableCards]

lemma drawIn (h : w.Retired (.deck d)) (s : StateId) : w.Confined (.deck d) (w.drawIn d s).1 := by
  rw [World.drawIn, h.availableIn]
  exact .onDeck d _ w

lemma isCardAvailable (h : w.Retired (.deck d)) (c : CardId) :
    w.isCardAvailable d c = (w, .error (.unbound .deck)) := by
  rw [World.isCardAvailable, h.deckState]

end Retired

/-! ## Operations that keep to one node -/

section
variable {α β : Type}

/-- **An operation that keeps to one node**: one thing comes of it, however listeners react, and
nothing but the node has changed. -/
def KeepsTo (n : NodeId) (op : Reaction → World × α) (w : World) : Prop :=
  ∃ v a, (∀ react, op react = (v, a)) ∧ w.Confined n v

namespace KeepsTo

lemma change (confined : w.Confined n v) (a : α) : KeepsTo n (fun _ => (v, a)) w :=
  ⟨v, a, fun _ => rfl, confined⟩

lemma leave (a : α) : KeepsTo n (fun _ => (w, a)) w :=
  .change (.refl w) a

/-- What leaves the world as it is. -/
lemma of_left {op : Reaction → World × α} {a : α} (left : ∀ react, op react = (w, a)) :
    KeepsTo n op w :=
  ⟨w, a, left, .refl w⟩

lemma map {op : Reaction → World × α} (keeps : KeepsTo n op w) (f : α → β) :
    KeepsTo n (fun react => (op react).map id f) w := by
  obtain ⟨v, a, same, confined⟩ := keeps
  exact ⟨v, f a, fun react => congrArg (Prod.map id f) (same react), confined⟩

lemma holdingFor {handles : List Handle} {op : Reaction → World → World × α}
    (keeps : KeepsTo n (fun react => op react (w.hold handles)) (w.hold handles)) :
    KeepsTo n (fun react => w.holdingFor handles (op react)) w := by
  obtain ⟨v, a, same, confined⟩ := keeps
  refine ⟨{ v with held := w.held }, a, fun react => ?_, confined.unhold⟩
  dsimp only [World.holdingFor] at same ⊢
  rw [same react]

end KeepsTo

end

/-! ## Names -/

/-- **A name stands for what is out of use.** -/
structure Shelved (w : World) (name : String) (n : NodeId) : Prop where
  named : w.find? name = some (.handle n.handle)
  retired : w.Retired n

lemma Shelved.hold (h : w.Shelved name n) (handles : List Handle) :
    (w.hold handles).Shelved name n :=
  ⟨h.named, h.retired.hold handles⟩

section
variable {α : Type} {select : Handle → Option α} {k : Reaction → α → Doing}

/-- Looking up what is out of use. -/
lemma KeepsTo.withSubject (shelved : w.Shelved name n) {a : α} (selects : select n.handle = some a)
    (body : ∀ v : World, v.Shelved name n → KeepsTo n (fun react => k react a v) v) :
    KeepsTo n (fun react => withHandle select name (k react) w) w := by
  unfold withHandle
  rw [shelved.named]
  dsimp only
  rw [selects]
  exact .holdingFor (body _ (shelved.hold _))

/-- Looking up something else, which may not be there. -/
lemma KeepsTo.withOther (shelved : w.Shelved name n) {other : String}
    (body : ∀ (a : α) (v : World), v.Shelved name n → KeepsTo n (fun react => k react a v) v) :
    KeepsTo n (fun react => withHandle select other (k react) w) w := by
  unfold withHandle
  split
  next h _ =>
    split
    next a _ => exact .holdingFor (body a _ (shelved.hold _))
    next => exact .leave _
  next => exact .leave _

/-- Looking up cards, when there are none. -/
lemma KeepsTo.withNoCards {cards : List String} {k : Reaction → List CardId → Doing}
    (spares : ∀ card ∈ cards, ∀ c, ¬ w.Names card Handle.card? c)
    (body : KeepsTo n (fun react => k react [] w) w) :
    KeepsTo n (fun react => withCards cards (k react) w) w := by
  cases cards with
  | nil => exact body
  | cons card cards =>
      simp only [withCards, withCard, withHandle]
      split
      next h found =>
        split
        next c selected => exact absurd ⟨h, found, selected⟩ (spares card List.mem_cons_self c)
        next => exact .leave _
      next => exact .leave _

/-- Looking up what is out of use, when it is not of the needed kind. -/
lemma KeepsTo.withNone (shelved : w.Shelved name n) (selects : select n.handle = none) :
    KeepsTo n (fun react => withHandle select name (k react) w) w := by
  unfold withHandle
  rw [shelved.named]
  dsimp only
  rw [selects]
  exact .leave _

end

/-! ## Acts -/

lemma keepsTo_performNode (act : NodeAct) (shelved : w.Shelved act.subject n) :
    KeepsTo n (fun react => performNode react act w) w := by
  have selects := n.node?_handle
  cases act with
  | kind name => exact .withSubject shelved selects fun v _ => .leave _
  | bind name state =>
      refine .withSubject shelved selects fun v shelved => .withOther shelved fun s v shelved => ?_
      exact KeepsTo.map (.of_left fun _ => shelved.retired.bindNode s) _
  | unbind name =>
      exact .withSubject shelved selects fun v shelved => .change shelved.retired.unbindNode _
  | invalidate name =>
      exact .withSubject shelved selects fun v shelved => .change shelved.retired.invalidateNode _
  | notify name =>
      refine .withSubject shelved selects fun v shelved => .of_left (a := .null) fun react => ?_
      rw [shelved.retired.pushNode]
  | dispose name =>
      exact .withSubject shelved selects fun v shelved => .change shelved.retired.disposeNode _
  | isBound name => exact .withSubject shelved selects fun v _ => .leave _
  | isDisposed name => exact .withSubject shelved selects fun v _ => .leave _
  | cacheState name =>
      cases shelved.retired with
      | set => exact .withSubject shelved rfl fun v _ => .leave _
      | deck => exact .withNone shelved rfl
  | result name =>
      cases shelved.retired with
      | set =>
          refine .withSubject shelved rfl fun v shelved => ?_
          exact KeepsTo.map (.of_left fun _ => shelved.retired.setResult) _
      | deck => exact .withNone shelved rfl
  | check name state =>
      refine .withOther shelved fun s v shelved => ?_
      cases shelved.retired with
      | set =>
          refine .withSubject shelved rfl fun v shelved => ?_
          exact KeepsTo.map (.of_left fun _ => shelved.retired.setCheck s) _
      | deck => exact .withNone shelved rfl

lemma keepsTo_performSet {act : SetAct} (asked : act.subject? = some name)
    (shelved : w.Shelved name (.set q)) :
    KeepsTo (.set q) (fun react => performSet react act w) w := by
  cases act with
  | create => cases asked
  | add _ cond =>
      cases asked
      refine .withSubject shelved rfl fun v shelved => ?_
      exact KeepsTo.map (.of_left fun react => shelved.retired.addQuality react cond) _
  | remove _ cond =>
      cases asked
      refine .withSubject shelved rfl fun v shelved => ?_
      exact KeepsTo.map (.of_left fun react => shelved.retired.removeQuality react cond) _
  | has _ cond =>
      cases asked
      exact .withSubject shelved rfl fun v _ => .leave _
  | member _ index as =>
      cases asked
      refine .withSubject shelved rfl fun v shelved => .of_left (a := .none) fun react => ?_
      cases shelved.retired with
      | set _ empty => rw [members, empty]; rfl

/-- A deck that is out of use is asked something, but not given cards. -/
lemma keepsTo_performDeck {act : DeckAct} (asked : act.subject? = some name)
    (permitted : Rule.retiring.permits (.act (.deck act)) w) (shelved : w.Shelved name (.deck d)) :
    KeepsTo (.deck d) (fun react => performDeck react act w) w := by
  cases act with
  | create => cases asked
  | cards =>
      cases asked
      exact .withSubject shelved rfl fun v _ => .leave _
  | setCards _ cards =>
      cases asked
      have named : w.Names name Handle.deck? d := ⟨.deck d, shelved.named, rfl⟩
      have spares := Rule.retiring_permits_iff.1 permitted name cards rfl d named
        (by cases shelved.retired; assumption)
      refine .withNoCards spares (.withSubject shelved rfl fun v shelved => ?_)
      simp only [shelved.retired.setCards]
      exact .change shelved.retired.replaceCards_nil _
  | state =>
      cases asked
      exact .withSubject shelved rfl fun v _ => .leave _
  | setState _ state =>
      cases asked
      refine .withSubject shelved rfl fun v shelved => .withOther shelved fun s v shelved => ?_
      exact KeepsTo.map (.of_left fun react => shelved.retired.rebindDeck react s) _
  | getCard _ index as =>
      cases asked
      refine .withSubject shelved rfl fun v shelved => .of_left (a := .none) fun react => ?_
      rw [shelved.retired.cards]
      rfl
  | addCard _ card =>
      cases asked
      refine .withSubject shelved rfl fun v shelved => .withOther shelved fun c v shelved => ?_
      exact KeepsTo.map (.of_left fun react => shelved.retired.addCard react c) _
  | updateCard _ card =>
      cases asked
      refine .withSubject shelved rfl fun v shelved => .withOther shelved fun c v shelved => ?_
      exact KeepsTo.map (.of_left fun react => shelved.retired.updateCard react c) _
  | removeCard _ card =>
      cases asked
      refine .withSubject shelved rfl fun v shelved => .withOther shelved fun c v shelved => ?_
      exact KeepsTo.map (.of_left fun react => shelved.retired.removeCard react c) _
  | isCardAvailable _ card =>
      cases asked
      refine .withSubject shelved rfl fun v shelved => .withOther shelved fun c v shelved => ?_
      exact KeepsTo.map (.of_left fun _ => shelved.retired.isCardAvailable c) _
  | shuffle =>
      cases asked
      refine .withSubject shelved rfl fun v shelved => ?_
      simp only [shelved.retired.shuffle]
      exact .change (.onDeck d _ v) _
  | available =>
      cases asked
      refine .withSubject shelved rfl fun v shelved => ?_
      rw [shelved.retired.availableCards]
      exact .leave _
  | availableIn _ state =>
      cases asked
      refine .withSubject shelved rfl fun v shelved => .withOther shelved fun s v shelved => ?_
      rw [shelved.retired.availableIn]
      exact .leave _
  | draw =>
      cases asked
      refine .withSubject shelved rfl fun v shelved => ?_
      rw [shelved.retired.draw]
      exact .leave _
  | drawIn _ state =>
      cases asked
      refine .withSubject shelved rfl fun v shelved => .withOther shelved fun s v shelved => ?_
      exact .change (shelved.retired.drawIn s) _

lemma confined_clearListeners (retired : w.Retired n) :
    w.Confined n (w.clearListeners n.emitter) := by
  cases retired with
  | set => exact .onSet _ _ w
  | deck => exact .onDeck _ _ w

lemma keepsTo_performHandle {act : HandleAct} (asked : act.subject? = some name)
    (shelved : w.Shelved name n) : KeepsTo n (fun react => performHandle react act w) w := by
  have selects := n.emitter?_handle
  cases act with
  | clone | drop | unsubscribe | sameObject | panic => cases asked
  | describe =>
      cases asked
      simp only [performHandle, shelved.named]
      exact .leave _
  | observe => exact .leave _
  | listenerCount =>
      cases asked
      exact KeepsTo.map (.withSubject shelved selects fun v _ => .leave _) _
  | clearListeners =>
      cases asked
      refine KeepsTo.map (.withSubject shelved selects fun v shelved => ?_) _
      exact .change (confined_clearListeners shelved.retired) _
  | size =>
      cases asked
      simp only [performHandle, sizeNamed, shelved.named, shelved.retired.sizeOf?]
      exact .leave _

/-- **What is out of use keeps to itself**, whatever is asked of it, but to take cards. -/
theorem keepsTo_performAct {act : Act} (asked : act.subject? n = some name)
    (permitted : ∀ d, n = .deck d → Rule.retiring.permits (.act act) w)
    (shelved : w.Shelved name n) : KeepsTo n (fun react => performAct react act w) w := by
  cases act with
  | handle act => exact keepsTo_performHandle asked shelved
  | node act =>
      cases asked
      exact (keepsTo_performNode act shelved).map _
  | set act =>
      cases shelved.retired with
      | set => exact (keepsTo_performSet asked shelved).map _
      | deck => cases asked
  | deck act =>
      cases shelved.retired with
      | set => cases asked
      | @deck d => exact (keepsTo_performDeck asked (permitted d rfl) shelved).map _
  | state | board | plain | expr | card => cases shelved.retired <;> cases asked

/-- Who subscribes to it is registered nowhere else. -/
lemma confined_newListener (retired : w.Retired n) (label : String) (program : List Step)
    (times : Nat) : w.Confined n (w.newListener n.emitter label program times).1 := by
  cases retired with
  | set => exact { Confined.onSet _ _ w with }
  | deck => exact { Confined.onDeck _ _ w with }

/-! ## Runs -/

section
variable {look : Supervisor} {depth : Nat} {steps : List Step}
variable (passes : Passes look depth steps w)
include passes

/-- **In every run, quality sets that have been disposed of are empty and keep to themselves.**
Whatever is asked of one, and whoever subscribes to it, all other nodes stay as they are, and nobody
is called. -/
theorem confined_set_of_passes (watches : look.Watches) (disposed : (w.set q).disposed) :
    w.sizeOf? (.set q) = some 0 ∧
      (∀ name act, w.find? name = some (.handle (.set q)) → act.subject? (.set q) = some name →
        KeepsTo (.set q) (fun react => performAct react act w) w) ∧
      ∀ label program times,
        w.Confined (.set q) (w.newListener (.set q) label program times).1 := by
  have retired := retired_set_of_passes passes watches disposed
  refine ⟨retired.sizeOf?, fun name act named asked => ?_, confined_newListener retired⟩
  exact keepsTo_performAct asked nofun ⟨named, retired⟩

/-- **In every run that keeps to the rule, decks that have been disposed of are empty and keep to
themselves**, whatever is asked of one that the rule permits. -/
theorem confined_deck_of_passes (obeys : look.Obeys Rule.retiring.permits)
    (disposed : (w.deck d).disposed) :
    w.sizeOf? (.deck d) = some 0 ∧
      (∀ name act, w.find? name = some (.handle (.deck d)) → act.subject? (.deck d) = some name →
        Rule.retiring.permits (.act act) w →
          KeepsTo (.deck d) (fun react => performAct react act w) w) ∧
      ∀ label program times,
        w.Confined (.deck d) (w.newListener (.deck d) label program times).1 := by
  have retired := retired_deck_of_passes passes obeys disposed
  refine ⟨retired.sizeOf?, fun name act named asked permitted => ?_, confined_newListener retired⟩
  exact keepsTo_performAct asked (fun _ _ => permitted) ⟨named, retired⟩

end

/-! ## Cards that are given all the same -/

/-- A deck listens to each card that enters, once more for each place. -/
lemma countP_enterCards (d : DeckId) (cards : List CardId) (c : CardId) (w : World) :
    ((w.enterCards d cards).1.card c).listeners.entries.countP (·.2 = .owner d) =
      (w.card c).listeners.entries.countP (·.2 = .owner d) + cards.count c := by
  induction cards generalizing w with
  | nil => rfl
  | cons first rest ih =>
      have entered : ((w.enterCard d first).1.card c).listeners.entries.countP (·.2 = .owner d) =
          (w.card c).listeners.entries.countP (·.2 = .owner d) + if first = c then 1 else 0 := by
        rw [enterCard, card_onCard]
        split
        next => simp [Registry.subscribe]
        next => rfl
      rw [enterCards, List.count_cons, beq_eq_decide]
      exact (ih _).trans (by rw [entered]; simp [Nat.add_assoc, Nat.add_comm])

/-- **A deck that is given cards after it has been disposed of** has them, and listens to each of
them once for each place.  Nobody is called, and the cards stay where they are bound until the deck
is released, for then they are released with it. -/
theorem setCards_of_retired (retired : w.Retired (.deck d)) (cards : List CardId) :
    ∃ v, (∀ react, w.setCards react d cards = v) ∧ v.calls = w.calls ∧
      (v.deck d).disposed ∧ (v.deck d).cards = cards ∧
      ∀ c ∈ cards,
        (v.card c).listeners.entries.countP (·.2 = .owner d) =
          (w.card c).listeners.entries.countP (·.2 = .owner d) + cards.count c ∧
        v.boundTo (.card c) = w.boundTo (.card c) ∧ (v.unbindDeck d).boundTo (.card c) = none := by
  have has := (replaceCards_deck d cards w).1
  refine ⟨w.replaceCards d cards, fun react => retired.setCards react cards,
    (callsNobody_replaceCards d cards w).calls, ?_, has, fun c mem => ⟨?_, ?_, ?_⟩⟩
  · rw [deck_replaceCards, if_pos rfl]
    cases retired with
    | deck disposed => exact disposed
  · rw [retired.replaceCards]
    exact countP_enterCards d cards c _
  · have works : Works d (fun _ => False) _ _ :=
      works_enterCards d cards (w.onDeck d fun n => { n with entries := [] })
    rw [retired.replaceCards]
    exact works.apart c id
  · rw [boundTo_card_unbindDeck, has, if_pos mem]

/-- A deck is disposed of and then given a card that is bound; after that it is released. -/
def giveAfterDisposal : List Act :=
  [.state (.create "state"), .card (.create "card" "" ["true"] (some "state") .fresh),
    .deck (.create "deck" [] none .none), .node (.dispose "deck"),
    .deck (.setCards "deck" ["card"]), .node (.unbind "deck")]

/-- The deck is not empty, and the card is bound no longer. -/
example :
    let w := runUnder .free fire (giveAfterDisposal.map .act) .empty
    (w.deck ⟨0⟩).disposed = true ∧ w.sizeOf? (.deck ⟨0⟩) = some 1 ∧
      w.boundTo (.card ⟨0⟩) = none := by
  decide +kernel

/-- **Nobody is called for edits of a deck that has been disposed of**, in any run, whatever cards
it was given. -/
theorem calls_editDeck_of_disposed {look : Supervisor} (watches : look.Watches) {depth : Nat}
    {steps : List Step} (passes : Passes look depth steps w) (disposed : (w.deck d).disposed)
    (react : Reaction) (edit : DeckEdit) : (w.editDeck react d edit).1.calls = w.calls := by
  by_cases effect : w.TakesEffect d edit
  · have reached : w.Reached := .of_passes watches passes
    have nowhere : w.deckState d = .error (.unbound .deck) :=
      congrArg (w.boundState _) (reached.unbound (n := .deck d) disposed nofun)
    have callsNobody := callsNobody_edited effect
    have after : (w.edited d edit).deckState d = .error (.unbound .deck) := by
      rw [deckState_edited effect]
      cases edit with
      | rebind s =>
          have usable : (w.deck d).disposed = false := effect
          rw [usable] at disposed
          cases disposed
      | _ => exact nowhere
    have fresh := callsNobody.fresh (Fresh.invariant.of_passes watches passes)
    have notified := OnlyCalls.pushDeck_of_error fresh after react none
    rw [editDeck_of_takesEffect effect, notified.calls, callsNobody.calls, List.append_nil]
  · rw [editDeck_of_not_takesEffect effect]

end World

end StoryEngine
