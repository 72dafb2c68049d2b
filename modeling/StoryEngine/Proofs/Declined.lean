import StoryEngine.Proofs.Conserved.Editing
import StoryEngine.Proofs.DeckBindings
import StoryEngine.Proofs.Supervision

/-!
# Operations that decline

Some operations may decline: to edit or bind what has been disposed of, to add a condition that is
there or to take away one that is not, to replace a card that nothing in the deck matches.  They
find out before they begin, and then they leave everything as it was.

* `InertWhen` — where an operation comes to such an outcome, the world is the one it began with, and
  it would have been so whatever listeners do: none was called.
* `InertWhen.withHandle`, `InertWhen.map` — what an act adds around an operation changes nothing
  about that.
* `inertWhen_addQuality` and its like — one lemma for each operation.
* **`performAct_declined`** — all acts that may decline, in any world.

Two operations do something before they ask a node that could refuse.  A card gets a new quality set
and binds it; a deck takes in a replacement and binds it.  Neither can be refused any more: the set
is new (`replaceQualities_ok`), and what is done to the deck's cards in between disposes of none of
them (`replaceCard_ok`).
-/

namespace StoryEngine

/-- **The acts that may decline**: to bind a node, and to edit quality sets, cards and decks where
the edit depends on what is there. -/
inductive Act.Declinable : Act → Prop where
  | bind (name state : String) : Declinable (.node (.bind name state))
  | add (name cond : String) : Declinable (.set (.add name cond))
  | remove (name cond : String) : Declinable (.set (.remove name cond))
  | setQualities (name : String) (conds : List String) :
      Declinable (.card (.setQualities name conds))
  | addQuality (name cond : String) : Declinable (.card (.addQuality name cond))
  | removeQuality (name cond : String) : Declinable (.card (.removeQuality name cond))
  | setState (name state : String) : Declinable (.deck (.setState name state))
  | addCard (name card : String) : Declinable (.deck (.addCard name card))
  | updateCard (name card : String) : Declinable (.deck (.updateCard name card))
  | removeCard (name card : String) : Declinable (.deck (.removeCard name card))

/-- An answer that declines: no, or a fault. -/
def Answer.Declines : Answer → Prop
  | .flag b => b = false
  | .fault _ => True
  | _ => False

namespace World

variable {α β : Type} {w : World}

/-- **Where an operation comes to one of these outcomes it has done nothing**: the world is as it
was, and the same comes of it however listeners react. -/
def InertWhen (declined : α → Prop) (op : Reaction → World × α) (w : World) : Prop :=
  ∀ react, declined (op react).2 → ∀ other, op other = (w, (op react).2)

/-! ## Around an operation -/

section
variable {declined : α → Prop}

/-- What has nothing to do with listeners and leaves the world alone. -/
lemma InertWhen.leave (a : α) : InertWhen declined (fun _ => (w, a)) w :=
  fun _ _ _ => rfl

lemma InertWhen.map {op : Reaction → World × α} (inert : InertWhen declined op w)
    {refused : β → Prop} {answer : α → β} (only : ∀ a, refused (answer a) → declined a) :
    InertWhen refused (fun react => (op react).map id answer) w := by
  intro react refuses other
  dsimp only
  rw [inert react (only _ refuses) other]
  rfl

lemma InertWhen.holdingFor {handles : List Handle} {op : Reaction → World → World × α}
    (inert : InertWhen declined (fun react => op react (w.hold handles)) (w.hold handles)) :
    InertWhen declined (fun react => w.holdingFor handles (op react)) w := by
  intro react refuses other
  have same := inert react refuses other
  dsimp only at same
  dsimp only [World.holdingFor]
  rw [same]
  rfl

end

/-- To look up what an act works on, and not to find it, is nothing. -/
lemma InertWhen.withHandle {declined : Answer → Prop} {select : Handle → Option α} {name : String}
    {k : Reaction → α → Doing} (inert : ∀ a w, InertWhen declined (fun react => k react a w) w) :
    InertWhen declined (fun react => withHandle select name (k react) w) w := by
  unfold World.withHandle
  split
  next h _ =>
    split
    next a _ => exact .holdingFor (inert a _)
    next => exact .leave _
  next => exact .leave _

/-! ## Binding -/

/-- **To bind a node calls nobody**, and a node that refuses is left as it is. -/
lemma inertWhen_bindNode (n : NodeId) (s : StateId) :
    InertWhen (· ≠ .ok ()) (fun _ => w.bindNode n s) w := by
  intro _ refused _
  cases n <;>
  · simp only [bindNode, bindExpr, bindSet, bindCard, bindDeck] at refused ⊢
    split at refused
    next disposed => simp only [if_pos disposed]
    next => exact absurd rfl refused

lemma inertWhen_rebindDeck (d : DeckId) (s : StateId) :
    InertWhen (· ≠ .ok ()) (fun react => w.rebindDeck react d s) w := by
  intro react refused other
  unfold rebindDeck bindDeck at refused ⊢
  by_cases disposed : (w.deck d).disposed
  · simp only [if_pos disposed]
  · simp [disposed] at refused

/-! ## Quality sets -/

/-- A condition that a set has already is not added to it. -/
lemma insertQuality_eq_false {q : SetId} {cond : String} {v : World}
    (inserted : w.insertQuality q cond = (v, false)) : v = w := by
  unfold insertQuality at inserted
  split at inserted
  next => exact (Prod.mk.inj inserted).1.symm
  next => cases (Prod.mk.inj inserted).2

lemma inertWhen_addQuality (q : SetId) (cond : String) :
    InertWhen (· ≠ .ok true) (fun react => w.addQuality react q cond) w := by
  intro react refused other
  unfold addQuality at refused ⊢
  split
  next => rfl
  next usable =>
    rcases inserted : w.insertQuality q cond with ⟨v, _ | _⟩
    · obtain rfl := insertQuality_eq_false inserted
      rfl
    · simp [usable, inserted] at refused

lemma inertWhen_removeQuality (q : SetId) (cond : String) :
    InertWhen (· = false) (fun react => w.removeQuality react q cond) w := by
  intro react refused other
  unfold removeQuality at refused ⊢
  cases found : w.memberWith? q cond with
  | none => rfl
  | some m => simp [found] at refused

/-! ## Cards -/

lemma bindSetWhere_ok {q : SetId} (usable : (w.set q).disposed = false) (c : CardId) :
    (w.bindSetWhere c q).2 = .ok () := by
  unfold bindSetWhere
  split
  next => simp [bindSet, usable]
  next => rfl

/-- **The new quality set of a card can always be bound**, for it has not been disposed of. -/
lemma replaceQualities_ok (c : CardId) (conds : List String) (w : World) :
    (w.replaceQualities c conds).2 = .ok () := by
  obtain ⟨-, -, usable⟩ := newSet_spares conds w
  have binds := bindSetWhere_ok usable c
  unfold replaceQualities
  dsimp only
  split
  next fault refused => cases binds.symm.trans (congrArg Prod.snd refused)
  next => rfl

lemma inertWhen_setQualities (c : CardId) (conds : List String) :
    InertWhen (· ≠ .ok ()) (fun react => w.setQualities react c conds) w := by
  intro react refused other
  have replaces := replaceQualities_ok c conds w
  unfold setQualities at refused ⊢
  split
  next => rfl
  next usable =>
    rcases done : w.replaceQualities c conds with ⟨v, fault | _⟩
    · rw [done] at replaces
      cases replaces
    · simp [usable, done] at refused

lemma inertWhen_addCardQuality (c : CardId) (cond : String) :
    InertWhen (· ≠ .ok true) (fun react => w.addCardQuality react c cond) w := by
  unfold addCardQuality
  split
  next => exact .leave _
  next => exact .holdingFor (inertWhen_addQuality _ cond)

lemma inertWhen_removeCardQuality (c : CardId) (cond : String) :
    InertWhen (· ≠ .ok true) (fun react => w.removeCardQuality react c cond) w := by
  unfold removeCardQuality
  split
  next => exact .leave _
  next =>
    refine .holdingFor ((inertWhen_removeQuality _ cond).map ?_)
    rintro (_ | _) refused
    · rfl
    · exact absurd rfl refused

/-! ## Decks -/

/-- A card that has not been disposed of goes where a deck is bound. -/
lemma bindWhere_ok {c : CardId} (usable : (w.card c).disposed = false) (d : DeckId) :
    (w.bindWhere d c).2 = .ok () := by
  unfold bindWhere
  split
  next => simp [bindCard, usable]
  next => rfl

lemma insertCard_ok {c : CardId} (usable : (w.card c).disposed = false) (d : DeckId) :
    (w.insertCard d c).2 = .ok () := by
  have binds := bindWhere_ok usable d
  unfold insertCard
  split
  next fault refused => cases binds.symm.trans (congrArg Prod.snd refused)
  next => rfl

/-- **A replacement can always be bound**: what is done to the deck and to the card that makes way
disposes of nothing. -/
lemma replaceCard_ok {c : CardId} (usable : (w.card c).disposed = false) (d : DeckId) (index : Nat)
    (old : Entry) : (w.replaceCard d c index old).2 = .ok () := by
  have displaces : Works d (fun _ => True) w (w.displaced d c index old) :=
    works_displaced trivial index
  rw [replaceCard_eq]
  exact bindWhere_ok ((displaces.card c).trans usable) d

lemma inertWhen_addCard (d : DeckId) (c : CardId) :
    InertWhen (· ≠ .ok ()) (fun react => w.addCard react d c) w := by
  intro react refused other
  unfold addCard at refused ⊢
  by_cases deckDisposed : (w.deck d).disposed
  · simp only [if_pos deckDisposed]
  by_cases disposed : (w.card c).disposed
  · simp only [if_neg deckDisposed, if_pos disposed]
  · have inserts := insertCard_ok (by simpa using disposed) d
    rcases done : w.insertCard d c with ⟨v, fault | _⟩
    · rw [done] at inserts
      cases inserts
    · simp [deckDisposed, disposed, done] at refused

lemma inertWhen_updateCard (d : DeckId) (c : CardId) :
    InertWhen (· ≠ .ok true) (fun react => w.updateCard react d c) w := by
  intro react refused other
  unfold updateCard at refused ⊢
  by_cases deckDisposed : (w.deck d).disposed
  · simp only [if_pos deckDisposed]
  by_cases disposed : (w.card c).disposed
  · simp only [if_neg deckDisposed, if_pos disposed]
  · simp only [if_neg deckDisposed, if_neg disposed] at refused ⊢
    rcases found : w.placeOf? d (w.card c).hash with _ | ⟨index, old⟩
    · rfl
    · have replaces := replaceCard_ok (by simpa using disposed) d index old
      rcases done : w.replaceCard d c index old with ⟨v, fault | _⟩
      · rw [done] at replaces
        cases replaces
      · simp [found, done] at refused

lemma inertWhen_removeCard (d : DeckId) (c : CardId) :
    InertWhen (· = false) (fun react => w.removeCard react d c) w := by
  intro react refused other
  unfold removeCard at refused ⊢
  dsimp only at refused ⊢
  split
  next => rfl
  next there =>
    rw [if_neg there] at refused
    cases refused

/-! ## Acts -/

lemma ne_ok_of_declines {answer : Except NodeFault Unit}
    (declines : (Answer.ofExcept (fun _ => .null) answer).Declines) : answer ≠ .ok () := by
  rintro rfl
  exact declines

lemma ne_true_of_declines {answer : Except NodeFault Bool}
    (declines : (Answer.ofExcept .flag answer).Declines) : answer ≠ .ok true := by
  rintro rfl
  cases declines

/-- **Every act that may decline does nothing where it does.** -/
lemma inertWhen_performAct {act : Act} (declinable : act.Declinable) :
    InertWhen (fun outcome => ∃ answer, outcome = .ok answer ∧ answer.Declines)
      (fun react => performAct react act w) w := by
  have answers {op : Reaction → World × Answer} (inert : InertWhen Answer.Declines op w) :
      InertWhen (fun outcome : Except PanicMessage Answer =>
        ∃ answer, outcome = .ok answer ∧ answer.Declines)
        (fun react => (op react).map id .ok) w := by
    refine inert.map ?_
    rintro _ ⟨answer, same, declines⟩
    exact Except.ok.inj same ▸ declines
  cases declinable with
  | bind name state =>
    refine answers (.withHandle fun n w => .withHandle fun s w => ?_)
    exact (inertWhen_bindNode n s).map fun _ => ne_ok_of_declines
  | add name cond =>
    refine answers (.withHandle fun q w => ?_)
    exact (inertWhen_addQuality q cond).map fun _ => ne_true_of_declines
  | remove name cond =>
    refine answers (.withHandle fun q w => ?_)
    exact (inertWhen_removeQuality q cond).map fun _ declines => declines
  | setQualities name conds =>
    refine answers (.withHandle fun c w => ?_)
    exact (inertWhen_setQualities c conds).map fun _ => ne_ok_of_declines
  | addQuality name cond =>
    refine answers (.withHandle fun c w => ?_)
    exact (inertWhen_addCardQuality c cond).map fun _ => ne_true_of_declines
  | removeQuality name cond =>
    refine answers (.withHandle fun c w => ?_)
    exact (inertWhen_removeCardQuality c cond).map fun _ => ne_true_of_declines
  | setState name state =>
    refine answers (.withHandle fun d w => .withHandle fun s w => ?_)
    exact (inertWhen_rebindDeck d s).map fun _ => ne_ok_of_declines
  | addCard name card =>
    refine answers (.withHandle fun d w => .withHandle fun c w => ?_)
    exact (inertWhen_addCard d c).map fun _ => ne_ok_of_declines
  | updateCard name card =>
    refine answers (.withHandle fun d w => .withHandle fun c w => ?_)
    exact (inertWhen_updateCard d c).map fun _ => ne_true_of_declines
  | removeCard name card =>
    refine answers (.withHandle fun d w => .withHandle fun c w => ?_)
    exact (inertWhen_removeCard d c).map fun _ declines => declines

/-- A deck with a card, and a card that is no replacement for it; both the deck and the card are
listened to.  Another card has been disposed of. -/
def listenedDeck : List Step :=
  [.act (.state (.create "s")), .act (.card (.create "c" "C" ["$open"] (some "s") .fresh)),
    .act (.card (.create "other" "O" [] none .fresh)),
    .act (.card (.create "gone" "G" ["true"] none .fresh)),
    .act (.deck (.create "d" ["c"] (some "s") .none)), .subscribe "d" "onDeck" [] 0,
    .subscribe "c" "onCard" [] 0, .act (.node (.dispose "gone"))]

end World

end StoryEngine
