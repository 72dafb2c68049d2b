import StoryEngine.Proofs.CachesOnly
import StoryEngine.Proofs.EngineStep

/-!
# Notifications keep what engine steps keep

The engine calls listeners in rounds, and rounds set off rounds.  Here a property that engine steps
keep is carried through all of it, as long as the listeners keep it too.  Two ways of reacting are
compared at the same time, for they may differ in worlds that the property excludes.

* `Agrees` — two ways on from a world come to the same, and the property holds there.
* `Alike` — two ways in which listeners react agree, whoever is called.
* `World.exprOnChange_agrees` and its like — the pulse of a change reaches a node.
* `World.pushExpr_agrees` and its like — a node notifies its listeners.
* `World.callAll_agrees` — the listeners of a state are called.
-/

namespace StoryEngine

/-! ## Two ways on from a world -/

/-- **Two ways on from a world agree**: they come to the same world, which has the property, is a
later one, and holds on to the same objects. -/
structure Agrees (Holds : World → Prop) (w after other : World) : Prop where
  same : after = other
  kept : Holds after
  later : w.Later after
  held : after.held = w.held

/-- The same for ways on that have an outcome. -/
structure AgreesFor (Holds : World → Prop) {α : Type} (w : World) (after other : World × α) :
    Prop where
  same : after = other
  kept : Holds after.1
  later : w.Later after.1
  held : after.1.held = w.held

/-- **Two ways of reacting are alike**: whoever is called, they agree. -/
def Alike (Holds : World → Prop) (react other : Reaction) : Prop :=
  ∀ l payload w, Holds w → Agrees Holds w (react l payload w) (other l payload w)

section
variable {Holds : World → Prop} {α : Type} {w : World}

lemma Agrees.refl (hw : Holds w) : Agrees Holds w w w :=
  ⟨rfl, hw, .refl w, rfl⟩

lemma AgreesFor.refl (hw : Holds w) (a : α) : AgreesFor Holds w (w, a) (w, a) :=
  ⟨rfl, hw, .refl w, rfl⟩

/-- What comes after two ways on that agree. -/
lemma Agrees.trans {after other : World} {f g : World → World} (h : Agrees Holds w after other)
    (step : Agrees Holds after (f after) (g after)) : Agrees Holds w (f after) (g other) := by
  obtain ⟨rfl, _, later, held⟩ := h
  exact ⟨step.same, step.kept, later.trans step.later, step.held.trans held⟩

lemma Agrees.transFor {after other : World} {f g : World → World × α}
    (h : Agrees Holds w after other) (step : AgreesFor Holds after (f after) (g after)) :
    AgreesFor Holds w (f after) (g other) := by
  obtain ⟨rfl, _, later, held⟩ := h
  exact ⟨step.same, step.kept, later.trans step.later, step.held.trans held⟩

/-- An outcome that is made up afterwards. -/
lemma Agrees.with {after other : World} (h : Agrees Holds w after other) (a : α) :
    AgreesFor Holds w (after, a) (other, a) :=
  ⟨by rw [h.same], h.kept, h.later, h.held⟩

/-- An outcome that is not looked at. -/
lemma AgreesFor.world {after other : World × α} (h : AgreesFor Holds w after other) :
    Agrees Holds w after.1 other.1 :=
  ⟨by rw [h.same], h.kept, h.later, h.held⟩

lemma AgreesFor.map {β : Type} {after other : World × α} (h : AgreesFor Holds w after other)
    (f : α → β) : AgreesFor Holds w (after.map id f) (other.map id f) :=
  ⟨by rw [h.same], h.kept, h.later, h.held⟩

variable {rule : Rule} {Stale : ExprId → World → Prop}

/-- An engine step is done. -/
lemma Preserved.agrees (kept : Preserved rule Holds Stale) (hw : Holds w) {w' : World}
    (engineStep : EngineStep rule w w') (held : w'.held = w.held) : Agrees Holds w w' w' :=
  ⟨rfl, kept.engineStep hw engineStep, engineStep.later, held⟩

/-- One step after the other, over a list. -/
lemma Agrees.foldl {β : Type} {step other : World → β → World}
    (h : ∀ b v, Holds v → Agrees Holds v (step v b) (other v b)) {bs : List β} (hw : Holds w) :
    Agrees Holds w (bs.foldl step w) (bs.foldl other w) := by
  induction bs generalizing w with
  | nil => exact .refl hw
  | cons b rest ih =>
      have first := h b w hw
      exact first.trans (f := fun v => rest.foldl step v) (g := fun v => rest.foldl other v)
        (ih first.kept)

/-- Reading and remarks are engine steps one after the other. -/
lemma Agrees.step (kept : Preserved rule Holds Stale) {after other w' : World}
    (h : Agrees Holds w after other) (engineStep : EngineStep rule after w')
    (held : w'.held = after.held) :
    Agrees Holds w w' w' :=
  ⟨rfl, kept.engineStep h.kept engineStep, h.later.trans engineStep.later, held.trans h.held⟩

end

namespace World

/-! ## Holding on -/

section
variable {rule : Rule} {Holds : World → Prop} {Stale : ExprId → World → Prop} {w : World}

/-- What has a name may have a name. -/
lemma grants_of_named {name : String} {o : Object} (mem : (name, o) ∈ w.names) : w.grants o := by
  cases o with
  | handle h => exact .root (isRooted_iff.2 (.inr ⟨name, mem⟩))
  | subscription l => exact .inr ⟨name, mem⟩
  | weak s => trivial
  | plain e => trivial

/-- Other holds on what is alive are granted, if no open batch is among them or given up. -/
lemma granted_held {held : List Handle} (alive : ∀ h ∈ held, w.Alive h)
    (same : ∀ s, held.count (.batch s) = w.held.count (.batch s)) : w.Granted [] w.names held where
  named _ _ := grants_of_named
  alive := alive
  distinct := id
  balanced _ s := by rw [openScopes, scopes, scopes, same, List.count_nil, Nat.add_zero]

/-- Other holds without a batch make no difference to how many batches are open. -/
lemma count_hold {hs : List Handle} (noBatch : ∀ h ∈ hs, ∀ s, h ≠ .batch s) (s : StateId) :
    (hs ++ w.held).count (.batch s) = w.held.count (.batch s) := by
  rw [List.count_append, List.count_eq_zero.2 fun mem => noBatch _ mem s rfl, Nat.zero_add]

lemma holds_hold (kept : Preserved rule Holds Stale) (hw : Holds w) {hs : List Handle}
    (alive : ∀ h ∈ hs, w.Alive h ∧ ∀ s, h ≠ .batch s) : Holds (w.hold hs) := by
  refine kept.engineStep hw (.roots w.names (hs ++ w.held) (granted_held ?_ ?_))
  · intro h mem
    rcases List.mem_append.1 mem with mem | mem
    · exact (alive h mem).1
    · exact alive_of_held mem
  · exact count_hold fun h mem => (alive h mem).2

lemma later_hold (hs : List Handle) (w : World) : w.Later (w.hold hs) :=
  later_withRoots w _ _

/-- What was held before is all that is held after. -/
lemma letGo_agrees (kept : Preserved rule Holds Stale) {hs : List Handle}
    (noBatch : ∀ h ∈ hs, ∀ s, h ≠ .batch s) {after other : World}
    (h : Agrees Holds (w.hold hs) after other) :
    Agrees Holds w { after with held := w.held } { other with held := w.held } := by
  obtain ⟨rfl, holds, later, held⟩ := h
  have granted : after.Granted [] after.names w.held := by
    refine granted_held (fun h mem => alive_of_held ?_) fun s => ?_
    · rw [held]
      exact List.mem_append_right _ mem
    · rw [held]
      exact (count_hold noBatch s).symm
  exact ⟨rfl, kept.engineStep holds (.roots _ _ granted),
    ((later_hold hs w).trans later).trans (later_withRoots after _ _), rfl⟩

/-- **An operation during which something alive is held on to**, but no open batch. -/
lemma holding_agrees (kept : Preserved rule Holds Stale) (hw : Holds w) {hs : List Handle}
    (alive : ∀ h ∈ hs, w.Alive h ∧ ∀ s, h ≠ .batch s) {op op' : World → World}
    (body : Holds (w.hold hs) → Agrees Holds (w.hold hs) (op (w.hold hs)) (op' (w.hold hs))) :
    Agrees Holds w (w.holding hs op) (w.holding hs op') :=
  letGo_agrees kept (fun h mem => (alive h mem).2) (body (holds_hold kept hw alive))

/-- The same for an operation with an outcome. -/
lemma holdingFor_agrees (kept : Preserved rule Holds Stale) (hw : Holds w) {hs : List Handle}
    (alive : ∀ h ∈ hs, w.Alive h ∧ ∀ s, h ≠ .batch s) {α : Type} {op op' : World → World × α}
    (body : Holds (w.hold hs) →
      AgreesFor Holds (w.hold hs) (op (w.hold hs)) (op' (w.hold hs))) :
    AgreesFor Holds w (w.holdingFor hs op) (w.holdingFor hs op') := by
  have inside := body (holds_hold kept hw alive)
  have outside := letGo_agrees kept (fun h mem => (alive h mem).2) inside.world
  refine ⟨?_, outside.kept, outside.later, outside.held⟩
  rw [holdingFor, holdingFor, inside.same]

end

/-! ## Rounds -/

section
variable {rule : Rule} {Holds : World → Prop} {Stale : ExprId → World → Prop} {w : World}

lemma announce_agrees (kept : Preserved rule Holds Stale) (hw : Holds w) (emitter : Emitter)
    (noState : ∀ s, emitter ≠ .state s) (cause : Option Nat) (payload : Payload) :
    Agrees Holds w (w.announce emitter cause payload) (w.announce emitter cause payload) :=
  kept.agrees hw (.record _ (aside_round noState cause payload)) rfl

lemma note_agrees (kept : Preserved rule Holds Stale) (hw : Holds w) (n : Note) :
    Agrees Holds w (w.note n) (w.note n) :=
  kept.agrees hw (.record _ fun _ => rfl) rfl

/-- **A round**, whose first call is made in the world at its beginning.  The property has to hold
from then on only. -/
lemma round_agrees_of_first {α : Type} {entries : World → List (Nat × α)}
    {isActive : World → Nat × α → Bool} {call call' : α → World → World}
    (nobody : entries w = [] → Holds w)
    (first : ∀ entry rest, entries w = entry :: rest →
      Agrees Holds w (if isActive w entry then call entry.2 w else w)
        (if isActive w entry then call' entry.2 w else w))
    (others : ∀ entry v, Holds v → isActive v entry →
      Agrees Holds v (call entry.2 v) (call' entry.2 v)) :
    Agrees Holds w (w.round entries isActive call) (w.round entries isActive call') := by
  unfold round
  rcases h : entries w with _ | ⟨entry, rest⟩
  · exact .refl (nobody h)
  · have head := first entry rest h
    rw [List.foldl_cons, List.foldl_cons, ← head.same]
    have tail : Agrees Holds (if isActive w entry then call entry.2 w else w)
        (rest.foldl (fun w entry => if isActive w entry then call entry.2 w else w)
          (if isActive w entry then call entry.2 w else w))
        (rest.foldl (fun w entry => if isActive w entry then call' entry.2 w else w)
          (if isActive w entry then call entry.2 w else w)) := by
      refine Agrees.foldl (fun b v hv => ?_) head.kept
      split
      · next active => exact others b v hv active
      · exact .refl hv
    exact ⟨tail.same, tail.kept, head.later.trans tail.later, tail.held.trans head.held⟩

/-- A round that begins in a world with the property. -/
lemma round_agrees {α : Type} {entries : World → List (Nat × α)}
    {isActive : World → Nat × α → Bool} {call call' : α → World → World} (hw : Holds w)
    (each : ∀ entry v, Holds v → isActive v entry →
      Agrees Holds v (call entry.2 v) (call' entry.2 v)) :
    Agrees Holds w (w.round entries isActive call) (w.round entries isActive call') := by
  refine round_agrees_of_first (fun _ => hw) (fun entry rest _ => ?_) each
  split
  · next active => exact each entry w hw active
  · exact .refl hw

end

/-! ## Reading -/

section
variable {rule : Rule} {Holds : World → Prop} {Stale : ExprId → World → Prop} {w : World}
variable (kept : Preserved rule Holds Stale)
include kept

lemma checkAgainst_agrees (hw : Holds w) (e : Expression) (s : StateId) :
    AgreesFor Holds w (w.checkAgainst e s) (w.checkAgainst e s) := by
  unfold checkAgainst
  split
  · exact .refl hw _
  · exact (note_agrees kept hw _).with _

lemma allChecks_agrees (hw : Holds w) (s : StateId) (es : List ExprId) :
    AgreesFor Holds w (w.allChecks s es) (w.allChecks s es) := by
  induction es generalizing w with
  | nil => exact .refl hw _
  | cons e rest ih =>
      have first := checkAgainst_agrees kept hw (w.expr e).expression s
      rw [allChecks, exprCheck]
      rcases h : w.checkAgainst (w.expr e).expression s with ⟨v, _ | _⟩
      all_goals rw [h] at first
      · exact first.world.with _
      · exact first.world.transFor (f := allChecks s rest) (g := allChecks s rest) (ih first.kept)

lemma setResult_agrees (hw : Holds w) (q : SetId) :
    AgreesFor Holds w (w.setResult q) (w.setResult q) :=
  (kept.agrees hw (.readSet q) (cachesOnly_setResult q w).held).with _

lemma exprResult_agrees (hw : Holds w) (e : ExprId) :
    AgreesFor Holds w (w.exprResult e) (w.exprResult e) :=
  (kept.agrees hw (.readExpr e) (cachesOnly_exprResult e w).held).with _

lemma cardResult_agrees (hw : Holds w) (c : CardId) :
    AgreesFor Holds w (w.cardResult c) (w.cardResult c) := by
  unfold cardResult
  split
  · exact .refl hw _
  · exact setResult_agrees kept hw _

lemma isOffered_agrees (hw : Holds w) (c : CardId) (s : StateId) :
    AgreesFor Holds w (w.isOffered c s) (w.isOffered c s) := by
  have read := cardResult_agrees kept hw c
  unfold isOffered
  rcases h : w.cardResult c with ⟨v, fault | value⟩
  all_goals rw [h] at read
  · have noted := note_agrees kept read.kept (.cardChecked (v.card c).hash fault)
    have checked := allChecks_agrees kept noted.kept s
      ((v.note (.cardChecked (v.card c).hash fault)).members
        ((v.note (.cardChecked (v.card c).hash fault)).card c).qualities)
    exact ⟨rfl, checked.kept, (read.later.trans noted.later).trans checked.later,
      checked.held.trans (noted.held.trans read.held)⟩
  · exact read.world.with _

lemma offered_agrees (hw : Holds w) (s : StateId) (cs : List CardId) :
    AgreesFor Holds w (w.offered s cs) (w.offered s cs) := by
  induction cs generalizing w with
  | nil => exact .refl hw _
  | cons c rest ih =>
      rw [offered]
      split
      · exact ih hw
      · have first := isOffered_agrees kept hw c s
        have others := ih first.kept
        exact ⟨rfl, others.kept, first.later.trans others.later, others.held.trans first.held⟩

lemma availableCards_agrees (hw : Holds w) (d : DeckId) :
    AgreesFor Holds w (w.availableCards d) (w.availableCards d) := by
  unfold availableCards
  split
  · exact .refl hw _
  · exact (offered_agrees kept hw _ _).world.with _

lemma filterChecked_agrees (hw : Holds w) (s : StateId) (cs : List CardId) :
    AgreesFor Holds w (w.filterChecked s cs) (w.filterChecked s cs) := by
  induction cs generalizing w with
  | nil => exact .refl hw _
  | cons c rest ih =>
      have first := allChecks_agrees kept hw s (w.members (w.card c).qualities)
      have others := ih first.kept
      exact ⟨rfl, others.kept, first.later.trans others.later, others.held.trans first.held⟩

end

/-! ## Nodes -/

section
variable {rule : Rule} {Holds : World → Prop} {Stale : ExprId → World → Prop} {w : World}
variable {react other : Reaction} (kept : Preserved rule Holds Stale)
    (alike : Alike Holds react other)
include kept alike

lemma notifyDeck_agrees (hw : Holds w) (d : DeckId) (cause : Option Nat) (cards : List CardId) :
    Agrees Holds w (w.notifyDeck react d cause cards) (w.notifyDeck other d cause cards) := by
  have announced := announce_agrees kept hw (.deck d) nofun cause (.cards cards)
  refine announced.trans
    (f := fun v => v.round (·.deckEntries d) (deckActive d) fun l => react l (.cards cards))
    (g := fun v => v.round (·.deckEntries d) (deckActive d) fun l => other l (.cards cards)) ?_
  exact round_agrees announced.kept fun entry v hv _ => alike _ _ _ hv

omit kept alike in
/-- The cards that a deck offers are alive if the deck is. -/
lemma alive_of_available {d : DeckId} (held : .deck d ∈ w.held) {cards : List CardId}
    (eq : (w.availableCards d).2 = .ok cards) : ∀ h ∈ cards.map Handle.card,
      (w.availableCards d).1.Alive h ∧ ∀ s, h ≠ .batch s := by
  intro h mem
  obtain ⟨c, isOffered, rfl⟩ := List.mem_map.1 mem
  refine ⟨?_, nofun⟩
  rw [(cachesOnly_availableCards d w).alive]
  refine .card ?_ (alive_of_held held)
  unfold availableCards at eq
  split at eq
  · cases eq
  · obtain rfl := Except.ok.inj eq
    exact mem_offered isOffered

/-- **A deck pushes.** -/
theorem pushDeck_agrees (hw : Holds w) (d : DeckId) (cause : Option Nat) (held : .deck d ∈ w.held) :
    Agrees Holds w (w.pushDeck react d cause) (w.pushDeck other d cause) := by
  unfold pushDeck
  split
  · exact .refl hw
  · have read := (availableCards_agrees kept hw d).world
    have aliveCards : ∀ cards, (w.availableCards d).2 = .ok cards →
        ∀ h ∈ cards.map Handle.card, (w.availableCards d).1.Alive h ∧ ∀ s, h ≠ .batch s :=
      fun _ => alive_of_available held
    rcases h : w.availableCards d with ⟨v, fault | cards⟩
    all_goals rw [h] at read
    · exact read.trans (f := note _) (g := note _) (note_agrees kept read.kept _)
    · refine read.trans (f := fun v => v.holding (cards.map .card) (notifyDeck react d cause cards))
        (g := fun v => v.holding (cards.map .card) (notifyDeck other d cause cards)) ?_
      refine holding_agrees kept read.kept ?_ fun hv =>
        notifyDeck_agrees kept alike hv d cause cards
      simpa only [h] using aliveCards cards (by rw [h])

/-- **A pulse reaches a deck.** -/
theorem deckOnChange_agrees (hw : Holds w) (d : DeckId) (cause : Option Nat)
    (held : .deck d ∈ w.held) :
    Agrees Holds w (w.deckOnChange react d cause) (w.deckOnChange other d cause) := by
  unfold deckOnChange
  split
  · next admits =>
      have passed := kept.agrees hw (.admitDeck d cause admits) rfl
      exact passed.trans (f := pushDeck react d cause) (g := pushDeck other d cause)
        (pushDeck_agrees kept alike passed.kept d cause held)
  · exact .refl hw

lemma callCard_agrees (hw : Holds w) (c : CardId) (value : Bool) (cause : Option Nat)
    {entry : Nat × CardListener} (active : w.cardActive c entry) :
    Agrees Holds w (w.callCard react value cause entry.2)
      (w.callCard other value cause entry.2) := by
  obtain ⟨k, l | d⟩ := entry
  · exact alike l _ w hw
  · have deckAlive : w.deckAlive d := (Bool.and_eq_true _ _ ▸ active).2
    refine holding_agrees kept hw ?_ fun hv => deckOnChange_agrees kept alike hv d cause ?_
    · simpa using deckAlive_iff.1 deckAlive
    · exact List.mem_cons_self

lemma notifyCard_agrees (hw : Holds w) (c : CardId) (cause : Option Nat) (value : Bool) :
    Agrees Holds w (w.notifyCard react c cause value) (w.notifyCard other c cause value) := by
  have announced := announce_agrees kept hw (.card c) nofun cause (.truth value)
  refine announced.trans
    (f := fun v => v.round (·.cardEntries c) (cardActive c) (callCard react value cause))
    (g := fun v => v.round (·.cardEntries c) (cardActive c) (callCard other value cause)) ?_
  exact round_agrees announced.kept fun entry v hv active =>
    callCard_agrees kept alike hv c value cause active

/-- **A card pushes.** -/
theorem pushCard_agrees (hw : Holds w) (c : CardId) (cause : Option Nat) :
    Agrees Holds w (w.pushCard react c cause) (w.pushCard other c cause) := by
  unfold pushCard
  split
  · exact .refl hw
  · have read := (cardResult_agrees kept hw c).world
    rcases h : w.cardResult c with ⟨v, fault | value⟩
    all_goals rw [h] at read
    · exact read.trans (f := note _) (g := note _) (note_agrees kept read.kept _)
    · exact read.trans (f := notifyCard react c cause value) (g := notifyCard other c cause value)
        (notifyCard_agrees kept alike read.kept c cause value)

/-- **A pulse reaches a card.** -/
theorem cardOnChange_agrees (hw : Holds w) (c : CardId) (cause : Option Nat) :
    Agrees Holds w (w.cardOnChange react c cause) (w.cardOnChange other c cause) := by
  unfold cardOnChange
  split
  · next admits =>
      have passed := kept.agrees hw (.admitCard c cause admits) rfl
      exact passed.trans (f := pushCard react c cause) (g := pushCard other c cause)
        (pushCard_agrees kept alike passed.kept c cause)
  · exact .refl hw

lemma callSet_agrees (hw : Holds w) (q : SetId) (value : Bool) (cause : Option Nat)
    {entry : Nat × SetListener} (active : w.setActive q entry) :
    Agrees Holds w (w.callSet react value cause entry.2) (w.callSet other value cause entry.2) := by
  obtain ⟨k, l | c⟩ := entry
  · exact alike l _ w hw
  · have cardAlive : w.cardAlive c := (Bool.and_eq_true _ _ ▸ active).2
    refine holding_agrees kept hw ?_ fun hv => cardOnChange_agrees kept alike hv c cause
    simpa using cardAlive_iff.1 cardAlive

lemma notifySet_agrees (hw : Holds w) (q : SetId) (cause : Option Nat) (value : Bool) :
    Agrees Holds w (w.notifySet react q cause value) (w.notifySet other q cause value) := by
  have announced := announce_agrees kept hw (.set q) nofun cause (.truth value)
  refine announced.trans
    (f := fun v => v.round (·.setEntries q) (setActive q) (callSet react value cause))
    (g := fun v => v.round (·.setEntries q) (setActive q) (callSet other value cause)) ?_
  exact round_agrees announced.kept fun entry v hv active =>
    callSet_agrees kept alike hv q value cause active

/-- **A quality set pushes.** -/
theorem pushSet_agrees (hw : Holds w) (q : SetId) (cause : Option Nat) :
    Agrees Holds w (w.pushSet react q cause) (w.pushSet other q cause) := by
  unfold pushSet
  split
  · exact .refl hw
  · have read := (setResult_agrees kept hw q).world
    rcases h : w.setResult q with ⟨v, fault | value⟩
    all_goals rw [h] at read
    · exact read.trans (f := note _) (g := note _) (note_agrees kept read.kept _)
    · exact read.trans (f := notifySet react q cause value) (g := notifySet other q cause value)
        (notifySet_agrees kept alike read.kept q cause value)

/-- **A pulse reaches a quality set.**  It invalidates its cache before anything else, so the
property has to hold from then on only. -/
theorem setOnChange_agrees {q : SetId} (hw : Holds (w.invalidateSet q)) (cause : Option Nat) :
    Agrees Holds w (w.setOnChange react q cause) (w.setOnChange other q cause) := by
  have forgot : Agrees Holds w (w.invalidateSet q) (w.invalidateSet q) :=
    ⟨rfl, hw, (onward_invalidateSet q w).toLater, rfl⟩
  unfold setOnChange
  dsimp only
  split
  · next admits =>
      have passed := forgot.step kept (.admitSet q cause admits) rfl
      exact passed.trans (f := pushSet react q cause) (g := pushSet other q cause)
        (pushSet_agrees kept alike passed.kept q cause)
  · exact forgot

lemma callExpr_agrees (hw : Holds w) (e : ExprId) (value : Bool) (cause : Option Nat)
    {entry : Nat × ExprListener} (active : w.exprActive e entry) :
    Agrees Holds w (w.callExpr react value cause entry.2)
      (w.callExpr other value cause entry.2) := by
  obtain ⟨k, l | q⟩ := entry
  · exact alike l _ w hw
  · have setAlive : w.setAlive q := (Bool.and_eq_true _ _ ▸ active).2
    refine holding_agrees kept hw ?_ fun hv =>
      setOnChange_agrees kept alike (kept.engineStep hv (.invalidateSet q)) cause
    simpa using setAlive_iff.1 setAlive

lemma notifyExpr_agrees (hw : Holds w) (e : ExprId) (cause : Option Nat) (value : Bool) :
    Agrees Holds w (w.notifyExpr react e cause value) (w.notifyExpr other e cause value) := by
  have announced := announce_agrees kept hw (.expr e) nofun cause (.truth value)
  refine announced.trans
    (f := fun v => v.round (·.exprEntries e) (exprActive e) (callExpr react value cause))
    (g := fun v => v.round (·.exprEntries e) (exprActive e) (callExpr other value cause)) ?_
  exact round_agrees announced.kept fun entry v hv active =>
    callExpr_agrees kept alike hv e value cause active

/-- **An expression pushes.** -/
theorem pushExpr_agrees (hw : Holds w) (e : ExprId) (cause : Option Nat) :
    Agrees Holds w (w.pushExpr react e cause) (w.pushExpr other e cause) := by
  unfold pushExpr
  split
  · exact .refl hw
  · have read := (exprResult_agrees kept hw e).world
    rcases h : w.exprResult e with ⟨v, fault | value⟩
    all_goals rw [h] at read
    · exact read.trans (f := note _) (g := note _) (note_agrees kept read.kept _)
    · exact read.trans (f := notifyExpr react e cause value) (g := notifyExpr other e cause value)
        (notifyExpr_agrees kept alike read.kept e cause value)

/-- **A pulse reaches an expression.** -/
theorem exprOnChange_agrees (hw : Holds w) (e : ExprId) (cause : Option Nat) :
    Agrees Holds w (w.exprOnChange react e cause) (w.exprOnChange other e cause) := by
  have forgot := kept.agrees hw (.invalidateExpr e) rfl
  unfold exprOnChange
  dsimp only
  split
  · next admits =>
      have passed := forgot.step kept (.admitExpr e cause admits) rfl
      exact passed.trans (f := pushExpr react e cause) (g := pushExpr other e cause)
        (pushExpr_agrees kept alike passed.kept e cause)
  · exact forgot

/-! ## Another condition -/

omit kept alike in
lemma exprResult_of_error {e : ExprId} {fault : NodeFault}
    (h : (w.exprResult e).2 = .error fault) :
    w.exprState e = .error fault ∧ (w.exprResult e).1 = w := by
  unfold exprResult at h ⊢
  split
  · next eq =>
      rw [eq] at h
      obtain rfl := Except.error.inj h
      exact ⟨eq, rfl⟩
  · next eq =>
      rw [eq] at h
      dsimp only at h
      split at h <;> cases h

/-- **The first to be notified of another condition** is the expression's quality set, or a listener
for whom it makes no difference that the set has not been notified. -/
lemma notifyChanged_agrees {e : ExprId} (stale : Stale e w) (listened : w.exprEntries e ≠ [])
    (value : Bool) :
    Agrees Holds w (w.notifyExpr react e none value) (w.notifyExpr other e none value) := by
  have only := cachesOnly_record (.round (.expr e) none (.truth value)) w
  have aside : (Event.round (.expr e) none (.truth value)).Aside := fun _ => rfl
  have announced := kept.record aside stale
  have notified : Agrees Holds (w.announce (.expr e) none (.truth value))
      (w.notifyExpr react e none value) (w.notifyExpr other e none value) := by
    refine round_agrees_of_first ?_ ?_ ?_
    · intro nobody
      exact absurd ((only.exprEntries_eq e).symm.trans nobody) listened
    · rintro ⟨k, l | q⟩ rest eq
      · have holds := kept.user announced eq
        split
        · exact alike l _ _ holds
        · exact .refl holds
      · have active := List.mem_filter.1 (eq ▸ List.mem_cons_self :
          (k, .owner q) ∈ (w.announce (.expr e) none (.truth value)).exprEntries e)
        rw [if_pos, if_pos]
        · exact letGo_agrees kept (by simp)
            (setOnChange_agrees kept alike (kept.owner announced eq) none)
        all_goals
          rw [exprActive, Bool.and_eq_true]
          exact ⟨List.any_eq_true.2 ⟨_, active.1, beq_self_eq_true _⟩, active.2⟩
    · exact fun entry v hv active => callExpr_agrees kept alike hv e value none active
  exact ⟨notified.same, notified.kept, (later_record w _).trans notified.later, notified.held⟩

/-- **An expression gets another condition.** -/
theorem changeExpr_agrees (hw : Holds w) (e : ExprId) (cond : String) :
    Agrees Holds w (w.changeExpr react e cond) (w.changeExpr other e cond) := by
  have stale := kept.rewrite e cond hw
  have later := (onward_rewriteExpr e cond w).toLater
  suffices notified : Agrees Holds (w.rewriteExpr e cond) (w.changeExpr react e cond)
      (w.changeExpr other e cond) from
    ⟨notified.same, notified.kept, later.trans notified.later, notified.held⟩
  unfold changeExpr pushExpr
  split
  · next skips => exact .refl (kept.skips stale skips)
  · next pushes =>
      have read := kept.read stale
      have only := cachesOnly_exprResult e (w.rewriteExpr e cond)
      have later := (onward_exprResult e (w.rewriteExpr e cond)).toLater
      have listened : (w.rewriteExpr e cond).exprEntries e ≠ [] := by
        intro nobody
        rw [nobody] at pushes
        exact pushes rfl
      rcases h : (w.rewriteExpr e cond).exprResult e with ⟨v, fault | value⟩
      · obtain ⟨isFault, same⟩ := exprResult_of_error (congrArg Prod.snd h)
        rw [h] at same
        obtain rfl : v = w.rewriteExpr e cond := same
        exact note_agrees kept (kept.fault stale isFault) _
      · rw [h] at read only later
        have notified := notifyChanged_agrees kept alike read
          (by rwa [only.exprEntries_eq]) value
        exact ⟨notified.same, notified.kept, later.trans notified.later,
          notified.held.trans only.held⟩

/-! ## States and boards -/

lemma callState_agrees (hw : Holds w) (s : StateId) {entry : Nat × StateListener}
    (active : w.stateActive s entry) :
    Agrees Holds w (w.callState react s entry.2) (w.callState other s entry.2) := by
  have listenerAlive : w.stateListenerAlive entry.2 := (Bool.and_eq_true _ _ ▸ active).2
  obtain ⟨k, l | e | q | d⟩ := entry
  · exact alike l _ w hw
  · refine holding_agrees kept hw ?_ fun hv => exprOnChange_agrees kept alike hv e _
    simpa using exprAlive_iff.1 listenerAlive
  · refine holding_agrees kept hw ?_ fun hv =>
      setOnChange_agrees kept alike (kept.engineStep hv (.invalidateSet q)) _
    simpa using setAlive_iff.1 listenerAlive
  · refine holding_agrees kept hw ?_ fun hv =>
      deckOnChange_agrees kept alike hv d _ List.mem_cons_self
    simpa using deckAlive_iff.1 listenerAlive

/-- **The calls of a round over the listeners of a state.** -/
theorem callAll_agrees (hw : Holds w) (s : StateId) :
    Agrees Holds w (w.callAll react s) (w.callAll other s) :=
  round_agrees hw fun _ _ hv active => callState_agrees kept alike hv s active

/-- **A board passes a message on.** -/
theorem emit_agrees (hw : Holds w) (b : BoardId) (message : String) :
    Agrees Holds w (w.emit react b message) (w.emit other b message) := by
  have announced := announce_agrees kept hw (.board b) nofun none (.text message)
  refine announced.trans
    (f := fun v => v.round (·.boardEntries b) (boardActive b) fun l => react l (.text message))
    (g := fun v => v.round (·.boardEntries b) (boardActive b) fun l => other l (.text message)) ?_
  exact round_agrees announced.kept fun entry v hv _ => alike _ _ _ hv

end

end World

end StoryEngine
