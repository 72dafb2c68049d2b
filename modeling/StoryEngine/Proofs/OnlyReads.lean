import StoryEngine.Proofs.StructuralPulse

/-!
# Listeners that only read

A listener may read what it likes when it is called, and use up runs of its program, without being
in anybody's way.  The calls of such listeners can be given in advance, whatever else listens
elsewhere.

* `Act.reads` — the acts that only read.
* `World.UsesUp` — listeners use up runs of their programs.
* **`World.OnlyCallsSpending`** — nothing happens but that some listeners are called, and use up
  runs.
* **`World.OnlyReads`** — a listener that does no more than read when it is called.
* `World.OnlyCalls.performAct` — an act that only reads makes no difference to what is read, and
  **`World.onlyReads_of_reads`** — a listener whose program only reads is one.
* **`World.OnlyCallsSpending.pushDeck`** — a deck pushes to listeners that only read.
-/

namespace StoryEngine

/-! ## Acts that only read -/

/-- Acts on objects that only read them. -/
def HandleAct.reads : HandleAct → Bool
  | .sameObject .. | .describe _ | .observe _ | .listenerCount _ | .size _ | .panic _ => true
  | _ => false

/-- Acts on states that only read them. -/
def StateAct.reads : StateAct → Bool
  | .get .. | .exists .. | .keys _ | .snapshot _ | .inBatch _ | .revision _ | .weakIs .. => true
  | _ => false

/-- Acts on nodes that only read them. -/
def NodeAct.reads : NodeAct → Bool
  | .kind _ | .isBound _ | .isDisposed _ | .cacheState _ | .result _ | .check .. => true
  | _ => false

/-- Acts on cards that only read them. -/
def CardAct.reads : CardAct → Bool
  | .info _ | .sameHash .. => true
  | _ => false

/-- Acts on decks that only read them. -/
def DeckAct.reads : DeckAct → Bool
  | .cards _ | .state _ | .getCard _ _ none | .isCardAvailable .. | .available _
  | .availableIn .. =>
    true
  | _ => false

/-- **Acts that only read**: nothing is made, changed, bound, named or drawn. -/
def Act.reads : Act → Bool
  | .handle act => act.reads
  | .state act => act.reads
  | .plain (.check ..) => true
  | .node act => act.reads
  | .set (.has ..) => true
  | .card act => act.reads
  | .deck act => act.reads
  | _ => false

/-- Steps that are acts that only read. -/
def Step.reads : Step → Bool
  | .act a => a.reads
  | _ => false

namespace World

variable {w v u : World} {called more : List Call} {react : Reaction}

/-! ## Using up runs -/

/-- **Listeners use up runs of their programs**, and keep the programs. -/
def UsesUp (w v : World) : Prop :=
  ∀ l, (v.listener l).program = (w.listener l).program ∧
    (v.listener l).remaining ≤ (w.listener l).remaining

lemma UsesUp.trans (h : w.UsesUp v) (h' : v.UsesUp u) : w.UsesUp u :=
  fun l => ⟨(h' l).1.trans (h l).1, Nat.le_trans (h' l).2 (h l).2⟩

lemma usesUp_of_listeners (same : v.listeners = w.listeners) : w.UsesUp v :=
  fun l => by rw [listener, listener, same]; exact ⟨rfl, Nat.le_refl _⟩

/-- The world with other listeners. -/
def withListeners (listeners : Table Listener) (w : World) : World :=
  { w with listeners }

lemma withListeners_self (same : v.listeners = w.listeners) : v.withListeners w.listeners = v := by
  rw [← same]
  rfl

/-- Who the listeners are makes no difference to reading. -/
lemma sameNodes_withListeners (listeners : Table Listener) (w : World) :
    w.SameNodes (w.withListeners listeners) :=
  ⟨rfl, rfl, rfl, rfl, rfl, fun _ => rfl⟩

lemma OnlyCalls.withListeners (fresh : w.Fresh) (h : OnlyCalls called w v)
    (listeners : Table Listener) :
    OnlyCalls called (w.withListeners listeners) (v.withListeners listeners) where
  only := { h.only with listeners := rfl }
  fresh := (sameNodes_withListeners _ v).fresh h.fresh
  results q := by
    rw [(sameNodes_withListeners _ v).setResult_eq h.fresh,
      (sameNodes_withListeners _ w).setResult_eq fresh]
    exact h.results q
  calls := h.calls

/-! ## Nothing but calls -/

/-- **Nothing happens but that some listeners are called**, and use up runs of their programs. -/
structure OnlyCallsSpending (called : List Call) (w v : World) : Prop where
  onlyCalls : OnlyCalls called w (v.withListeners w.listeners)
  usesUp : w.UsesUp v

namespace OnlyCallsSpending

lemma of_onlyCalls (h : OnlyCalls called w v) : OnlyCallsSpending called w v where
  onlyCalls := by rwa [withListeners_self h.only.listeners]
  usesUp := usesUp_of_listeners h.only.listeners

lemma fresh (h : OnlyCallsSpending called w v) : v.Fresh :=
  h.onlyCalls.fresh.alike (fun _ => rfl) fun _ => rfl

lemma calls (h : OnlyCallsSpending called w v) : v.calls = w.calls ++ called :=
  h.onlyCalls.calls

lemma deck_eq (h : OnlyCallsSpending called w v) (d : DeckId) : v.deck d = w.deck d :=
  h.onlyCalls.only.deck_eq d

lemma card_eq (h : OnlyCallsSpending called w v) (c : CardId) : v.card c = w.card c :=
  h.onlyCalls.only.card_eq c

lemma availableCards_eq (h : OnlyCallsSpending called w v) (fresh : w.Fresh) (d : DeckId) :
    (v.availableCards d).2 = (w.availableCards d).2 :=
  ((sameNodes_withListeners _ v).availableCards_eq h.fresh d).symm.trans
    (h.onlyCalls.availableCards_eq fresh d)

lemma trans (h : OnlyCallsSpending called w v) (h' : OnlyCallsSpending more v u) :
    OnlyCallsSpending (called ++ more) w u where
  onlyCalls := h.onlyCalls.trans (h'.onlyCalls.withListeners h.fresh w.listeners)
  usesUp := h.usesUp.trans h'.usesUp

/-- **An operation during which some objects are held on to.** -/
lemma holding {hs : List Handle} (noState : NoState hs) (fresh : w.Fresh) {op : World → World}
    (body : OnlyCallsSpending called (w.hold hs) (op (w.hold hs))) :
    OnlyCallsSpending called w (w.holding hs op) where
  onlyCalls := body.onlyCalls.letGo noState.stateAlive fresh
  usesUp := body.usesUp

end OnlyCallsSpending

/-! ## Listeners that only read -/

/-- **A listener that only reads**: whenever it is called from a world on, as long as all that
becomes of listeners is that they use up runs of their programs, nothing comes of the call but
that. -/
def OnlyReads (react : Reaction) (w : World) (l : ListenerId) : Prop :=
  ∀ payload v, v.Fresh → w.UsesUp v → OnlyCallsSpending [(l, payload)] v (react l payload v)

lemma OnlyReads.mono {l : ListenerId} (h : OnlyReads react w l) (uses : w.UsesUp v) :
    OnlyReads react v l :=
  fun payload _ fresh more => h payload _ fresh (uses.trans more)

/-! ## Programs that only read -/

/-- **Going on with a named object** that nothing is done to but reading. -/
lemma OnlyCalls.withHandle (fresh : w.Fresh) {α : Type} {select : Handle → Option α} {name : String}
    {k : α → Doing} (body : ∀ a v, v.Fresh → OnlyCalls [] v (k a v).1) :
    OnlyCalls [] w (World.withHandle select name k w).1 := by
  rw [World.withHandle]
  split
  · next h found =>
      split
      · next a _ =>
          refine (body a (w.hold [h]) (fresh.withRoots _ _)).letGo (fun s => ?_) fresh
          -- the name holds on to the object already
          have same : ∀ x, (w.hold [h]).isRooted x = w.isRooted x := by
            intro x
            rw [Bool.eq_iff_iff, isRooted_hold]
            refine or_iff_right_of_imp fun here => ?_
            rw [List.mem_singleton.1 here]
            exact rooted_of_find? found
          rw [stateAlive, stateAlive, same, same]
      · exact .refl fresh
  · exact .refl fresh

lemma OnlyCalls.filterChecked (fresh : w.Fresh) (s : StateId) (cards : List CardId) :
    OnlyCalls [] w (w.filterChecked s cards).1 := by
  induction cards generalizing w with
  | nil => exact .refl fresh
  | cons c rest ih =>
      have first : OnlyCalls [] w (w.cardCheck c s).1 := .allChecks fresh s _
      exact first.trans (ih first.fresh)

lemma OnlyCalls.performHandle (fresh : w.Fresh) {act : HandleAct} (reads : act.reads) :
    OnlyCalls [] w (w.performHandle react act).1 := by
  cases act with
  | sameObject a b =>
      have same : (World.sameObject a b w).1 = w := by
        rw [World.sameObject]
        split <;> rfl
      exact (congrArg (OnlyCalls [] w) same).mpr (.refl fresh)
  | describe name =>
      rw [World.performHandle]
      split <;> exact .refl fresh
  | observe name => exact .refl fresh
  | listenerCount name => exact .withHandle fresh fun _ _ fresh => .refl fresh
  | size name =>
      have same : (sizeNamed name w).1 = w := by
        rw [sizeNamed]
        split
        · split <;> rfl
        · rfl
      exact (congrArg (OnlyCalls [] w) same).mpr (.refl fresh)
  | panic message => exact .refl fresh
  | _ => cases reads

lemma OnlyCalls.performState (fresh : w.Fresh) {act : StateAct} (reads : act.reads) :
    OnlyCalls [] w (w.performState react act).1 := by
  cases act with
  | get | «exists» | keys | snapshot | inBatch | revision =>
      exact .withHandle fresh fun _ _ fresh => .refl fresh
  | weakIs weak state =>
      rw [World.performState, withWeak]
      split
      · exact .withHandle fresh fun _ _ fresh => .refl fresh
      · exact .refl fresh
  | _ => cases reads

lemma OnlyCalls.performNode (fresh : w.Fresh) {act : NodeAct} (reads : act.reads) :
    OnlyCalls [] w (w.performNode react act).1 := by
  cases act with
  | kind | isBound | isDisposed | cacheState =>
      exact .withHandle fresh fun _ _ fresh => .refl fresh
  | result name =>
      refine .withHandle fresh fun n v fresh => ?_
      cases n with
      | expr e => exact .exprResult fresh e
      | set q => exact .setResult fresh q
      | card c => exact .cardResult fresh c
  | check name state =>
      refine .withHandle fresh fun s v fresh => .withHandle fresh fun n u fresh => ?_
      cases n with
      | expr e => exact .checkAgainst fresh _ s
      | set q => exact .allChecks fresh s _
      | card c => exact .allChecks fresh s _
  | _ => cases reads

lemma OnlyCalls.performCard (fresh : w.Fresh) {act : CardAct} (reads : act.reads) :
    OnlyCalls [] w (w.performCard react act).1 := by
  cases act with
  | info name => exact .withHandle fresh fun _ _ fresh => .refl fresh
  | sameHash a b =>
      exact .withHandle fresh fun _ _ fresh => .withHandle fresh fun _ _ fresh => .refl fresh
  | _ => cases reads

lemma OnlyCalls.performDeck (fresh : w.Fresh) {act : DeckAct} (reads : act.reads) :
    OnlyCalls [] w (w.performDeck react act).1 := by
  cases act with
  | cards | state => exact .withHandle fresh fun _ _ fresh => .refl fresh
  | getCard name index as =>
      cases as with
      | none =>
          refine .withHandle fresh fun d v fresh => ?_
          split <;> exact .refl fresh
      | some as => cases reads
  | isCardAvailable name card =>
      refine .withHandle fresh fun d v fresh => .withHandle fresh fun c u fresh => ?_
      rw [World.isCardAvailable]
      split
      · exact .refl fresh
      · exact .allChecks fresh _ _
  | available name => exact .withHandle fresh fun d _ fresh => .availableCards fresh d
  | availableIn name state =>
      exact .withHandle fresh fun d v fresh => .withHandle fresh fun s u fresh =>
        .filterChecked fresh s (u.deck d).cards
  | _ => cases reads

/-- **An act that only reads** makes no difference to what is read. -/
lemma OnlyCalls.performAct (fresh : w.Fresh) {act : Act} (reads : act.reads) :
    OnlyCalls [] w (performAct react act w).1 := by
  cases act with
  | handle act => exact .performHandle fresh reads
  | state act => exact .performState fresh reads
  | plain act =>
      cases act with
      | check name state =>
          refine .withHandle fresh fun s v fresh => ?_
          rw [withPlain]
          split
          · exact .checkAgainst fresh _ s
          · exact .refl fresh
      | _ => cases reads
  | node act => exact .performNode fresh reads
  | set act =>
      cases act with
      | has name cond => exact .withHandle fresh fun _ _ fresh => .refl fresh
      | _ => cases reads
  | card act => exact .performCard fresh reads
  | deck act => exact .performDeck fresh reads
  | board act => cases reads
  | expr act => cases reads

/-- **A program that only reads** makes no difference to what is read. -/
lemma OnlyCalls.performAllUnder {look : Supervisor} (watches : look.Watches) (runner : String)
    {steps : List Step} (reads : ∀ step ∈ steps, step.reads) (fresh : w.Fresh) :
    OnlyCalls [] w (World.performAllUnder look react runner steps w).1 := by
  induction steps generalizing w with
  | nil =>
      rw [performAllUnder.eq_def]
      exact .refl fresh
  | cons step rest ih =>
      have later : ∀ step ∈ rest, step.reads := fun step mem => reads step (.tail _ mem)
      rw [performAllUnder.eq_def]
      dsimp only
      split
      · exact ih later fresh
      · next w' passed =>
          obtain rfl := watches _ _ _ passed
          have first : OnlyCalls [] w' (performUnder look react step w').1 := by
            have reads := reads step (.head _)
            cases step with
            | act a => exact .performAct fresh reads
            | _ => cases reads
          rcases done : performUnder look react step w' with ⟨v, message | answer⟩
          all_goals rw [done] at first
          · exact first
          · have recorded : OnlyCalls [] w' (v.record (.nested runner answer)) :=
              first.trans (.record first.fresh rfl)
            exact recorded.trans (ih later recorded.fresh)

/-- A listener that uses up runs of its program. -/
lemma OnlyCallsSpending.spend (fresh : w.Fresh) {l : ListenerId} {runs : Nat}
    (fewer : runs ≤ (w.listener l).remaining) : OnlyCallsSpending [] w (w.spend l runs) where
  onlyCalls := .refl fresh
  usesUp other := by
    rw [World.spend, listener_onListener]
    split
    · next here =>
        subst here
        exact ⟨rfl, fewer⟩
    · exact ⟨rfl, Nat.le_refl _⟩

/-- **A listener whose program only reads is one that only reads**, in runs of any kind, and so does
one that has used up its runs. -/
theorem onlyReads_of_reads {look : Supervisor} (watches : look.Watches) {l : ListenerId}
    (quiet : (w.listener l).remaining = 0 ∨ ∀ step ∈ (w.listener l).program, step.reads)
    (depth : Nat) : OnlyReads (reactionUnder look depth) w l := by
  intro payload v fresh uses
  have fired : OnlyCalls [(l, payload)] v (v.fire l payload) := readOnly_fire l payload v fresh
  obtain ⟨program, remaining⟩ := uses l
  cases depth with
  | zero => exact .of_onlyCalls fired
  | succ depth =>
      rw [reactionUnder, respond]
      have same : (v.fire l payload).listener l = v.listener l := rfl
      rw [same]
      rcases left : (v.listener l).remaining with _ | runs
      · exact .of_onlyCalls fired
      · have reads : ∀ step ∈ (v.listener l).program, step.reads := by
          rw [program]
          exact quiet.resolve_left fun none => by omega
        have spent : OnlyCallsSpending [(l, payload)] v ((v.fire l payload).spend l runs) :=
          (OnlyCallsSpending.of_onlyCalls fired).trans
            (.spend fired.fresh (by rw [same, left]; omega))
        have ran : OnlyCalls [] ((v.fire l payload).spend l runs)
            (performAllUnder look (reactionUnder look depth) (v.listener l).name
              (v.listener l).program ((v.fire l payload).spend l runs)).1 :=
          .performAllUnder watches _ reads spent.fresh
        dsimp only
        split
        · next after done =>
            rw [done] at ran
            exact spent.trans (.of_onlyCalls ran)
        · next after message done =>
            rw [done] at ran
            exact spent.trans (.of_onlyCalls (ran.trans (.note ran.fresh _)))

/-! ## Pushes of a deck -/

/-- **A round** in which everyone who listens does no more than make some calls. -/
lemma OnlyCallsSpending.round {α : Type} (entries : World → List (Nat × α))
    {isActive : World → Nat × α → Bool} {call : α → World → World} {callsOf : Nat × α → List Call}
    (fresh : w.Fresh)
    (turn : ∀ entry ∈ entries w, ∀ {called v}, OnlyCallsSpending called w v →
      isActive v entry ∧ OnlyCallsSpending (callsOf entry) v (call entry.2 v)) :
    OnlyCallsSpending ((entries w).flatMap callsOf) w (w.round entries isActive call) :=
  foldl_turns .trans isActive call (.of_onlyCalls (.refl fresh)) turn

lemma OnlyCallsSpending.notifyDeck (fresh : w.Fresh) {d : DeckId}
    (readers : ∀ entry ∈ w.deckEntries d, OnlyReads react w entry.2) (cause : Option Nat)
    (cards : List CardId) :
    OnlyCallsSpending ((w.deckEntries d).map fun entry => (entry.2, .cards cards)) w
      (w.notifyDeck react d cause cards) := by
  have announced : OnlyCalls [] w (w.announce (.deck d) cause (.cards cards)) := .record fresh rfl
  have turns : OnlyCallsSpending ((w.deckEntries d).flatMap fun entry => [(entry.2, .cards cards)])
      (w.announce (.deck d) cause (.cards cards)) (w.notifyDeck react d cause cards) := by
    refine .round (·.deckEntries d) announced.fresh fun entry mem called v h => ⟨?_, ?_⟩
    · rw [deckActive, h.deck_eq]
      exact has_of_mem mem
    · exact readers entry mem _ v h.fresh h.usesUp
  rw [← List.map_eq_flatMap] at turns
  exact (of_onlyCalls announced).trans turns

/-- **A deck pushes to listeners that only read.** -/
theorem OnlyCallsSpending.pushDeck (fresh : w.Fresh) {d : DeckId}
    (readers : ∀ entry ∈ w.deckEntries d, OnlyReads react w entry.2) (cause : Option Nat) :
    OnlyCallsSpending (w.deckPushCalls d) w (w.pushDeck react d cause) := by
  have read := OnlyCalls.availableCards fresh d
  rw [World.pushDeck]
  split
  · next nobody =>
      rw [deckPushCalls_of_nobody fresh nobody]
      exact .of_onlyCalls (.refl fresh)
  · rw [deckPushCalls]
    rcases done : w.availableCards d with ⟨v, fault | cards⟩
    all_goals
      rw [done] at read
      dsimp only at read ⊢
    · exact .of_onlyCalls (read.trans (.note read.fresh _))
    · rw [← read.only.deckEntries_eq] at readers ⊢
      have noState : NoState (cards.map .card) := by simp [NoState]
      have held : (v.hold (cards.map .card)).Fresh := read.fresh.withRoots _ _
      have uses : w.UsesUp v := usesUp_of_listeners read.only.listeners
      refine (of_onlyCalls read).trans
        (.holding noState read.fresh (.notifyDeck held ?_ cause cards))
      exact fun entry mem => (readers entry mem).mono uses

end World

end StoryEngine
