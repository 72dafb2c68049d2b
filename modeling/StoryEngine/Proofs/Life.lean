import Mathlib.Tactic.Common
import StoryEngine.World.Read

/-!
# Being alive, as a closure

What is alive is computed from the roots upwards: a deck is looked up among the roots, a card in the
decks, a set in the cards, an expression in the sets.  For proofs the other direction is the handy
one.  Being alive is the least property that the roots have and that owners hand down.

* `World.Alive` — that property, by its rules.
* `World.cardAlive_iff` and its like — it is what the world computes.
* `World.Alive.mono` — if all roots and all owned objects of a world are alive in another one, so is
  everything that is alive.
* `World.alive_hold` — to hold on to what is alive anyway makes nothing else alive.
-/

namespace StoryEngine.World

/-! ## Roots -/

theorem isRooted_iff {w : World} {h : Handle} :
    w.isRooted h ↔ h ∈ w.held ∨ ∃ name, (name, .handle h) ∈ w.names := by
  simp only [isRooted, Bool.or_eq_true, List.contains_iff_mem, List.any_eq_true, beq_iff_eq]
  refine or_congr Iff.rfl ⟨?_, ?_⟩
  · rintro ⟨⟨name, o⟩, mem, eq⟩
    cases o with
    | handle h' =>
        obtain rfl : h' = h := by simpa [Object.handle?] using eq
        exact ⟨name, mem⟩
    | weak s => simp [Object.handle?] at eq
    | plain e => simp [Object.handle?] at eq
    | subscription l => simp [Object.handle?] at eq
  · rintro ⟨name, mem⟩
    exact ⟨(name, .handle h), mem, rfl⟩

lemma mem_of_find? {w : World} {name : String} {o : Object} (h : w.find? name = some o) :
    (name, o) ∈ w.names := by
  obtain ⟨before, rest, eq, -⟩ := List.lookup_eq_some_iff.1 h
  rw [eq]
  exact List.mem_append_right _ List.mem_cons_self

lemma rooted_of_find? {w : World} {name : String} {h : Handle}
    (found : w.find? name = some (.handle h)) : w.isRooted h :=
  isRooted_iff.2 (.inr ⟨name, mem_of_find? found⟩)

lemma rooted_of_held {w : World} {h : Handle} (mem : h ∈ w.held) : w.isRooted h :=
  isRooted_iff.2 (.inl mem)

lemma isRooted_hold {w : World} {hs : List Handle} {h : Handle} :
    (w.hold hs).isRooted h ↔ h ∈ hs ∨ w.isRooted h := by
  simp only [isRooted_iff, hold, List.mem_append, or_assoc]

/-! ## The closure -/

/-- **Being alive**: the roots are alive, and whatever is owned by something alive.  A state and its
open batches keep each other alive. -/
inductive Alive (w : World) : Handle → Prop
  | root {h : Handle} (rooted : w.isRooted h) : Alive w h
  | state {s : StateId} (batch : Alive w (.batch s)) : Alive w (.state s)
  | batch {s : StateId} (state : Alive w (.state s)) : Alive w (.batch s)
  | card {d : DeckId} {c : CardId} (mem : c ∈ (w.deck d).cards) (deck : Alive w (.deck d)) :
      Alive w (.card c)
  | set {c : CardId} (bound : c.place < w.cards.size) (card : Alive w (.card c)) :
      Alive w (.set (w.card c).qualities)
  | expr {q : SetId} {e : ExprId} (mem : e ∈ w.members q) (set : Alive w (.set q)) :
      Alive w (.expr e)

/-- **Being alive carries over** to a world in which all roots of this one are alive, and all that
is owned here by what is alive there. -/
theorem Alive.mono {w w' : World} (root : ∀ h, w'.isRooted h → w.Alive h)
    (deck : ∀ d c, c ∈ (w'.deck d).cards → w.Alive (.deck d) → w.Alive (.card c))
    (card : ∀ c, c.place < w'.cards.size → w.Alive (.card c) →
      w.Alive (.set (w'.card c).qualities))
    (set : ∀ q e, e ∈ w'.members q → w.Alive (.set q) → w.Alive (.expr e)) {h : Handle}
    (alive : w'.Alive h) : w.Alive h := by
  induction alive with
  | root rooted => exact root _ rooted
  | state _ ih => exact .state ih
  | batch _ ih => exact .batch ih
  | card mem _ ih => exact deck _ _ mem ih
  | set bound _ ih => exact card _ bound ih
  | expr mem _ ih => exact set _ _ mem ih

/-! ## What the world computes -/

lemma rooted_or_of_state {w : World} {h : Handle} (alive : w.Alive h) (s : StateId)
    (eq : h = .state s ∨ h = .batch s) : w.isRooted (.state s) ∨ w.isRooted (.batch s) := by
  induction alive with
  | root rooted =>
      rcases eq with rfl | rfl
      · exact .inl rooted
      · exact .inr rooted
  | state _ ih =>
      rcases eq with eq | eq
      · exact ih (.inr (by rw [Handle.state.inj eq]))
      · cases eq
  | batch _ ih =>
      rcases eq with eq | eq
      · cases eq
      · exact ih (.inl (by rw [Handle.batch.inj eq]))
  | card => rcases eq with eq | eq <;> cases eq
  | set => rcases eq with eq | eq <;> cases eq
  | expr => rcases eq with eq | eq <;> cases eq

theorem stateAlive_iff {w : World} {s : StateId} : w.stateAlive s ↔ w.Alive (.state s) := by
  rw [stateAlive, Bool.or_eq_true]
  constructor
  · rintro (rooted | rooted)
    · exact .root rooted
    · exact .state (.root rooted)
  · intro alive
    exact rooted_or_of_state alive s (.inl rfl)

theorem deckAlive_iff {w : World} {d : DeckId} : w.deckAlive d ↔ w.Alive (.deck d) := by
  rw [deckAlive]
  constructor
  · exact .root
  · intro alive
    cases alive with
    | root rooted => exact rooted

lemma mem_places {α : Type} [Inhabited α] {t : Table α} {a : α} {i : Nat} :
    (a, i) ∈ t.places ↔ i < t.size ∧ t.get i = a := by
  rw [Table.places, List.mem_zipIdx_iff_getElem?, Table.size, Table.get,
    List.getD_eq_getElem?_getD]
  constructor
  · intro h
    obtain ⟨bound, eq⟩ := List.getElem?_eq_some_iff.1 h
    exact ⟨bound, by simp [h]⟩
  · rintro ⟨bound, eq⟩
    rw [List.getElem?_eq_getElem bound] at eq ⊢
    exact congrArg some eq

lemma deck_bound {w : World} {d : DeckId} {c : CardId} (mem : c ∈ (w.deck d).cards) :
    d.place < w.decks.size := by
  by_contra out
  rw [deck, Table.get_of_size_le (Nat.le_of_not_lt out)] at mem
  cases mem

lemma set_bound {w : World} {q : SetId} {e : ExprId} (mem : e ∈ w.members q) :
    q.place < w.sets.size := by
  by_contra out
  rw [members, World.set, Table.get_of_size_le (Nat.le_of_not_lt out)] at mem
  cases mem

theorem cardAlive_iff {w : World} {c : CardId} : w.cardAlive c ↔ w.Alive (.card c) := by
  simp only [cardAlive, Bool.or_eq_true, List.any_eq_true, Bool.and_eq_true, deckAlive_iff,
    List.contains_iff_mem, Prod.exists, mem_places]
  constructor
  · rintro (rooted | ⟨deck, place, ⟨-, rfl⟩, mem, alive⟩)
    · exact .root rooted
    · exact .card mem alive
  · intro alive
    cases alive with
    | root rooted => exact .inl rooted
    | card mem deck => exact .inr ⟨_, _, ⟨deck_bound mem, rfl⟩, mem, deck⟩

theorem setAlive_iff {w : World} {q : SetId} : w.setAlive q ↔ w.Alive (.set q) := by
  simp only [setAlive, Bool.or_eq_true, List.any_eq_true, Bool.and_eq_true, cardAlive_iff,
    beq_iff_eq, Prod.exists, mem_places]
  constructor
  · rintro (rooted | ⟨card, place, ⟨bound, rfl⟩, rfl, alive⟩)
    · exact .root rooted
    · exact .set (c := ⟨place⟩) bound alive
  · intro alive
    cases alive with
    | root rooted => exact .inl rooted
    | set bound card => exact .inr ⟨_, _, ⟨bound, rfl⟩, rfl, card⟩

theorem exprAlive_iff {w : World} {e : ExprId} : w.exprAlive e ↔ w.Alive (.expr e) := by
  simp only [exprAlive, Bool.or_eq_true, List.any_eq_true, Bool.and_eq_true, setAlive_iff,
    beq_iff_eq, Prod.exists, mem_places]
  constructor
  · rintro (rooted | ⟨set, place, ⟨-, rfl⟩, ⟨m, mem, rfl⟩, alive⟩)
    · exact .root rooted
    · exact .expr (q := ⟨place⟩) (List.mem_map_of_mem mem) alive
  · intro alive
    cases alive with
    | root rooted => exact .inl rooted
    | expr mem set =>
        have bound := set_bound mem
        obtain ⟨m, mem, eq⟩ := List.mem_map.1 mem
        exact .inr ⟨_, _, ⟨bound, rfl⟩, ⟨m, mem, eq⟩, set⟩

/-! ## Holding on -/

lemma alive_of_held {w : World} {h : Handle} (mem : h ∈ w.held) : w.Alive h :=
  .root (rooted_of_held mem)

/-- If all roots of a world are alive with other names and holds, then so is everything alive. -/
theorem Alive.of_roots {w : World} {names : List (String × Object)} {held : List Handle}
    (root : ∀ h, ({ w with names, held } : World).isRooted h → w.Alive h) {h : Handle}
    (alive : ({ w with names, held } : World).Alive h) : w.Alive h :=
  Alive.mono root (fun _ _ mem => .card (w := w) mem) (fun _ bound => .set (w := w) bound)
    (fun _ _ mem => .expr (w := w) mem) alive

/-- **To hold on to what is alive makes nothing else alive.** -/
theorem alive_hold {w : World} {hs : List Handle} (alive : ∀ h ∈ hs, w.Alive h) {h : Handle} :
    (w.hold hs).Alive h ↔ w.Alive h := by
  have root : ∀ h, (w.hold hs).isRooted h → w.Alive h := by
    intro h rooted
    rcases isRooted_hold.1 rooted with mem | rooted
    · exact alive h mem
    · exact .root rooted
  have kept : ∀ h, w.isRooted h → (w.hold hs).Alive h := by
    intro h rooted
    exact .root (isRooted_hold.2 (.inr rooted))
  exact ⟨Alive.of_roots root,
    Alive.mono kept (fun _ _ mem => .card (w := w.hold hs) mem)
      (fun _ bound => .set (w := w.hold hs) bound)
      (fun _ _ mem => .expr (w := w.hold hs) mem)⟩

end StoryEngine.World
