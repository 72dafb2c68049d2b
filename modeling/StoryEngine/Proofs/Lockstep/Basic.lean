import StoryEngine.Proofs.SameButTrace
import StoryEngine.Proofs.Transaction

/-!
# Two runs in lockstep

Two runs are followed side by side.  Their worlds are the same but for what was recorded in them,
and the visible events of both are the same; and the first of them has a property that every
transaction keeps.  The runs stay in lockstep as long as their listeners do.

* `Matched` — two worlds that are the same but for their traces, with the property.
* **`Lockstep`** — two ways on from such worlds, which hold on to the same objects as before.
* `LockstepReactions` — two ways in which listeners react that keep runs in lockstep.
* `Matched.still`, `Matched.move` — a transaction in both runs.
* `Matched.holding`, `Matched.round` — operations that hold on to objects, and rounds.
-/

namespace StoryEngine

/-- **Two worlds that match**: one is the other but for its trace, and that one has the property. -/
structure Matched (visible : Event → Bool) (Holds : World → Prop) (w v : World) : Prop where
  butTrace : SameButTrace visible w v
  kept : Holds w

/-- **Two ways on in lockstep**: they come to worlds that match again, and hold on to the same
objects. -/
structure Lockstep (visible : Event → Bool) (Holds : World → Prop) (w after other : World) : Prop
    extends Matched visible Holds after other where
  held : after.held = w.held

/-- The same for ways on that have an outcome. -/
structure LockstepFor (visible : Event → Bool) (Holds : World → Prop) {α : Type} (w : World)
    (after other : World × α) : Prop where
  world : Lockstep visible Holds w after.1 other.1
  outcome : after.2 = other.2

/-- **Two ways of reacting in lockstep**: whoever is called, worlds that match go on to worlds that
match. -/
def LockstepReactions (visible : Event → Bool) (Holds : World → Prop) (react other : Reaction) :
    Prop :=
  ∀ l payload w v, Matched visible Holds w v →
    Lockstep visible Holds w (react l payload w) (other l payload v)

section
variable {visible : Event → Bool} {Holds : World → Prop} {α β : Type} {w v : World}

lemma Matched.start (h : Matched visible Holds w v) : Lockstep visible Holds w w v :=
  ⟨h, rfl⟩

lemma Lockstep.trans {after other after' other' : World} (h : Lockstep visible Holds w after other)
    (h' : Lockstep visible Holds after after' other') : Lockstep visible Holds w after' other' :=
  ⟨h'.toMatched, h'.held.trans h.held⟩

lemma Lockstep.transFor {after other : World} {p q : World × α}
    (h : Lockstep visible Holds w after other) (h' : LockstepFor visible Holds after p q) :
    LockstepFor visible Holds w p q :=
  ⟨h.trans h'.world, h'.outcome⟩

/-- An outcome that is made up afterwards. -/
lemma Lockstep.with {after other : World} (h : Lockstep visible Holds w after other) (a : α) :
    LockstepFor visible Holds w (after, a) (other, a) :=
  ⟨h, rfl⟩

lemma Matched.with (h : Matched visible Holds w v) (a : α) :
    LockstepFor visible Holds w (w, a) (v, a) :=
  h.start.with a

/-- Two ways on with the same outcome, by their parts. -/
lemma LockstepFor.elim {p q : World × α} (h : LockstepFor visible Holds w p q) :
    ∃ after other a, p = (after, a) ∧ q = (other, a) ∧ Lockstep visible Holds w after other := by
  obtain ⟨after, a⟩ := p
  obtain ⟨other, b⟩ := q
  obtain ⟨world, outcome⟩ := h
  obtain rfl : a = b := outcome
  exact ⟨after, other, a, rfl, rfl, world⟩

lemma LockstepFor.map {p q : World × α} (h : LockstepFor visible Holds w p q) (f : α → β) :
    LockstepFor visible Holds w (p.map id f) (q.map id f) :=
  ⟨h.world, congrArg f h.outcome⟩

/-- One step after the other, over a list. -/
lemma Matched.foldl {step other : World → β → World} (h : Matched visible Holds w v)
    (each : ∀ b w v, Matched visible Holds w v → Lockstep visible Holds w (step w b) (other v b))
    (bs : List β) : Lockstep visible Holds w (bs.foldl step w) (bs.foldl other v) := by
  induction bs generalizing w v with
  | nil => exact h.start
  | cons b rest ih =>
      have first := each b w v h
      exact first.trans (ih first.toMatched)

/-! ## Transactions in both runs -/

section
variable {licence : Licence} (upheld : Upheld licence Holds)
include upheld

lemma Matched.move (h : Matched visible Holds w v) {after other : World} {gone : List NodeId}
    (butTrace : SameButTrace visible after other) (done : Transaction licence w gone after)
    (held : after.held = w.held) : Lockstep visible Holds w after other :=
  ⟨⟨butTrace, upheld h.kept done⟩, held⟩

lemma Matched.moveFor (h : Matched visible Holds w v) {p q : World × α} {gone : List NodeId}
    (butTrace : SameButTraceFor visible p q) (done : Transaction licence w gone p.1)
    (held : p.1.held = w.held) : LockstepFor visible Holds w p q :=
  ⟨h.move upheld butTrace.world done held, butTrace.outcome⟩

lemma Matched.still (h : Matched visible Holds w v) {after other : World}
    (butTrace : SameButTrace visible after other) (still : w.Still after) :
    Lockstep visible Holds w after other :=
  h.move upheld butTrace (.still still) still.held

lemma Matched.read (h : Matched visible Holds w v) {p q : World × α}
    (butTrace : SameButTraceFor visible p q)
    (only : w.CachesOnly p.1) : LockstepFor visible Holds w p q :=
  h.moveFor upheld butTrace (.still only.still) only.held

lemma Matched.record (h : Matched visible Holds w v) (event : Event) :
    Lockstep visible Holds w (w.record event) (v.record event) :=
  h.still upheld (h.butTrace.record event) (World.still_record event w)

lemma Matched.note (h : Matched visible Holds w v) (n : Note) :
    Lockstep visible Holds w (w.note n) (v.note n) :=
  h.record upheld (.note n)

/-! ## Holding on -/

lemma Matched.hold (h : Matched visible Holds w v) {hs : List Handle}
    (offered : ∀ x ∈ hs, w.Offers x) : Matched visible Holds (w.hold hs) (v.hold hs) := by
  refine ⟨h.butTrace.hold hs, upheld h.kept (.hold (hs ++ w.held) fun x mem => ?_)⟩
  rcases List.mem_append.1 mem with mem | mem
  · exact offered x mem
  · exact World.offers_of_held mem

/-- What was held before is all that is held after. -/
lemma Matched.letGo (h : Matched visible Holds w v) {hs : List Handle} {after other : World}
    (inside : Lockstep visible Holds (w.hold hs) after other) :
    Lockstep visible Holds w { after with held := w.held } { other with held := v.held } := by
  have release : Transaction licence after [] { after with held := w.held } :=
    .hold w.held fun x mem => World.offers_of_held (inside.held ▸ List.mem_append_right hs mem)
  have butTrace := inside.butTrace.withHeld w.held
  rw [h.butTrace.held]
  exact ⟨⟨butTrace, upheld inside.kept release⟩, rfl⟩

/-- **An operation during which some objects are held on to.** -/
lemma Matched.holding (h : Matched visible Holds w v) {hs : List Handle}
    (offered : ∀ x ∈ hs, w.Offers x) {op op' : World → World}
    (body : Matched visible Holds (w.hold hs) (v.hold hs) →
      Lockstep visible Holds (w.hold hs) (op (w.hold hs)) (op' (v.hold hs))) :
    Lockstep visible Holds w (w.holding hs op) (v.holding hs op') :=
  h.letGo upheld (body (h.hold upheld offered))

/-- The same for an operation with an outcome. -/
lemma Matched.holdingFor (h : Matched visible Holds w v) {hs : List Handle}
    (offered : ∀ x ∈ hs, w.Offers x) {op op' : World → World × α}
    (body : Matched visible Holds (w.hold hs) (v.hold hs) →
      LockstepFor visible Holds (w.hold hs) (op (w.hold hs)) (op' (v.hold hs))) :
    LockstepFor visible Holds w (w.holdingFor hs op) (v.holdingFor hs op') := by
  have inside := body (h.hold upheld offered)
  exact ⟨h.letGo upheld inside.world, inside.outcome⟩

omit upheld in
lemma offers_singleton {x : Handle} (offered : w.Offers x) : ∀ y ∈ [x], w.Offers y := by
  intro y mem
  rwa [List.mem_singleton.1 mem]

end

/-! ## Rounds -/

/-- **A round**, if what it goes by is the same in both worlds. -/
lemma Matched.round {α : Type} {entries : World → List (Nat × α)}
    {isActive : World → Nat × α → Bool} {call call' : α → World → World}
    (h : Matched visible Holds w v) (same : entries v = entries w)
    (active : ∀ {w v} entry, SameButTrace visible w v → isActive v entry = isActive w entry)
    (each : ∀ entry w v, Matched visible Holds w v → isActive w entry →
      Lockstep visible Holds w (call entry.2 w) (call' entry.2 v)) :
    Lockstep visible Holds w (w.round entries isActive call) (v.round entries isActive call') := by
  unfold World.round
  rw [same]
  refine h.foldl (fun entry w v h => ?_) _
  rw [active entry h.butTrace]
  split
  · next isActive => exact each entry w v h isActive
  · exact h.start

end

end StoryEngine
