/-!
# Push gates

One change of a state reaches a node by several pulses: from the state itself and from each child
that has changed.  The gate in front of the node's listeners admits only the first of them.

* `Gate.admits` — whether a pulse is admitted: a structural one, which has no revision, always is,
  one of a revision only if no pulse of that revision or a later one was admitted before.
* `Gate.after` — the gate after that pulse.
-/

namespace StoryEngine

/-- The revision of the last pulse that was admitted and had one. -/
structure Gate where
  last : Option Nat
  deriving DecidableEq, Repr

namespace Gate

/-- No pulse was admitted yet. -/
def fresh : Gate := ⟨none⟩

instance : Inhabited Gate := ⟨fresh⟩

/-- **Whether a pulse is admitted**, by its revision. -/
def admits (g : Gate) : Option Nat → Bool
  | none => true
  | some revision =>
    match g.last with
    | none => true
    | some last => last < revision

/-- The gate after a pulse of this revision was admitted. -/
def after (g : Gate) : Option Nat → Gate
  | none => g
  | some revision => ⟨some revision⟩

/-- After a pulse of a revision, only pulses of later revisions are admitted. -/
theorem admits_after (g : Gate) (revision next : Nat) :
    (g.after (some revision)).admits (some next) = decide (revision < next) := rfl

/-- A structural pulse leaves the gate as it was. -/
theorem after_none (g : Gate) : g.after none = g := rfl

end Gate

end StoryEngine
