import StoryEngine.Node.Cache
import StoryEngine.Node.Kind
import StoryEngine.Value

/-!
# Answers

What a step of a script answers, and what can be seen of an object between steps.

* `Fault` — why a step could not be done.
* `CardView`, `Observation` — what is shown of a card, and of any object.
* `Answer` — the answer of a step.
-/

namespace StoryEngine

/-- Why a step could not be done. -/
inductive Fault where
  /-- no object of the needed kind has this name -/
  | noObject (name : String)
  | value (fault : ValueFault)
  | node (fault : NodeFault)
  /-- a hash that is spelled wrongly -/
  | hash
  /-- a configuration that cannot be read -/
  | config

/-- A card in an answer, with the first of its names. -/
structure CardView where
  name : Option String
  content : String
  hash : String
  deriving DecidableEq, Repr

/-- What can be seen of any node. -/
structure NodeView where
  bound : Bool
  disposed : Bool
  listeners : Nat
  deriving DecidableEq, Repr

/-- **What can be seen of an object.** -/
inductive Observation where
  | state (revision size listeners : Nat) (batch : Bool)
  | expr (node : NodeView) (cond : String) (cache : Cache.Status)
  | set (node : NodeView) (conds : List String) (cache : Cache.Status)
  | card (node : NodeView) (content : String) (conds : List String) (cache : Cache.Status)
  | deck (node : NodeView) (cards : List String)
  | board (listeners : Nat)
  | weak (alive : Bool)
  | plain (source : String) (valid : Bool)
  | subscription
  | batch
  deriving DecidableEq, Repr

/-- **The answer of a step.** -/
inductive Answer where
  /-- there is nothing to say -/
  | null
  /-- an object was stored -/
  | stored
  /-- there is no such thing -/
  | none
  /-- the state is gone -/
  | dead
  | flag (b : Bool)
  | count (n : Nat)
  | text (s : String)
  | value (v : Option Value)
  | texts (ss : List String)
  | contents (pairs : List (String × Value))
  | size (n : Nat)
  | cache (status : Cache.Status)
  | name (n : Option String)
  | card (c : CardView)
  | cards (cs : List CardView)
  | observation (o : Option Observation)
  | fault (f : Fault)

/-- The answer of a step that may fail at a node. -/
def Answer.ofExcept {α : Type} (answer : α → Answer) : Except NodeFault α → Answer
  | .ok a => answer a
  | .error f => .fault (.node f)

end StoryEngine
