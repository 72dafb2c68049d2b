import StoryEngine.Condition.Token

/-!
# Conditions

A condition is a tree of literals, looked-up qualities and operators.

* `Condition` — the tree; parentheses leave no node in it.
* `Condition.evaluate` — its value, given what each quality is.
* `Condition.lookups` — the qualities looked up on the way, in order and with repeats.
* `Condition.names` — the qualities that occur in it, each once, in order of first occurrence.

The connectives decide from left to right and leave the right operand alone once the left one has
decided; a comparison looks at both operands.
-/

namespace StoryEngine

/-- A condition. -/
inductive Condition where
  | literal (v : Value)
  | quality (name : String)
  | not (operand : Condition)
  | and (left right : Condition)
  | or (left right : Condition)
  | compare (op : Comparison) (left right : Condition)

namespace Condition

instance : Inhabited Condition := ⟨.literal .null⟩

/-- What each quality is; none if it was never set. -/
abbrev Lookup := String → Option Value

/-! ## Comparing values -/

/-- **Whether one value comes strictly before another.**  Numbers are in order of size and texts in
the order of their characters; anything else is in no order. -/
def before : Value → Value → Bool
  | .number x, .number y => x < y
  | .text s, .text t => s < t
  | _, _ => false

/-- Whether one value comes before another or is level with it.  The undefined number is level
with nothing. -/
def notAfter : Value → Value → Bool
  | .number x, .number y => x <= y
  | .text s, .text t => s < t || s == t
  | _, _ => false

end Condition

/-- The outcome of a comparison.  Values of different kinds are unequal and in no order. -/
def Comparison.holds : Comparison → Value → Value → Bool
  | .eq, a, b => a == b
  | .ne, a, b => !(a == b)
  | .lt, a, b => Condition.before a b
  | .le, a, b => Condition.notAfter a b
  | .gt, a, b => Condition.before b a
  | .ge, a, b => Condition.notAfter b a

namespace Condition

/-! ## Value and lookups -/

/-- **The value of a condition.**  A quality that was never set counts as nothing. -/
def evaluate (look : Lookup) : Condition → Value
  | .literal v => v
  | .quality name => (look name).getD .null
  | .not c => .bool (!(c.evaluate look).isTruthy)
  | .and a b => .bool ((a.evaluate look).isTruthy && (b.evaluate look).isTruthy)
  | .or a b => .bool ((a.evaluate look).isTruthy || (b.evaluate look).isTruthy)
  | .compare op a b => .bool (op.holds (a.evaluate look) (b.evaluate look))

/-- Whether a condition holds. -/
def holds (look : Lookup) (c : Condition) : Bool :=
  (c.evaluate look).isTruthy

/-- **The qualities that evaluation looks up**, in order.  A connective whose left operand has
decided looks up nothing on its right. -/
def lookups (look : Lookup) : Condition → List String
  | .literal _ => []
  | .quality name => [name]
  | .not c => c.lookups look
  | .and a b => a.lookups look ++ if a.holds look then b.lookups look else []
  | .or a b => a.lookups look ++ if a.holds look then [] else b.lookups look
  | .compare _ a b => a.lookups look ++ b.lookups look

/-- The qualities of a condition as they occur, from left to right. -/
def occurrences : Condition → List String
  | .literal _ => []
  | .quality name => [name]
  | .not c => c.occurrences
  | .and a b => a.occurrences ++ b.occurrences
  | .or a b => a.occurrences ++ b.occurrences
  | .compare _ a b => a.occurrences ++ b.occurrences

/-- Adding a name to a list that does not hold it yet. -/
def addNew (names : List String) (name : String) : List String :=
  if names.contains name then names else names ++ [name]

/-- Adding the qualities of a condition to the names found so far. -/
def collect (names : List String) : Condition → List String
  | .literal _ => names
  | .quality name => addNew names name
  | .not c => c.collect names
  | .and a b => b.collect (a.collect names)
  | .or a b => b.collect (a.collect names)
  | .compare _ a b => b.collect (a.collect names)

/-- **The qualities of a condition**, each once, in order of first occurrence. -/
def names (c : Condition) : List String :=
  c.collect []

/-! ## Shape -/

/-- An item of a condition written out with the operators after their operands. -/
inductive Item where
  | literal (v : Value)
  | quality (name : String)
  | not
  | and
  | or
  | compare (op : Comparison)

/-- **A condition with every operator after its operands**, the left operand first. -/
def operandsFirst : Condition → List Item
  | .literal v => [.literal v]
  | .quality name => [.quality name]
  | .not c => c.operandsFirst ++ [.not]
  | .and a b => a.operandsFirst ++ b.operandsFirst ++ [.and]
  | .or a b => a.operandsFirst ++ b.operandsFirst ++ [.or]
  | .compare op a b => a.operandsFirst ++ b.operandsFirst ++ [.compare op]

/-- The number of operators. -/
def operators : Condition → Nat
  | .literal _ => 0
  | .quality _ => 0
  | .not c => c.operators + 1
  | .and a b => a.operators + b.operators + 1
  | .or a b => a.operators + b.operators + 1
  | .compare _ a b => a.operators + b.operators + 1

/-- The longest way down from the top, counted in nodes. -/
def height : Condition → Nat
  | .literal _ => 1
  | .quality _ => 1
  | .not c => c.height + 1
  | .and a b => max a.height b.height + 1
  | .or a b => max a.height b.height + 1
  | .compare _ a b => max a.height b.height + 1

/-- Sameness of conditions: the same tree over the same values. -/
def same : Condition → Condition → Bool
  | .literal v, .literal w => v == w
  | .quality m, .quality n => m == n
  | .not a, .not b => a.same b
  | .and a b, .and c d => a.same c && b.same d
  | .or a b, .or c d => a.same c && b.same d
  | .compare o a b, .compare p c d => o == p && a.same c && b.same d
  | _, _ => false

end Condition

end StoryEngine
