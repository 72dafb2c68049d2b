import StoryEngine.Condition.Parse

/-!
# Expressions

A quality condition as an author writes it: a text, with what came of reading it.

* `Expression.new` — reads the text once; it may fail.
* `Expression.evaluate` — whether the condition holds, or why the text is no condition.
* `Expression.check` — the same, with a faulty condition counting as unmet.
-/

namespace StoryEngine

/-- The text of a condition and the condition it spells, or the error in it. -/
structure Expression where
  source : String
  compiled : Except ConditionError Condition

namespace Expression

/-- The expression of a text. -/
def new (source : String) : Expression :=
  ⟨source, Condition.parse source⟩

instance : Inhabited Expression := ⟨new ""⟩

/-- Whether the text is a condition. -/
def isValid (e : Expression) : Bool :=
  match e.compiled with
  | .ok _ => true
  | .error _ => false

/-- The error in the text, if there is one. -/
def error? (e : Expression) : Option ConditionError :=
  match e.compiled with
  | .ok _ => none
  | .error fault => some fault

/-- **Whether the condition holds**, or the error in its text. -/
def evaluate (e : Expression) (look : Condition.Lookup) : Except ConditionError Bool :=
  match e.compiled with
  | .ok c => .ok (c.holds look)
  | .error fault => .error fault

/-- **Whether the condition is met.**  A text that is no condition is never met. -/
def check (e : Expression) (look : Condition.Lookup) : Bool :=
  match e.evaluate look with
  | .ok b => b
  | .error _ => false

/-- Sameness of expressions: the same text, read to the same condition or the same error. -/
def same (e f : Expression) : Bool :=
  e.source == f.source &&
    match e.compiled, f.compiled with
    | .ok c, .ok d => c.same d
    | .error a, .error b => a == b
    | _, _ => false

end Expression

end StoryEngine
