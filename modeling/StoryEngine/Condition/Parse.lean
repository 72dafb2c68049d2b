import StoryEngine.Condition.Lexeme
import StoryEngine.Condition.Reading

/-!
# From text to a condition

`Condition.parse` reads the text of a condition.  Of several faults the earliest stage wins: a
text that cannot be cut into tokens is faulted there, whatever its tokens would spell.
-/

namespace StoryEngine

/-- **The condition that a text spells**, or what is wrong with it. -/
def Condition.parse (source : String) : Except ConditionError Condition :=
  match Token.ofText source with
  | .error fault => .error fault
  | .ok tokens => Condition.ofTokens tokens

/-- `not` takes the operand next to it, and `and` binds tighter than `or`. -/
example : (Condition.parse "not $a == 1 || $b && $c").toOption.any (·.same
    (.or (.compare .eq (.not (.quality "a")) (.literal (.number 1)))
      (.and (.quality "b") (.quality "c")))) := by
  decide +kernel

end StoryEngine
