import StoryEngine.Text.Quoted

/-!
# What can be wrong with a condition

One cause for each way in which a text fails to be a condition, and the wording of each.  Places
are byte positions in the text.
-/

namespace StoryEngine

/-- Why a text is no condition. -/
inductive ConditionError where
  /-- nothing but white space -/
  | empty
  /-- a character that no token begins or goes on with -/
  | unexpectedCharacter (c : Char) (position : Nat)
  /-- a word that means nothing here -/
  | invalidToken (text : String) (position : Nat)
  /-- a token that cannot stand where it stands -/
  | unexpectedToken (found : String) (position : Nat)
  /-- the text stops before the condition does -/
  | unexpectedEnd
  /-- more open parentheses and operators than allowed -/
  | tooDeep (limit : Nat)
  deriving DecidableEq, Repr

namespace ConditionError

/-- The wording of each cause. -/
def message : ConditionError → String
  | .empty => "condition is empty"
  | .unexpectedCharacter c position =>
    "unexpected character " ++ Text.Quoted.character c ++ " at position " ++ toString position
  | .invalidToken text position =>
    "invalid token " ++ Text.Quoted.text text ++ " at position " ++ toString position
  | .unexpectedToken found position =>
    "unexpected " ++ found ++ " at position " ++ toString position
  | .unexpectedEnd => "unexpected end of condition"
  | .tooDeep limit => "condition nests deeper than " ++ toString limit ++ " levels"

/-- The name of each cause. -/
def kind : ConditionError → String
  | .empty => "Empty"
  | .unexpectedCharacter .. => "UnexpectedCharacter"
  | .invalidToken .. => "InvalidToken"
  | .unexpectedToken .. => "UnexpectedToken"
  | .unexpectedEnd => "UnexpectedEnd"
  | .tooDeep _ => "TooDeep"

end ConditionError

end StoryEngine
