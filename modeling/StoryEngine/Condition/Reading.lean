import StoryEngine.Condition.Error
import StoryEngine.Condition.Tree

/-!
# From tokens to a condition

Tokens are read one by one.  What is still open to the left of the place reached is a stack of
`Frame`s, and at every place either an operand or an operator is due (`Phase`).

* `Operator` — the operators that stand between operands, with their `strength`: `or` binds
  loosest, then `and`, then the comparisons; all of them associate to the left.
* `close` — finishes everything open that binds at least as tightly as what comes next.
* `Phase.read` — what one more token does; nothing if it cannot stand there.
* `nesting` — open parentheses plus operators, which bounds the height of the tree.
* `Condition.ofTokens` — reads all tokens; the first token that cannot stand where it stands is the
  error, and if there is none the tokens may still end too early.

The prefix `not` binds tighter than any operator between operands, also on their right: it waits on
the stack for its operand only, so the next operator closes it.
-/

namespace StoryEngine

/-- An operator between two operands. -/
inductive Operator where
  | or
  | and
  | compare (op : Comparison)
  deriving DecidableEq, Repr

namespace Operator

/-- How tightly an operator binds. -/
def strength : Operator → Nat
  | .or => 1
  | .and => 2
  | .compare _ => 3

/-- The condition that an operator makes of its operands. -/
def join : Operator → Condition → Condition → Condition
  | .or, a, b => .or a b
  | .and, a, b => .and a b
  | .compare op, a, b => .compare op a b

end Operator

/-- The operator that a token stands for, if it is one between operands. -/
def Token.operator? : Token → Option Operator
  | .or => some .or
  | .and => some .and
  | .compare op => some (.compare op)
  | _ => none

/-- The condition that a token is by itself. -/
def Token.atom? : Token → Option Condition
  | .quality name => some (.quality name)
  | .number x => some (.literal (.number x))
  | .text s => some (.literal (.text s))
  | .truth b => some (.literal (.bool b))
  | .null => some (.literal .null)
  | _ => none

/-! ## What is open -/

/-- Something open to the left of the place reached: a `not` that waits for its operand, an
operator with its left operand, or a parenthesis. -/
inductive Frame where
  | negation
  | right (op : Operator) (left : Condition)
  | paren

/-- **Finishing what binds at least as tightly as `strength`.**  An open parenthesis stops it. -/
def close (strength : Nat) : List Frame → Condition → List Frame × Condition
  | .negation :: frames, c => close strength frames (.not c)
  | .right op left :: frames, c =>
    if strength ≤ op.strength then close strength frames (op.join left c)
    else (.right op left :: frames, c)
  | frames, c => (frames, c)

section

variable {strength : Nat} {op : Operator}

theorem close_negation (frames : List Frame) (c : Condition) :
    close strength (.negation :: frames) c = close strength frames (.not c) := rfl

/-- An operator is finished that binds at least as tightly as what comes next. -/
theorem close_right_of_le (le : strength ≤ op.strength) (left : Condition) (frames : List Frame)
    (c : Condition) :
    close strength (.right op left :: frames) c = close strength frames (op.join left c) :=
  if_pos le

/-- An operator stays open that binds less tightly. -/
theorem close_right_of_lt (lt : op.strength < strength) (left : Condition) (frames : List Frame)
    (c : Condition) :
    close strength (.right op left :: frames) c = (.right op left :: frames, c) :=
  if_neg (Nat.not_le.mpr lt)

end

/-- What is due at a place: an operand, or an operator after the operand just read. -/
inductive Phase where
  | operand (frames : List Frame)
  | operator (frames : List Frame) (last : Condition)

/-- **What one more token does**; nothing if it cannot stand there. -/
def Phase.read : Phase → Token → Option Phase
  | .operand frames, .openParen => some (.operand (.paren :: frames))
  | .operand frames, .not => some (.operand (.negation :: frames))
  | .operand frames, token => token.atom?.map (.operator frames)
  | .operator frames last, .closeParen =>
    match close 0 frames last with
    | (.paren :: outer, inner) => some (.operator outer inner)
    | _ => none
  | .operator frames last, token =>
    token.operator?.map fun op =>
      let (outer, left) := close op.strength frames last
      .operand (.right op left :: outer)

/-- The condition, if everything open can be finished here. -/
def Phase.finish? : Phase → Option Condition
  | .operand _ => none
  | .operator frames last =>
    match close 0 frames last with
    | ([], c) => some c
    | _ => none

/-- **Reading tokens from a phase on.** -/
def Phase.run : Phase → List Placed → Except ConditionError Condition
  | phase, [] =>
    match phase.finish? with
    | some c => .ok c
    | none => .error .unexpectedEnd
  | phase, placed :: rest =>
    match phase.read placed.token with
    | some next => next.run rest
    | none => .error (.unexpectedToken placed.token.display placed.start)

/-! ## Nesting -/

/-- The most open parentheses plus operators that a condition may have. -/
def maxNesting : Nat := 64

/-- The greatest number of parentheses open at once, when `opened` are open already and `deepest`
were so far.  A closing parenthesis without an open one is not counted. -/
def deepestParens : (opened deepest : Nat) → List Token → Nat
  | _, deepest, [] => deepest
  | opened, deepest, .openParen :: rest =>
    deepestParens (opened + 1) (max deepest (opened + 1)) rest
  | opened, deepest, .closeParen :: rest => deepestParens (opened - 1) deepest rest
  | opened, deepest, _ :: rest => deepestParens opened deepest rest

/-- Whether a token is an operator, between operands or before one. -/
def Token.isOperator (token : Token) : Bool :=
  match token with
  | .not => true
  | _ => token.operator?.isSome

/-- **Open parentheses plus operators.** -/
def nesting (tokens : List Token) : Nat :=
  deepestParens 0 0 tokens + tokens.countP Token.isOperator

/-! ## All tokens -/

/-- **The condition that a list of tokens spells**, or what is wrong with it.  No tokens are no
condition, and too many open parentheses and operators are refused before anything is read. -/
def Condition.ofTokens (tokens : List Placed) : Except ConditionError Condition :=
  if tokens.isEmpty then .error .empty
  else if maxNesting < nesting (tokens.map Placed.token) then .error (.tooDeep maxNesting)
  else (Phase.operand []).run tokens

end StoryEngine
