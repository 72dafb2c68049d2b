import StoryEngine.Condition.Reading

/-!
# The grammar of conditions

What tokens spell which condition, said without any way of finding out.

```text
disjunction := conjunction ("||" conjunction)*
conjunction := comparison ("&&" comparison)*
comparison  := unary (("==" | "!=" | ">=" | "<=" | ">" | "<") unary)*
unary       := "!" unary | "(" disjunction ")" | atom
```

`Spells strength tokens c` says that the tokens spell `c` with nothing outside parentheses that
binds looser than `strength`: `1` admits everything, `4` only a unary condition.  The left operand
of an operator may have the operator's own strength and the right one may not, so chains associate
to the left.
-/

namespace StoryEngine

/-- **The tokens spell the condition, binding at least as tightly as the strength says.** -/
inductive Spells : Nat → List Token → Condition → Prop where
  /-- a token that is a condition by itself -/
  | atom {strength : Nat} {token : Token} {c : Condition} :
      token.atom? = some c → Spells strength [token] c
  /-- a condition in parentheses is that condition -/
  | paren {strength : Nat} {tokens : List Token} {c : Condition} :
      Spells 1 tokens c → Spells strength (.openParen :: tokens ++ [.closeParen]) c
  /-- the operand of `not` is unary -/
  | not {strength : Nat} {tokens : List Token} {c : Condition} :
      Spells 4 tokens c → Spells strength (.not :: tokens) (.not c)
  /-- an operator with its two operands -/
  | operator {strength : Nat} {token : Token} {op : Operator} {lefts rights : List Token}
      {left right : Condition} :
      strength ≤ op.strength → token.operator? = some op →
      Spells op.strength lefts left → Spells (op.strength + 1) rights right →
      Spells strength (lefts ++ token :: rights) (op.join left right)

/-- A sentence of the grammar. -/
def Sentence (tokens : List Token) (c : Condition) : Prop :=
  Spells 1 tokens c

/-- Tokens that can go on to a sentence. -/
def Viable (tokens : List Token) : Prop :=
  ∃ more c, Sentence (tokens ++ more) c

end StoryEngine
