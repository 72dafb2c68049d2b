import StoryEngine.Value

/-!
# Tokens of a condition

A condition such as `$gold >= 15 && $class == "wizard"` is made of tokens.

* `Comparison` — the six comparisons.
* `Token` — what stands between the white space of a condition; `Token.display` names one in a
  message.
* `Placed` — a token with the bytes of the text that spell it.
-/

namespace StoryEngine

/-- The comparisons of two values. -/
inductive Comparison where
  | eq
  | ne
  | lt
  | le
  | gt
  | ge
  deriving DecidableEq, Repr

/-- The name of a comparison. -/
def Comparison.name : Comparison → String
  | .eq => "Eq"
  | .ne => "Ne"
  | .lt => "Lt"
  | .le => "Le"
  | .gt => "Gt"
  | .ge => "Ge"

/-- A token of a condition.  `quality` is the name of a quality to look up. -/
inductive Token where
  | openParen
  | closeParen
  | and
  | or
  | not
  | compare (op : Comparison)
  | quality (name : String)
  | number (x : Float)
  | text (s : String)
  | truth (b : Bool)
  | null

/-- **A token as a message names it**: by one of its spellings, or by what it means. -/
def Token.display : Token → String
  | .openParen => "'('"
  | .closeParen => "')'"
  | .and => "'&&'"
  | .or => "'||'"
  | .not => "'!'"
  | .compare op => "operator " ++ op.name
  | .quality name => "variable $" ++ name
  | .number x => "literal " ++ (Value.number x).display
  | .text s => "literal " ++ (Value.text s).display
  | .truth b => "literal " ++ (Value.bool b).display
  | .null => "literal " ++ Value.null.display

/-- A token and the place of its spelling, from the byte `start` up to and without the byte
`stop`. -/
structure Placed where
  token : Token
  start : Nat
  stop : Nat

end StoryEngine
