import Mathlib.Data.Nat.Digits.Defs
import StoryEngine.Condition.Lexeme
import StoryEngine.Decimal.Nearest

/-!
# Spellings of tokens

Which characters spell which token, and which texts spell which tokens one after the other, said
without any way of finding out.

* `Numeral` — the spellings of a number without its sign, and which number they spell.
* `Token.SpelledAs` — the spellings of one token.  The connectives have two each, numbers and texts
  have many.  A float is spelled by all numerals of the numbers that it is the nearest float to.
* `SpelledOut` — a text that spells tokens, with white space between neighbours and wherever else
  it likes outside of tokens.
-/

namespace StoryEngine

open Decimal (Nearest isDigit)
open Text (isBlank width)

/-- The symbol of a comparison. -/
def Comparison.symbol : Comparison → List Char
  | .eq => ['=', '=']
  | .ne => ['!', '=']
  | .lt => ['<']
  | .le => ['<', '=']
  | .gt => ['>']
  | .ge => ['>', '=']

/-- The natural number that decimal digits are positions of, the last one that of the units. -/
def naturalOf (ds : List Char) : ℕ :=
  Nat.ofDigits 10 (ds.reverse.map fun c => c.toNat - '0'.toNat)

/-- **The spellings of a number without its sign**: digits, digits with a point and more digits, or
a point and digits.  Each digit after the point divides by ten. -/
inductive Numeral : List Char → ℚ → Prop where
  | whole {ds : List Char} :
      ds ≠ [] → (∀ c ∈ ds, isDigit c) → Numeral ds (naturalOf ds)
  | pointed {ds fs : List Char} :
      fs ≠ [] → (∀ c ∈ ds, isDigit c) → (∀ c ∈ fs, isDigit c) →
      Numeral (ds ++ '.' :: fs) (naturalOf (ds ++ fs) / 10 ^ fs.length)

/-- **The spellings of a text between two `quote`s.**  The quote and the backslash need a backslash
before them; any other character may have one. -/
inductive Escaped (quote : Char) : List Char → List Char → Prop where
  | nil : Escaped quote [] []
  | plain {c : Char} {body s : List Char} :
      c ≠ quote → c ≠ '\\' → Escaped quote body s → Escaped quote (c :: body) (c :: s)
  | backslash {c : Char} {body s : List Char} :
      Escaped quote body s → Escaped quote ('\\' :: c :: body) (c :: s)

/-- **The spellings of a token.** -/
inductive Token.SpelledAs : Token → List Char → Prop where
  | openParen : SpelledAs .openParen ['(']
  | closeParen : SpelledAs .closeParen [')']
  | andSymbol : SpelledAs .and ['&', '&']
  | andWord : SpelledAs .and ['a', 'n', 'd']
  | orSymbol : SpelledAs .or ['|', '|']
  | orWord : SpelledAs .or ['o', 'r']
  | notSymbol : SpelledAs .not ['!']
  | notWord : SpelledAs .not ['n', 'o', 't']
  | compare (op : Comparison) : SpelledAs (.compare op) op.symbol
  | quality {name : List Char} :
      name ≠ [] → (∀ c ∈ name, isNameChar c) →
      SpelledAs (.quality (String.ofList name)) ('$' :: name)
  | number {cs : List Char} {number : ℚ} {x : Float} :
      Numeral cs number → Nearest false number x → SpelledAs (.number x) cs
  | negative {cs : List Char} {number : ℚ} {x : Float} :
      Numeral cs number → Nearest true number x → SpelledAs (.number x) ('-' :: cs)
  | text {quote : Char} {body s : List Char} :
      quote = '"' ∨ quote = '\'' → Escaped quote body s →
      SpelledAs (.text (String.ofList s)) (quote :: body ++ [quote])
  | true : SpelledAs (.truth true) ['t', 'r', 'u', 'e']
  | false : SpelledAs (.truth false) ['f', 'a', 'l', 's', 'e']
  | null : SpelledAs .null ['n', 'u', 'l', 'l']

/-- A text that is empty or begins with white space. -/
def BeginsBlank : List Char → Prop
  | [] => True
  | c :: _ => isBlank c

instance : DecidablePred BeginsBlank
  | [] => inferInstanceAs (Decidable True)
  | c :: _ => inferInstanceAs (Decidable (isBlank c = true))

/-- **A text that spells tokens, each at its place**, from a byte position on.  What follows a
token begins with white space, so that it cannot be taken for more of the token. -/
inductive SpelledOut : Nat → List Placed → List Char → Prop where
  | blank {position : Nat} {cs : List Char} :
      (∀ c ∈ cs, isBlank c) → SpelledOut position [] cs
  | token {position start stop : Nat} {token : Token} {before spelling rest : List Char}
      {more : List Placed} :
      (∀ c ∈ before, isBlank c) → start = position + width before →
      token.SpelledAs spelling → stop = start + width spelling →
      BeginsBlank rest → SpelledOut stop more rest →
      SpelledOut position (⟨token, start, stop⟩ :: more) (before ++ spelling ++ rest)

end StoryEngine
