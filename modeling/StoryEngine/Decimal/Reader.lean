import StoryEngine.Decimal.Shortest

/-!
# Reading numbers

A decimal is read as the float nearest to it, ties going to the even neighbour.

* `nearestBits` — the float nearest to a quotient, by exact arithmetic on natural numbers.
* `Digits.toFloat` — the float nearest to a decimal.
* `ofDigits` — the decimal spelled by digits before and after a point.
* `read?` — the text of a number: an optional sign, then digits with an optional point and an
  optional exponent, or one of the words for what is no finite number.
-/

namespace StoryEngine.Decimal

/-- The number spelled by decimal digits. -/
def natOfDigits (ds : List Char) : Nat :=
  ds.foldl (fun n d => 10 * n + (d.toNat - '0'.toNat)) 0

/-- The bits of the infinite float, next to those of the largest finite one. -/
def infinityBits : Nat := 2047 * Magnitude.hiddenBit

/-- A quotient as a whole number, the nearer of its neighbours.  Halfway between them it is the even
one. -/
def roundedQuotient (num den : Nat) : Nat :=
  let below := num / den
  match compare (2 * (num % den)) den with
  | .lt => below
  | .eq => below + below % 2
  | .gt => below + 1

/-- The least positive float is two to this power, negated. -/
def leastPower : Nat := 1074

/-- How many steps of the least positive float make one. -/
def stepsOfOne : Nat := Nat.pow 2 leastPower

/-- **The bits of the float nearest to a quotient**, as if there were no largest one.  The quotient
is counted in steps of the least positive float.  Bits of their number beyond the fifty-three of a
mantissa make the scale, and the mantissa is the quotient rounded to the unit of this scale. -/
def nearestBits (num den : Nat) : Nat :=
  let steps := num * stepsOfOne
  let scale := (steps / den).log2 - 52
  scale * Magnitude.hiddenBit + roundedQuotient steps (den * Nat.pow 2 scale)

/-- **The float nearest to a decimal.**  Beyond four hundred powers of ten the answer is infinite
or zero whatever the digits are, so no huge power is computed. -/
def Digits.toFloat (d : Digits) : Float :=
  let leading := d.exponent + (Nat.toDigits 10 d.digits).length
  let bits :=
    if d.digits = 0 ∨ leading < -400 then 0
    else if 400 < leading then infinityBits
    else
      min infinityBits
        (nearestBits (d.digits * Nat.pow 10 d.exponent.toNat) (Nat.pow 10 (-d.exponent).toNat))
  Float.ofBits (.ofNat bits)

/-- One tenth is no float; the nearest one is a little more. -/
example : (Digits.toFloat ⟨1, -1⟩).toBits = 0x3FB999999999999A := by decide +kernel

/-- Halfway between two floats the one with an even mantissa is taken. -/
example : Digits.toFloat ⟨9007199254740993, 0⟩ = 9007199254740992 := by decide +kernel

/-- Half of the least positive float is rounded to zero, and anything more than it is not. -/
example : Digits.toFloat ⟨247, -326⟩ = 0 ∧ (Digits.toFloat ⟨248, -326⟩).toBits = 1 := by
  decide +kernel

/-- Digits before and after the point, as one decimal. -/
def ofDigits (whole fraction : List Char) : Digits :=
  ⟨natOfDigits (whole ++ fraction), -(fraction.length : Int)⟩

/-- Whether a character is one of the ten digits that spell numbers. -/
def isDigit (c : Char) : Bool :=
  '0' ≤ c && c ≤ '9'

/-- An exponent: a sign or none, then at least one digit, and nothing after. -/
def exponent? : List Char → Option Int
  | [] => none
  | sign :: rest =>
    let digits := if sign = '+' ∨ sign = '-' then rest else sign :: rest
    if digits.isEmpty ∨ ¬digits.all isDigit then none
    else some (if sign = '-' then -(natOfDigits digits : Int) else natOfDigits digits)

/-- A decimal without a sign: digits, a point and digits, at least one digit in all, then an
exponent or nothing. -/
def unsigned? (cs : List Char) : Option Digits :=
  let whole := cs.takeWhile isDigit
  let afterWhole := cs.dropWhile isDigit
  let (fraction, rest) := match afterWhole with
    | '.' :: more => (more.takeWhile isDigit, more.dropWhile isDigit)
    | _ => ([], afterWhole)
  let d := ofDigits whole fraction
  if whole.isEmpty ∧ fraction.isEmpty then none
  else match rest with
    | [] => some d
    | mark :: power =>
      if mark = 'e' ∨ mark = 'E' then
        (exponent? power).map fun e => ⟨d.digits, d.exponent + e⟩
      else none

/-- **The float that a text stands for**, if it is the text of a number. -/
def read? (text : String) : Option Float :=
  let cs := text.toList
  let negative := cs.head? = some '-'
  let body := if cs.head? = some '-' ∨ cs.head? = some '+' then cs.drop 1 else cs
  let signed (x : Float) : Float := if negative then -x else x
  match String.ofList (body.map Char.toLower) with
  | "nan" => some (0.0 / 0.0)
  | "inf" => some (signed (1.0 / 0.0))
  | "infinity" => some (signed (1.0 / 0.0))
  | _ => (unsigned? body).map fun d => signed d.toFloat

end StoryEngine.Decimal
