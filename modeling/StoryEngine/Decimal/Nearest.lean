import Mathlib.Algebra.Order.Group.Unbundled.Abs
import Mathlib.Algebra.Order.Ring.Rat
import StoryEngine.Decimal.Layout

/-!
# Nearest floats

Which float a number is to be rounded to, said without any way of finding it.

* `Magnitude.value`, `Digits.value` — the number that a magnitude is, and a decimal.
* `magnitude` — the magnitude of a float, whatever its sign.
* `Nearest` — the float of a sign and a number: no other one is nearer, and of two equally near ones
  it is the one with an even mantissa.

Infinite floats count as `2 ^ 1024` and take part like all others.  So a number is rounded to an
infinite float exactly if it would be rounded to `2 ^ 1024` or more were there floats beyond the
largest finite one.
-/

namespace StoryEngine.Decimal

/-- The number that a magnitude is. -/
def Magnitude.value (x : Magnitude) : ℚ :=
  x.mantissa * 2 ^ x.exponent

/-- The number that a decimal is. -/
def Digits.value (d : Digits) : ℚ :=
  d.digits * 10 ^ d.exponent

/-- **The magnitude of a float**, whatever its sign.  That of an infinite one is `2 ^ 1024`, at
which finite floats end. -/
def magnitude (x : Float) : Magnitude :=
  .ofBits x.toBits

/-- **The float nearest to a number** with a sign: no float is nearer, and if another one is equally
near the mantissa is even. -/
structure Nearest (negative : Bool) (number : ℚ) (x : Float) : Prop where
  isNumber : x.isNaN = false
  sign : isNegative x = negative
  nearest : ∀ y : Float, y.isNaN = false →
    |number - (magnitude x).value| ≤ |number - (magnitude y).value|
  even : ∀ y : Float, y.isNaN = false → (magnitude y).value ≠ (magnitude x).value →
    |number - (magnitude y).value| = |number - (magnitude x).value| →
    (magnitude x).mantissa % 2 = 0

end StoryEngine.Decimal
