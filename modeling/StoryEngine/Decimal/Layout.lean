import StoryEngine.Decimal.Shortest

/-!
# How numbers are written

A number is written with the fewest digits that identify it.  How those digits are laid out is the
business of a `Layout`.

* `Layout.plain` — values in messages and answers: always positional, whole numbers without a
  point.
* `Layout.literal` — numbers inside descriptions of conditions: very large and very small ones
  with an exponent, whole numbers with a final `.0`, so that they cannot be taken for integers.

The sign of zero is kept, and the three values that are no numbers have names.
-/

namespace StoryEngine.Decimal

/-- Decisions on the layout of a number's digits. -/
structure Layout where
  /-- the leading digit's powers of ten, from and below, that are written positionally; all of them
  if absent -/
  positional : Option (Int × Int)
  /-- whether a whole number ends in `.0` -/
  pointZero : Bool

namespace Layout

/-- Values in messages and answers. -/
def plain : Layout where
  positional := none
  pointZero := false

/-- Numbers inside descriptions of conditions. -/
def literal : Layout where
  positional := some (-4, 16)
  pointZero := true

end Layout

/-- The decimal digits of a natural number. -/
def Digits.spelled (d : Digits) : List Char :=
  Nat.toDigits 10 d.digits

/-- The power of ten of the leading digit. -/
def Digits.leading (d : Digits) : Int :=
  d.exponent + (d.spelled.length : Int) - 1

/-- **Digits with the point where it belongs**, after, inside or before them. -/
def Digits.positional (d : Digits) (pointZero : Bool) : List Char :=
  if 0 ≤ d.exponent then
    d.spelled ++ List.replicate d.exponent.toNat '0' ++ if pointZero then ['.', '0'] else []
  else
    let places := (-d.exponent).toNat
    let padded := List.replicate (places + 1 - d.spelled.length) '0' ++ d.spelled
    padded.take (padded.length - places) ++ '.' :: padded.drop (padded.length - places)

/-- Digits with the point after the first one, and the power of ten of that digit. -/
def Digits.scientific (d : Digits) : List Char :=
  let mantissa := match d.spelled with
    | first :: second :: rest => first :: '.' :: second :: rest
    | single => single
  mantissa ++ 'e' :: (toString d.leading).toList

/-- Digits laid out by a layout. -/
def Layout.spell (style : Layout) (d : Digits) : List Char :=
  match style.positional with
  | some (low, high) =>
    if low ≤ d.leading ∧ d.leading < high then d.positional style.pointZero else d.scientific
  | none => d.positional style.pointZero

/-- Whether the sign bit is set; zero has one too. -/
def isNegative (x : Float) : Bool :=
  9223372036854775808 ≤ x.toBits.toNat

/-- **A number written by a layout.** -/
def Layout.write (style : Layout) (x : Float) : String :=
  if x.isNaN then "NaN"
  else
    let sign := if isNegative x then ['-'] else []
    let body :=
      if x.isInf then ['i', 'n', 'f']
      else if x == 0 then style.spell ⟨0, 0⟩
      else style.spell (Magnitude.ofBits x.abs.toBits).shortest
    String.ofList (sign ++ body)

/-- Negative zero keeps its sign. -/
example : Layout.plain.write (-0.0) = "-0" := by decide +kernel

/-- No exponent in the plain layout, however small the number. -/
example : Layout.plain.write 1.5e-7 = "0.00000015" := by decide +kernel

/-- A literal shows that it is not an integer. -/
example : Layout.literal.write 1 = "1.0" := by decide +kernel

end StoryEngine.Decimal
