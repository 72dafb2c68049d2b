/-!
# The fewest digits that identify a number

A finite binary number stands for an interval of reals: all those that round to it.  The decimal
written for it is the multiple of the *coarsest* power of ten that lies in the interval, since a
coarser grid means fewer digits.

* `Magnitude` — a positive binary number `mantissa · 2 ^ exponent` and its interval.
* `Digits` — a decimal `digits · 10 ^ exponent`.
* `Magnitude.onGrid?` — the multiple of one power of ten that reads back as the number.
* `Magnitude.shortest` — the first hit, walking the powers of ten downwards.

All arithmetic is exact, on natural numbers.  Of two multiples on the same grid the nearer one is
taken, and of two equally near ones the larger.
-/

namespace StoryEngine.Decimal

/-- A decimal number, `digits · 10 ^ exponent`. -/
structure Digits where
  digits : Nat
  exponent : Int
  deriving DecidableEq, Repr

/-- A positive binary number, `mantissa · 2 ^ exponent`.  `tight` says that the number below is
half as far away as the number above, which happens at powers of two. -/
structure Magnitude where
  mantissa : Nat
  exponent : Int
  tight : Bool
  deriving DecidableEq, Repr

namespace Magnitude

/-- The leading bit of a mantissa, which most floats leave out. -/
def hiddenBit : Nat := 4503599627370496

/-- The magnitude held in the bits of a finite 64-bit float: eleven bits of exponent over fifty-two
of mantissa, with a hidden leading bit unless the exponent bits are zero. -/
def ofBits (bits : UInt64) : Magnitude :=
  let scale := bits.toNat / hiddenBit % 2048
  let fraction := bits.toNat % hiddenBit
  if scale = 0 then ⟨fraction, -1074, false⟩
  else ⟨hiddenBit + fraction, (scale : Int) - 1075, fraction == 0 && 1 < scale⟩

/-! ## The interval

The ends are halfway to the neighbours.  In quarters of the last binary place they are whole
numbers, and they belong to the interval exactly when the mantissa is even.
-/

/-- The lower end of the interval, in quarters of the last place. -/
def lower (x : Magnitude) : Nat :=
  4 * x.mantissa - if x.tight then 1 else 2

/-- The upper end of the interval, in quarters of the last place. -/
def upper (x : Magnitude) : Nat :=
  4 * x.mantissa + 2

/-- Whether a point lies in the interval, `point / place` counting quarters of the last place. -/
def holds (x : Magnitude) (point place : Nat) : Bool :=
  if x.mantissa % 2 = 0 then x.lower * place ≤ point && point ≤ x.upper * place
  else x.lower * place < point && point < x.upper * place

/-! ## The search -/

/-- **The multiple of `10 ^ scale` that reads back as the number**, if there is one.  Only the
multiples just below and just above the number can be the nearest, so only they are tried. -/
def onGrid? (x : Magnitude) (scale : Int) : Option Nat :=
  let quarters := x.exponent - 2
  -- a quarter of the last place, divided by the grid, is `place / grid`
  let place := Nat.pow 2 quarters.toNat * Nat.pow 10 (-scale).toNat
  let grid := Nat.pow 2 (-quarters).toNat * Nat.pow 10 scale.toNat
  let exact := 4 * x.mantissa * place
  let below := exact / grid
  let above := below + 1
  match x.holds (below * grid) place, x.holds (above * grid) place with
  | true, true => some (if exact - below * grid < above * grid - exact then below else above)
  | true, false => some below
  | false, true => some above
  | false, false => none

/-- A power of ten above the number: `1 / log₂ 10` is a little less than `30103 / 100000`. -/
def ceiling (x : Magnitude) : Int :=
  ((x.mantissa.log2 : Int) + x.exponent + 1) * 30103 / 100000 + 2

/-- The first hit on the grids `scale`, `scale - 1`, …, as many as `tries` says. -/
def search (x : Magnitude) : (tries : Nat) → (scale : Int) → Option Digits
  | 0, _ => none
  | tries + 1, scale =>
    match x.onGrid? scale with
    | some digits => some ⟨digits, scale⟩
    | none => x.search tries (scale - 1)

/-- The number itself as a decimal, with all its digits. -/
def exact (x : Magnitude) : Digits :=
  if 0 ≤ x.exponent then ⟨x.mantissa * Nat.pow 2 x.exponent.toNat, 0⟩
  else ⟨x.mantissa * Nat.pow 5 (-x.exponent).toNat, x.exponent⟩

/-- **The decimal with the fewest digits that reads back as the number.**  Seventeen digits always
suffice, so a walk of thirty grids from above the number finds one; the exact value stands ready
should it not. -/
def shortest (x : Magnitude) : Digits :=
  (x.search 30 x.ceiling).getD x.exact

end Magnitude

/-- Two tenths and one tenth add up to a number that needs seventeen digits. -/
example : (Magnitude.ofBits ((0.1 : Float) + 0.2).toBits).shortest = ⟨30000000000000004, -17⟩ := by
  decide +kernel

/-- The least positive number needs a single digit. -/
example : (Magnitude.ofBits 1).shortest = ⟨5, -324⟩ := by decide +kernel

/-- Halfway between two shortest candidates the larger is written. -/
example : (Magnitude.ofBits (2.98023223876953125e-8 : Float).toBits).shortest
    = ⟨29802322387695313, -24⟩ := by
  decide +kernel

end StoryEngine.Decimal
