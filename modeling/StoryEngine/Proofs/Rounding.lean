import Mathlib.Algebra.Order.Field.Rat
import Mathlib.Algebra.Order.AbsoluteValue.Basic
import Mathlib.Tactic.LinearCombination
import Mathlib.Tactic.Linarith
import Mathlib.Tactic.NormNum
import Mathlib.Tactic.Ring
import StoryEngine.Decimal.Reader

/-!
# Rounding a quotient to a float

`nearestBits` finds the bits of a float by a division, a scale and a look at the remainder.  Here
they are those of the float nearest to the quotient, as if there were no largest one.

* `stepsOf` — how many steps of the least positive float some bits stand for.  Bits made of a scale
  and a mantissa stand for `mantissa · 2 ^ scale` steps (`stepsOf_add`), and more bits for more
  steps (`strictMono_stepsOf`).
* `roundedQuotient_spec` — a rounded quotient is at most half a unit away, and even if it is exactly
  half a unit away.
* `nearest_of_half` — what is at most half a unit away is nearest.
* `nearestBits_quotient` — the mantissa of `nearestBits` is the quotient to within half a unit.
* `stepsOf_apart` — other bits are a whole unit away.  Only below a change of scale are they nearer
  to each other, and there the quotient is not below the mantissa.
* `nearestBits_nearest` — no other bits stand for nearer steps, and if others do equally well the
  bits are even.
-/

namespace StoryEngine.Decimal

open Magnitude (hiddenBit)

/-! ## Steps -/

/-- **How many steps of the least positive float** a float with some bits is away from zero. -/
def stepsOf (bits : Nat) : Nat :=
  if bits < hiddenBit then bits
  else (hiddenBit + bits % hiddenBit) * 2 ^ (bits / hiddenBit - 1)

/-- **Bits made of a scale and a mantissa** stand for as many steps as the mantissa says, each as
long as the scale says. -/
lemma stepsOf_add {scale mantissa : Nat} (le : mantissa ≤ 2 * hiddenBit)
    (full : scale = 0 ∨ hiddenBit ≤ mantissa) :
    stepsOf (scale * hiddenBit + mantissa) = mantissa * 2 ^ scale := by
  have positive : 0 < hiddenBit := by decide
  rw [stepsOf]
  rcases Nat.lt_or_ge mantissa hiddenBit with short | long
  · obtain rfl : scale = 0 := full.resolve_right (Nat.not_le.2 short)
    simp [short]
  · obtain ⟨rest, rfl⟩ := Nat.exists_eq_add_of_le long
    have beyond : ¬ scale * hiddenBit + (hiddenBit + rest) < hiddenBit := by omega
    rw [if_neg beyond]
    rcases Nat.lt_or_eq_of_le (show rest ≤ hiddenBit by omega) with within | rfl
    · have quotient : ((scale + 1) * hiddenBit + rest) / hiddenBit = scale + 1 := by
        rw [Nat.mul_comm, Nat.mul_add_div positive, Nat.div_eq_of_lt within, Nat.add_zero]
      rw [show scale * hiddenBit + (hiddenBit + rest) = (scale + 1) * hiddenBit + rest by ring,
        Nat.mul_add_mod_of_lt within, quotient, Nat.add_sub_cancel]
    · rw [show scale * hiddenBit + (hiddenBit + hiddenBit) = (scale + 2) * hiddenBit by ring,
        Nat.mul_mod_left, Nat.mul_div_cancel _ positive, Nat.add_zero]
      show hiddenBit * 2 ^ (scale + 1) = _
      ring

/-- All bits are made of a scale and a mantissa. -/
lemma exists_scale (bits : Nat) : ∃ scale mantissa, bits = scale * hiddenBit + mantissa ∧
    mantissa < 2 * hiddenBit ∧ (scale = 0 ∨ hiddenBit ≤ mantissa) := by
  have split := Nat.div_add_mod bits hiddenBit
  have small := Nat.mod_lt bits (show 0 < hiddenBit by decide)
  rcases quotient : bits / hiddenBit with _ | scale
  all_goals rw [quotient] at split
  · exact ⟨0, bits, by omega, by omega, .inl rfl⟩
  · refine ⟨scale, hiddenBit + bits % hiddenBit, ?_, by omega, .inr (Nat.le_add_right _ _)⟩
    rw [Nat.mul_succ] at split
    rw [Nat.mul_comm]
    omega

/-- **More bits are more steps.** -/
lemma strictMono_stepsOf : StrictMono stepsOf := by
  refine strictMono_nat_of_lt_succ fun bits => ?_
  obtain ⟨scale, mantissa, rfl, small, full⟩ := exists_scale bits
  rw [Nat.add_assoc, stepsOf_add (Nat.le_of_lt small) full, stepsOf_add small (by omega),
    Nat.succ_mul]
  exact Nat.lt_add_of_pos_right (Nat.two_pow_pos scale)

/-! ## Rounding a quotient -/

/-- **A rounded quotient is at most half away**, and even if it is exactly half away. -/
lemma roundedQuotient_spec (num : Nat) {den : Nat} (positive : 0 < den) :
    2 * num ≤ (2 * roundedQuotient num den + 1) * den ∧
      2 * roundedQuotient num den * den ≤ 2 * num + den ∧
      (2 * num = (2 * roundedQuotient num den + 1) * den ∨
        2 * roundedQuotient num den * den = 2 * num + den → roundedQuotient num den % 2 = 0) := by
  have split := Nat.div_add_mod' num den
  have small := Nat.mod_lt num positive
  rw [roundedQuotient]
  generalize num / den = below at *
  generalize num % den = rest at *
  have odd : (2 * below + 1) * den = 2 * (below * den) + den := by ring
  have even : 2 * below * den = 2 * (below * den) := by ring
  have nextOdd : (2 * (below + 1) + 1) * den = 2 * (below * den) + 3 * den := by ring
  have nextEven : 2 * (below + 1) * den = 2 * (below * den) + 2 * den := by ring
  generalize below * den = whole at *
  split
  · next lt =>
      rw [Nat.compare_eq_lt] at lt
      omega
  · next eq =>
      rw [Nat.compare_eq_eq] at eq
      rcases Nat.mod_two_eq_zero_or_one below with parity | parity
      · rw [parity, show below + 0 = below from rfl]
        omega
      · rw [parity]
        omega
  · next gt =>
      rw [Nat.compare_eq_gt] at gt
      omega

/-! ## The nearest bits -/

/-- **What is at most half a step away is nearest**, if whatever else there is lies a whole step
off, or lies below without being rounded up to. -/
lemma nearest_of_half {t center step other : ℚ} (above : 2 * t ≤ 2 * center + step)
    (below : 2 * center ≤ 2 * t + step)
    (apart : other + step ≤ center ∨ center + step ≤ other ∨ center ≤ t ∧ other < center) :
    |t - center| ≤ |t - other| ∧
      (|t - other| = |t - center| → 2 * t = 2 * center + step ∨ 2 * center = 2 * t + step) := by
  rcases abs_cases (t - center) with ⟨left, _⟩ | ⟨left, _⟩
  all_goals rcases abs_cases (t - other) with ⟨right, _⟩ | ⟨right, _⟩
  all_goals
    rw [left, right]
    rcases apart with apart | apart | ⟨_, apart⟩
    all_goals
      refine ⟨by linarith, fun eq => ?_⟩
      first
        | exact .inl (by linarith)
        | exact .inr (by linarith)

/-- **What the nearest bits are made of**: the scale leaves the quotient as many bits as a mantissa
has, and the mantissa is the quotient rounded to the unit of that scale. -/
lemma nearestBits_spec (num : Nat) {den : Nat} (positive : 0 < den) :
    ∃ scale mantissa, nearestBits num den = scale * hiddenBit + mantissa ∧
      mantissa ≤ 2 * hiddenBit ∧
      2 * (num * stepsOfOne) ≤ (2 * mantissa + 1) * (den * 2 ^ scale) ∧
      2 * mantissa * (den * 2 ^ scale) ≤ 2 * (num * stepsOfOne) + den * 2 ^ scale ∧
      (2 * (num * stepsOfOne) = (2 * mantissa + 1) * (den * 2 ^ scale) ∨
        2 * mantissa * (den * 2 ^ scale) = 2 * (num * stepsOfOne) + den * 2 ^ scale →
          mantissa % 2 = 0) ∧
      (scale = 0 ∨ hiddenBit ≤ mantissa ∧ hiddenBit * (den * 2 ^ scale) ≤ num * stepsOfOne) := by
  have bits : nearestBits num den =
      ((num * stepsOfOne / den).log2 - 52) * hiddenBit +
        roundedQuotient (num * stepsOfOne) (den * 2 ^ ((num * stepsOfOne / den).log2 - 52)) := rfl
  generalize num * stepsOfOne = steps at *
  obtain ⟨scale, isScale⟩ : ∃ scale, scale = (steps / den).log2 - 52 := ⟨_, rfl⟩
  rw [← isScale] at bits
  have unit : 0 < den * 2 ^ scale := Nat.mul_pos positive (Nat.two_pow_pos scale)
  obtain ⟨above, below, tie⟩ := roundedQuotient_spec steps unit
  have short : steps < 2 * hiddenBit * (den * 2 ^ scale) := by
    have wide : steps / den < 2 ^ (scale + 53) :=
      Nat.lt_of_lt_of_le Nat.lt_log2_self (Nat.pow_le_pow_right (by decide) (by omega))
    have bound := (Nat.div_lt_iff_lt_mul positive).1 wide
    have whole : 2 ^ (scale + 53) * den = 2 * hiddenBit * (den * 2 ^ scale) := by
      rw [Nat.pow_add, show 2 * hiddenBit = 2 ^ 53 by decide]
      ring
    rwa [whole] at bound
  have long : scale = 0 ∨ hiddenBit * (den * 2 ^ scale) ≤ steps := by
    refine (Nat.eq_zero_or_pos scale).imp_right fun some => ?_
    have nonzero : steps / den ≠ 0 := by
      rintro zero
      rw [zero] at isScale
      simp at isScale
      omega
    have wide := Nat.log2_self_le nonzero
    rw [show (steps / den).log2 = scale + 52 by omega] at wide
    have bound := (Nat.le_div_iff_mul_le positive).1 wide
    have whole : 2 ^ (scale + 52) * den = hiddenBit * (den * 2 ^ scale) := by
      rw [Nat.pow_add, show hiddenBit = 2 ^ 52 by decide]
      ring
    rwa [whole] at bound
  refine ⟨scale, _, bits, ?_, above, below, tie, long.imp_right fun long => ⟨?_, long⟩⟩
  · by_contra more
    nlinarith
  · by_contra less
    nlinarith

/-- How many steps a number comes to. -/
def stepsIn (number : ℚ) : ℚ :=
  number * stepsOfOne

/-- **The mantissa of the nearest bits is the quotient to within half a unit**, even if it is
exactly half a unit away, and from the first scale on the quotient fills a mantissa. -/
lemma nearestBits_quotient (num : Nat) {den : Nat} (positive : 0 < den) :
    ∃ scale mantissa, nearestBits num den = scale * hiddenBit + mantissa ∧
      mantissa ≤ 2 * hiddenBit ∧
      2 * stepsIn (num / den) ≤ 2 * (mantissa * 2 ^ scale) + 2 ^ scale ∧
      2 * (mantissa * 2 ^ scale) ≤ 2 * stepsIn (num / den) + 2 ^ scale ∧
      (2 * stepsIn (num / den) = 2 * (mantissa * 2 ^ scale) + 2 ^ scale ∨
        2 * (mantissa * 2 ^ scale) = 2 * stepsIn (num / den) + 2 ^ scale → mantissa % 2 = 0) ∧
      (scale = 0 ∨ hiddenBit ≤ mantissa ∧ hiddenBit * 2 ^ scale ≤ stepsIn (num / den)) := by
  obtain ⟨scale, mantissa, bits, le, above, below, tie, long⟩ := nearestBits_spec num positive
  have denominator : (0 : ℚ) < den := Nat.cast_pos.2 positive
  have quotient : (num * stepsOfOne : ℕ) = stepsIn (num / den) * den := by
    rw [stepsIn, mul_right_comm, div_mul_cancel₀ _ denominator.ne', Nat.cast_mul]
  generalize stepsIn (num / den) = t at *
  generalize num * stepsOfOne = steps at *
  -- what holds of the numerators holds of the quotient
  rw [← Nat.cast_le (α := ℚ)] at above below
  rw [← Nat.cast_inj (R := ℚ), ← Nat.cast_inj (R := ℚ)] at tie
  push_cast [quotient] at above below tie
  refine ⟨scale, mantissa, bits, le, ?_, ?_, fun eq => tie (eq.imp ?_ ?_), ?_⟩
  · exact le_of_mul_le_mul_right (by linarith) denominator
  · exact le_of_mul_le_mul_right (by linarith) denominator
  · intro eq
    linear_combination den * eq
  · intro eq
    linear_combination den * eq
  · refine long.imp_right fun ⟨full, long⟩ => ⟨full, ?_⟩
    rw [← Nat.cast_le (α := ℚ)] at long
    push_cast [quotient] at long
    exact le_of_mul_le_mul_right (by linarith) denominator

/-- **Other bits stand for steps a whole unit away**, unless the scale changes there: then fewer
steps may be nearer, but the quotient has not fallen below the mantissa. -/
lemma stepsOf_apart {scale mantissa other : Nat} (le : mantissa ≤ 2 * hiddenBit)
    (full : scale = 0 ∨ hiddenBit ≤ mantissa) (ne : other ≠ scale * hiddenBit + mantissa) :
    stepsOf other + 2 ^ scale ≤ mantissa * 2 ^ scale ∨
      mantissa * 2 ^ scale + 2 ^ scale ≤ stepsOf other ∨
      scale ≠ 0 ∧ mantissa = hiddenBit ∧ stepsOf other < mantissa * 2 ^ scale := by
  rcases Nat.lt_or_gt_of_ne ne with fewer | more
  · have below := strictMono_stepsOf fewer
    rw [stepsOf_add le full] at below
    by_cases corner : scale ≠ 0 ∧ mantissa = hiddenBit
    · exact .inr (.inr ⟨corner.1, corner.2, below⟩)
    · obtain ⟨before, rfl⟩ : ∃ before, mantissa = before + 1 :=
        Nat.exists_eq_succ_of_ne_zero (by rintro rfl; omega)
      have last := strictMono_stepsOf.monotone (show other ≤ scale * hiddenBit + before by omega)
      rw [stepsOf_add (by omega) (by omega)] at last
      rw [Nat.succ_mul]
      exact .inl (Nat.add_le_add_right last _)
  · refine .inr (.inl ?_)
    rcases Nat.lt_or_eq_of_le le with inside | rfl
    · have next := strictMono_stepsOf.monotone
        (show scale * hiddenBit + (mantissa + 1) ≤ other by omega)
      rwa [stepsOf_add inside (by omega), Nat.succ_mul] at next
    · have next := strictMono_stepsOf.monotone
        (show (scale + 1) * hiddenBit + (hiddenBit + 1) ≤ other by rw [Nat.succ_mul]; omega)
      rw [stepsOf_add (by decide) (.inr (Nat.le_succ _)), Nat.pow_succ] at next
      nlinarith [Nat.two_pow_pos scale]

/-- **The nearest bits** stand for the steps nearest to a quotient, and are even if others do
equally well. -/
theorem nearestBits_nearest (num : Nat) {den : Nat} (positive : 0 < den) {other : Nat}
    (ne : other ≠ nearestBits num den) :
    |stepsIn (num / den) - stepsOf (nearestBits num den)| ≤ |stepsIn (num / den) - stepsOf other| ∧
      (|stepsIn (num / den) - stepsOf other| =
        |stepsIn (num / den) - stepsOf (nearestBits num den)| →
          nearestBits num den % 2 = 0) := by
  obtain ⟨scale, mantissa, bits, le, above, below, tie, long⟩ := nearestBits_quotient num positive
  have full : scale = 0 ∨ hiddenBit ≤ mantissa := long.imp_right And.left
  have parity : nearestBits num den % 2 = mantissa % 2 := by
    rw [bits, show hiddenBit = 2 * 2251799813685248 by decide]
    omega
  have center : (stepsOf (nearestBits num den) : ℚ) = mantissa * 2 ^ scale := by
    rw [bits, stepsOf_add le full]
    push_cast
    rfl
  rw [bits] at ne
  have apart : (stepsOf other : ℚ) + 2 ^ scale ≤ mantissa * 2 ^ scale ∨
      mantissa * 2 ^ scale + 2 ^ scale ≤ (stepsOf other : ℚ) ∨
      mantissa * 2 ^ scale ≤ stepsIn (num / den) ∧ (stepsOf other : ℚ) < mantissa * 2 ^ scale := by
    rcases stepsOf_apart le full ne with less | more | ⟨some, rfl, less⟩
    · exact .inl (by exact_mod_cast less)
    · exact .inr (.inl (by exact_mod_cast more))
    · exact .inr (.inr ⟨(long.resolve_left some).2, by exact_mod_cast less⟩)
  rw [center, parity]
  obtain ⟨closest, halfway⟩ := nearest_of_half above below apart
  exact ⟨closest, fun eq => tie (halfway eq)⟩

end StoryEngine.Decimal
