import Mathlib
import StoryEngine.Decimal.Nearest
import StoryEngine.Proofs.Rounding

/-!
# The float of a decimal is the nearest one

`Nearest` says which float a number is to be rounded to; here `Digits.toFloat` finds it.

* `signBit`, `bitsOf` — the bits of a float are the bit of its sign and the bits of its magnitude.
  They are numbers up to `infinityBits`, and whatever is more stands for no number (`isNaN_iff`).
* `toBits_ofBits`, `toBits_neg` — making a float of bits, and taking its opposite, in terms of bits.
* `magnitude_value` — a magnitude is as many steps of the least positive float as `stepsOf` says.
* `Closest` — what it is for bits to be those of the nearest float (`nearest_iff`).
* `Nearest.unique`, `Nearest.neg` — only one float is nearest, and its opposite is nearest below
  zero.
* `Digits.nearest_toFloat` — **the float of a decimal is the nearest one**.  What is beyond the
  infinite float, and what has too many places for any power to be computed, is rounded to it or to
  zero.
-/

namespace StoryEngine.Decimal

open Magnitude (hiddenBit)

/-! ## Bits of floats -/

section
open Float.Model UnpackedFloat Format

/-- The bit of the sign. -/
def signBit : Nat := 9223372036854775808

/-- The bits of a magnitude leave the bit of the sign alone. -/
lemma lt_signBit {bits : Nat} (le : bits ≤ infinityBits) : bits < signBit := by
  unfold infinityBits hiddenBit at le
  unfold signBit
  omega

/-- The parts of the bits of a magnitude, with the bit of the sign and without it. -/
lemma parts_add_signBit {bits : Nat} (le : bits ≤ infinityBits) :
    (bits + signBit) / hiddenBit % 2048 = bits / hiddenBit % 2048 ∧
      (bits + signBit) % hiddenBit = bits % hiddenBit ∧
      bits / signBit % 2 = 0 ∧ (bits + signBit) / signBit % 2 = 1 := by
  have small := lt_signBit le
  unfold signBit at small
  unfold signBit hiddenBit
  omega

lemma toNat_unpackExponent (b : BitVec binary64.numBits) :
    (unpackExponent b).toNat = b.toNat / hiddenBit % 2048 := by
  rw [unpackExponent, BitVec.toNat_cast, BitVec.extractLsb_toNat, Nat.shiftRight_eq_div_pow]
  simp only [hiddenBit]

lemma toNat_unpackMantissa (b : BitVec binary64.numBits) :
    (unpackMantissa b).toNat = b.toNat % hiddenBit := by
  rw [unpackMantissa, BitVec.toNat_cast, BitVec.extractLsb_toNat, Nat.shiftRight_zero]
  simp only [hiddenBit]

lemma toNat_unpackSign (b : BitVec binary64.numBits) :
    (unpackSign b).toNat = b.toNat / signBit % 2 := by
  rw [unpackSign, BitVec.toNat_cast, BitVec.extractLsb_toNat, Nat.shiftRight_eq_div_pow]
  simp only [signBit]

/-- **What stands for no number** has more bits than the infinite float, the sign left out. -/
lemma isNaNBits_iff (b : BitVec binary64.numBits) :
    isNaNBits b = true ↔ infinityBits < b.toNat % signBit := by
  have small : b.toNat < 2 ^ 64 := b.isLt
  have ones : (-BitVec.ofNat binary64.exponentBits 1).toNat = 2047 := by decide
  have zero : (BitVec.ofNat binary64.mantissaBitsWithoutImplicit 0).toNat = 0 := by decide
  rw [isNaNBits, decide_eq_true_iff, ← BitVec.toNat_inj, ne_eq, ← BitVec.toNat_inj,
    toNat_unpackExponent, toNat_unpackMantissa, ones, zero]
  unfold infinityBits hiddenBit signBit
  omega

lemma isNaN_iff (x : Float) : x.isNaN = true ↔ infinityBits < x.toBits.toNat % signBit := by
  refine (isNaN_unpack_iff_of_valid x.toModel.valid (by decide)).trans
    ⟨fun eq => ?_, fun more => ?_⟩
  · refine (isNaNBits_iff x.toModel.toBits.toBitVec).1 ?_
    rw [eq]
    exact isNaNBits_packedNaN
  · have isNaN := (isNaNBits_iff x.toModel.toBits.toBitVec).2 more
    rw [isNaNBits, decide_eq_true_iff] at isNaN
    exact x.toModel.valid.eq_packedNaN isNaN.1 isNaN.2

/-- **Bits that stand for a number are not changed** by unpacking and packing them. -/
lemma pack_unpack_of_le {b : BitVec binary64.numBits} (number : b.toNat % signBit ≤ infinityBits) :
    UnpackedFloat.pack binary64 (UnpackedFloat.unpack binary64 b) = b := by
  have isNumber : ¬ isNaNBits b = true := fun isNaN =>
    Nat.not_lt.2 number ((isNaNBits_iff b).1 isNaN)
  rw [pack_unpack b (by decide), if_neg isNumber]

/-- **A float has the bits that it is made of**, if they stand for a number. -/
lemma toBits_ofBits {bits : UInt64} (number : bits.toNat % signBit ≤ infinityBits) :
    (Float.ofBits bits).toBits = bits := by
  rw [Float.ofBits, Float.toBits, Float.Model.ofBits, Float.Model.pack]
  exact congrArg UInt64.ofBitVec (pack_unpack_of_le number)

/-- The bits with the sign turned, unpacked. -/
lemma unpack_neg {b flipped : BitVec binary64.numBits} (small : b.toNat ≤ infinityBits)
    (value : flipped.toNat = b.toNat + signBit) :
    (UnpackedFloat.unpack binary64 b).neg = UnpackedFloat.unpack binary64 flipped := by
  obtain ⟨sameExponent, sameMantissa, positive, negative⟩ := parts_add_signBit small
  have exponent : unpackExponent flipped = unpackExponent b := by
    rw [← BitVec.toNat_inj, toNat_unpackExponent, toNat_unpackExponent, value, sameExponent]
  have mantissa : unpackMantissa flipped = unpackMantissa b := by
    rw [← BitVec.toNat_inj, toNat_unpackMantissa, toNat_unpackMantissa, value, sameMantissa]
  have sign : unpackSign b = 0#1 := by
    rw [← BitVec.toNat_inj, toNat_unpackSign, BitVec.toNat_ofNat, positive]
  have turned : unpackSign flipped = 1#1 := by
    rw [← BitVec.toNat_inj, toNat_unpackSign, BitVec.toNat_ofNat, value, negative]
  unfold UnpackedFloat.unpack
  simp only [exponent, mantissa, sign, turned]
  split
  · split
    · rfl
    · rfl
  · split
    · split
      · rfl
      · rfl
    · rfl

/-- **A float below zero** has the bits of its opposite and the bit of the sign. -/
lemma toBits_neg {x : Float} (positive : x.toBits.toNat ≤ infinityBits) :
    (-x).toBits.toNat = x.toBits.toNat + signBit := by
  obtain ⟨b, isBits⟩ : ∃ b : BitVec binary64.numBits, x.toBits.toBitVec = b := ⟨_, rfl⟩
  have small : b.toNat ≤ infinityBits := by
    rw [← isBits]
    exact positive
  obtain ⟨flipped, value⟩ :
      ∃ flipped : BitVec binary64.numBits, flipped.toNat = b.toNat + signBit := by
    refine ⟨BitVec.ofNat _ (b.toNat + signBit), ?_⟩
    have whole : 2 ^ binary64.numBits = 2 * signBit := by decide
    have := lt_signBit small
    rw [BitVec.toNat_ofNat, whole, Nat.mod_eq_of_lt (by omega)]
  have number : flipped.toNat % signBit ≤ infinityBits := by
    rw [value, Nat.add_mod_right]
    exact (Nat.mod_le _ _).trans small
  have negated : (-x).toBits.toBitVec =
      UnpackedFloat.pack binary64 (UnpackedFloat.unpack binary64 x.toBits.toBitVec).neg := rfl
  have turned : (-x).toBits.toBitVec = flipped := by
    rw [negated, isBits, unpack_neg small value, pack_unpack_of_le number]
  rw [← UInt64.toNat_toBitVec, turned, value, ← isBits, UInt64.toNat_toBitVec]

end

/-! ## Magnitudes -/

/-- The bits of a float without its sign. -/
def bitsOf (x : Float) : Nat :=
  x.toBits.toNat % signBit

/-- A power of two, counted from the least positive float on. -/
lemma two_zpow (k : Nat) : (2 : ℚ) ^ ((k : ℤ) - 1074) = 2 ^ k / stepsOfOne := by
  have power : (1074 : ℤ) = leastPower := rfl
  rw [power]
  unfold stepsOfOne
  generalize leastPower = least
  rw [zpow_sub₀ two_ne_zero, zpow_natCast, zpow_natCast]
  exact congrArg (2 ^ k / ·) (Nat.cast_pow 2 least).symm

lemma stepsOfOne_pos : (0 : ℚ) < stepsOfOne := by
  unfold stepsOfOne
  generalize leastPower = least
  exact Nat.cast_pos.2 (Nat.two_pow_pos least)

/-- **The magnitude of a float** is made of steps of the least positive one. -/
lemma magnitude_value (x : Float) : (magnitude x).value = stepsOf (bitsOf x) / stepsOfOne := by
  have scale : bitsOf x / hiddenBit = x.toBits.toNat / hiddenBit % 2048 := by
    unfold bitsOf signBit hiddenBit
    omega
  have fraction : bitsOf x % hiddenBit = x.toBits.toNat % hiddenBit := by
    unfold bitsOf signBit hiddenBit
    omega
  have split := Nat.div_add_mod (bitsOf x) hiddenBit
  rw [magnitude, Magnitude.ofBits, ← scale, ← fraction]
  rcases exponent : bitsOf x / hiddenBit with _ | k
  · rw [exponent] at split
    have small : bitsOf x < hiddenBit := by
      have := Nat.mod_lt (bitsOf x) (show 0 < hiddenBit by decide)
      omega
    have least := two_zpow 0
    rw [if_pos rfl, Magnitude.value, stepsOf, if_pos small, Nat.mod_eq_of_lt small]
    simp only [Nat.cast_zero, zero_sub, pow_zero] at least
    rw [least, mul_one_div]
  · have large : ¬ bitsOf x < hiddenBit := by
      rw [exponent] at split
      have : hiddenBit * 1 ≤ hiddenBit * (k + 1) := Nat.mul_le_mul_left _ (Nat.succ_pos k)
      omega
    have power := two_zpow k
    rw [if_neg (Nat.succ_ne_zero k), Magnitude.value, stepsOf, if_neg large, exponent,
      Nat.add_sub_cancel]
    dsimp only
    rw [show ((k + 1 : ℕ) : ℤ) - 1075 = (k : ℤ) - 1074 by push_cast; ring, power]
    push_cast
    ring

/-- The mantissa of a float is even if its bits are. -/
lemma magnitude_parity (x : Float) : (magnitude x).mantissa % 2 = bitsOf x % 2 := by
  rw [magnitude, Magnitude.ofBits]
  split
  all_goals
    unfold bitsOf signBit hiddenBit
    dsimp only
    omega

/-! ## Closest bits -/

/-- **Bits that stand for the steps closest to some**, of all bits up to those of the infinite
float, and that are even if others are equally close. -/
structure Closest (steps : ℚ) (bits : Nat) : Prop where
  le : bits ≤ infinityBits
  closest : ∀ other ≤ infinityBits, |steps - stepsOf bits| ≤ |steps - stepsOf other|
  even : ∀ other ≤ infinityBits, other ≠ bits →
    |steps - stepsOf other| = |steps - stepsOf bits| → bits % 2 = 0

/-- A distance from a float, in steps. -/
lemma distance_eq (number : ℚ) (x : Float) :
    |number - (magnitude x).value| = |stepsIn number - stepsOf (bitsOf x)| / stepsOfOne := by
  have positive := stepsOfOne_pos
  rw [magnitude_value, stepsIn]
  generalize (stepsOfOne : ℚ) = one at *
  rw [← abs_of_pos positive, ← abs_div, abs_of_pos positive, sub_div,
    mul_div_cancel_right₀ _ positive.ne']

lemma isNaN_eq_false_iff (x : Float) : x.isNaN = false ↔ bitsOf x ≤ infinityBits := by
  rw [← Bool.not_eq_true, isNaN_iff, Nat.not_lt, bitsOf]

/-- **Any bits up to those of the infinite float are the bits of a float.** -/
lemma toBits_ofNat {bits : Nat} (le : bits ≤ infinityBits) :
    (Float.ofBits (.ofNat bits)).toBits.toNat = bits := by
  have small := lt_signBit le
  have value : (UInt64.ofNat bits).toNat = bits := by
    rw [UInt64.toNat_ofNat', Nat.mod_eq_of_lt (small.trans (by decide))]
  rw [toBits_ofBits (by rwa [value, Nat.mod_eq_of_lt small]), value]

lemma bitsOf_ofNat {bits : Nat} (le : bits ≤ infinityBits) :
    bitsOf (Float.ofBits (.ofNat bits)) = bits := by
  rw [bitsOf, toBits_ofNat le, Nat.mod_eq_of_lt (lt_signBit le)]

/-- **A float is nearest if its bits are closest.** -/
lemma nearest_iff {negative : Bool} {number : ℚ} {x : Float} :
    Nearest negative number x ↔ isNegative x = negative ∧ Closest (stepsIn number) (bitsOf x) := by
  have positive := stepsOfOne_pos
  constructor
  · intro nearest
    refine ⟨nearest.sign, (isNaN_eq_false_iff x).1 nearest.isNumber, fun other le => ?_,
      fun other le ne eq => ?_⟩
    all_goals
      have isNumber : (Float.ofBits (.ofNat other)).isNaN = false := by
        rw [isNaN_eq_false_iff, bitsOf_ofNat le]
        exact le
    · have near := nearest.nearest _ isNumber
      rw [distance_eq, distance_eq, bitsOf_ofNat le] at near
      exact (div_le_div_iff_of_pos_right positive).1 near
    · have even := nearest.even _ isNumber
      rw [distance_eq, distance_eq, magnitude_value, magnitude_value, bitsOf_ofNat le, eq,
        magnitude_parity] at even
      refine even (fun same => ne ?_) rfl
      exact strictMono_stepsOf.injective (Nat.cast_injective ((div_left_inj' positive.ne').1 same))
  · rintro ⟨sign, le, closest, even⟩
    refine ⟨(isNaN_eq_false_iff x).2 le, sign, fun y isNumber => ?_, fun y isNumber ne eq => ?_⟩
    all_goals rw [isNaN_eq_false_iff] at isNumber
    · rw [distance_eq, distance_eq]
      exact (div_le_div_iff_of_pos_right positive).2 (closest _ isNumber)
    · rw [magnitude_parity]
      rw [distance_eq, distance_eq] at eq
      refine even _ isNumber (fun same => ne ?_) ((div_left_inj' positive.ne').1 eq)
      rw [magnitude_value, magnitude_value, same]

/-- **Only one float's bits are closest.**  Of two equally close ones both would be even, and what
stands between them would be closer. -/
lemma Closest.unique {steps : ℚ} {bits other : Nat} (closest : Closest steps bits)
    (closest' : Closest steps other) : bits = other := by
  wlog less : bits < other generalizing bits other
  · rcases Nat.lt_or_eq_of_le (Nat.not_lt.1 less) with less | rfl
    · exact (this closest' closest less).symm
    · rfl
  exfalso
  have same : |steps - stepsOf bits| = |steps - stepsOf other| :=
    le_antisymm (closest.closest other closest'.le) (closest'.closest bits closest.le)
  have even := closest.even other closest'.le (Nat.ne_of_gt less) same.symm
  have even' := closest'.even bits closest.le (Nat.ne_of_lt less) same
  have after : (stepsOf bits : ℚ) < stepsOf (bits + 1) :=
    Nat.cast_lt.2 (strictMono_stepsOf (Nat.lt_succ_self bits))
  have before : (stepsOf (bits + 1) : ℚ) < stepsOf other :=
    Nat.cast_lt.2 (strictMono_stepsOf (by omega))
  have between := closest.closest (bits + 1) (by have := closest'.le; omega)
  rcases abs_cases (steps - stepsOf bits) with ⟨a, _⟩ | ⟨a, _⟩
  all_goals rcases abs_cases (steps - stepsOf other) with ⟨b, _⟩ | ⟨b, _⟩
  all_goals rcases abs_cases (steps - stepsOf (bits + 1)) with ⟨c, _⟩ | ⟨c, _⟩
  all_goals
    rw [a, b] at same
    rw [a, c] at between
    linarith

/-- **Only one float is nearest to a number.** -/
theorem Nearest.unique {negative : Bool} {number : ℚ} {x y : Float}
    (nearest : Nearest negative number x) (nearest' : Nearest negative number y) : x = y := by
  obtain ⟨sign, closest⟩ := nearest_iff.1 nearest
  obtain ⟨sign', closest'⟩ := nearest_iff.1 nearest'
  have bits := closest.unique closest'
  have signs : (9223372036854775808 ≤ x.toBits.toNat) ↔ 9223372036854775808 ≤ y.toBits.toNat := by
    rw [← decide_eq_decide]
    exact sign.trans sign'.symm
  have small := x.toBits.toNat_lt
  have small' := y.toBits.toNat_lt
  rw [← Float.toBits_inj, ← UInt64.toNat_inj]
  unfold bitsOf signBit at bits
  omega

/-- **The opposite of the nearest float is nearest below zero.** -/
theorem Nearest.neg {number : ℚ} {x : Float} (nearest : Nearest false number x) :
    Nearest true number (-x) := by
  obtain ⟨sign, closest⟩ := nearest_iff.1 nearest
  have small : x.toBits.toNat < signBit := by
    rw [isNegative, decide_eq_false_iff_not] at sign
    unfold signBit
    omega
  have bits : bitsOf x = x.toBits.toNat := Nat.mod_eq_of_lt small
  have negated := toBits_neg (bits ▸ closest.le)
  refine nearest_iff.2 ⟨?_, ?_⟩
  · rw [isNegative, negated, decide_eq_true_iff]
    exact Nat.le_add_left _ _
  · rwa [bitsOf, negated, Nat.add_mod_right]

/-- **A float made of closest bits is nearest.** -/
lemma Closest.nearest {number : ℚ} {bits : Nat} (closest : Closest (stepsIn number) bits) :
    Nearest false number (Float.ofBits (.ofNat bits)) := by
  refine nearest_iff.2 ⟨?_, by rwa [bitsOf_ofNat closest.le]⟩
  rw [isNegative, toBits_ofNat closest.le, decide_eq_false_iff_not, Nat.not_le]
  exact lt_signBit closest.le

/-! ## The float of a decimal -/

/-- **From the infinite float on everything is rounded to it.** -/
lemma closest_infinityBits {steps : ℚ} (le : stepsOf infinityBits ≤ steps) :
    Closest steps infinityBits := by
  have below {other : Nat} (less : other < infinityBits) :
      |steps - stepsOf infinityBits| < |steps - stepsOf other| := by
    have steps' : (stepsOf other : ℚ) < stepsOf infinityBits :=
      Nat.cast_lt.2 (strictMono_stepsOf less)
    rw [abs_of_nonneg (sub_nonneg.2 le), abs_of_nonneg (sub_nonneg.2 (steps'.le.trans le))]
    linarith
  refine ⟨le_rfl, fun other within => ?_, fun other within ne eq => ?_⟩
  · rcases Nat.lt_or_eq_of_le within with less | rfl
    · exact (below less).le
    · exact le_rfl
  · exact absurd eq (below (Nat.lt_of_le_of_ne within ne)).ne'

/-- **Less than half a step is rounded to zero.** -/
lemma closest_zero {steps : ℚ} (nonneg : 0 ≤ steps) (small : 2 * steps < 1) : Closest steps 0 := by
  have zero : (stepsOf 0 : ℚ) = 0 := by
    rw [stepsOf, if_pos (by decide), Nat.cast_zero]
  refine ⟨Nat.zero_le _, fun other _ => ?_, fun _ _ _ _ => rfl⟩
  rcases Nat.eq_zero_or_pos other with rfl | positive
  · exact le_rfl
  · have one : (1 : ℚ) ≤ stepsOf other :=
      Nat.one_le_cast.2 (Nat.lt_of_le_of_lt (Nat.zero_le _) (strictMono_stepsOf positive))
    rw [zero, sub_zero, abs_of_nonneg nonneg, abs_sub_comm]
    exact le_trans (by linarith) (le_abs_self _)

/-- **The nearest bits are closest**, unless they lie beyond the infinite float; then it is. -/
lemma closest_nearestBits (num : Nat) {den : Nat} (positive : 0 < den) :
    Closest (stepsIn (num / den)) (min infinityBits (nearestBits num den)) := by
  have nearest {other : Nat} (ne : other ≠ nearestBits num den) :=
    nearestBits_nearest num positive ne
  rcases Nat.lt_or_ge infinityBits (nearestBits num den) with beyond | within
  · rw [Nat.min_eq_left beyond.le]
    refine closest_infinityBits ?_
    have near := (nearest beyond.ne).1
    have steps : (stepsOf infinityBits : ℚ) < stepsOf (nearestBits num den) :=
      Nat.cast_lt.2 (strictMono_stepsOf beyond)
    generalize stepsIn (num / den) = t at *
    rcases abs_cases (t - stepsOf (nearestBits num den)) with ⟨a, _⟩ | ⟨a, _⟩
    all_goals rcases abs_cases (t - stepsOf infinityBits) with ⟨b, _⟩ | ⟨b, _⟩
    all_goals
      rw [a, b] at near
      linarith
  · rw [Nat.min_eq_right within]
    refine ⟨within, fun other _ => ?_, fun other _ ne => (nearest ne).2⟩
    by_cases same : other = nearestBits num den
    · rw [same]
    · exact (nearest same).1

/-- **How large a decimal is**, by the place of its leading digit. -/
lemma Digits.value_lt (d : Digits) :
    d.value < 10 ^ (d.exponent + (Nat.toDigits 10 d.digits).length) := by
  have digits : d.digits < 10 ^ (Nat.toDigits 10 d.digits).length :=
    (Nat.length_toDigits_le_iff (by decide) Nat.length_toDigits_pos).1 le_rfl
  rw [Digits.value, zpow_add₀ (by norm_num), zpow_natCast, mul_comm]
  exact mul_lt_mul_of_pos_left (by exact_mod_cast digits) (zpow_pos (by norm_num) _)

lemma Digits.le_value {d : Digits} (some : d.digits ≠ 0) :
    10 ^ (d.exponent + (Nat.toDigits 10 d.digits).length - 1) ≤ d.value := by
  obtain ⟨places, length⟩ :=
    Nat.exists_eq_succ_of_ne_zero (Nat.length_toDigits_pos (b := 10) (n := d.digits)).ne'
  have digits : 10 ^ places ≤ d.digits := by
    rcases Nat.eq_zero_or_pos places with rfl | positive
    · exact Nat.one_le_iff_ne_zero.2 some
    · refine Nat.not_lt.1 fun less => ?_
      have := (Nat.length_toDigits_le_iff (by decide) positive).2 less
      omega
  rw [length, Digits.value, show d.exponent + ((places + 1 : ℕ) : ℤ) - 1 = d.exponent + places by
    push_cast; ring, zpow_add₀ (by norm_num), zpow_natCast, mul_comm]
  exact mul_le_mul_of_nonneg_right (by exact_mod_cast digits) (zpow_nonneg (by norm_num) _)

lemma cast_pow_ten (n : Nat) : ((Nat.pow 10 n : ℕ) : ℚ) = 10 ^ (n : ℤ) := by
  rw [zpow_natCast]
  exact Nat.cast_pow 10 n

/-- A decimal as a quotient. -/
lemma Digits.value_eq_div (d : Digits) :
    d.value =
      (d.digits * Nat.pow 10 d.exponent.toNat : ℕ) / (Nat.pow 10 (-d.exponent).toNat : ℕ) := by
  have split : d.exponent = (d.exponent.toNat : ℤ) - ((-d.exponent).toNat : ℤ) := by omega
  rw [Digits.value, Nat.cast_mul, cast_pow_ten, cast_pow_ten, mul_div_assoc,
    ← zpow_sub₀ (by norm_num), ← split]

/-- **A number below all four hundred places** after the point is less than half a step. -/
lemma two_mul_stepsIn_lt {number : ℚ} (nonneg : 0 ≤ number)
    (small : number < 10 ^ (-(401 : ℕ) : ℤ)) : 2 * stepsIn number < 1 := by
  have half : 2 * stepsOfOne ≤ Nat.pow 10 401 := by decide +kernel
  generalize 401 = places at *
  calc 2 * (number * stepsOfOne)
    _ = number * (2 * stepsOfOne : ℕ) := by rw [Nat.cast_mul, Nat.cast_two]; ring
    _ ≤ number * (Nat.pow 10 places : ℕ) :=
        mul_le_mul_of_nonneg_left (Nat.cast_le.2 half) nonneg
    _ < 10 ^ (-places : ℤ) * 10 ^ (places : ℤ) := by
        rw [cast_pow_ten]
        exact mul_lt_mul_of_pos_right small (zpow_pos (by norm_num) _)
    _ = 1 := by rw [← zpow_add₀ (by norm_num), neg_add_cancel, zpow_zero]

/-- **A number of more than four hundred places** before the point is beyond all finite floats. -/
lemma stepsOf_infinityBits_le {number : ℚ} (large : 10 ^ ((400 : ℕ) : ℤ) ≤ number) :
    stepsOf infinityBits ≤ stepsIn number := by
  have finite : stepsOf infinityBits ≤ Nat.pow 10 400 * stepsOfOne := by decide +kernel
  generalize 400 = places at *
  rw [← cast_pow_ten] at large
  calc (stepsOf infinityBits : ℚ)
    _ ≤ ((Nat.pow 10 places * stepsOfOne : ℕ) : ℚ) := Nat.cast_le.2 finite
    _ = (Nat.pow 10 places : ℕ) * stepsOfOne := Nat.cast_mul _ _
    _ ≤ stepsIn number := mul_le_mul_of_nonneg_right large stepsOfOne_pos.le

/-- **The float of a decimal is the nearest one.** -/
theorem Digits.nearest_toFloat (d : Digits) : Nearest false d.value d.toFloat := by
  have nonneg : 0 ≤ d.value :=
    mul_nonneg (Nat.cast_nonneg _) (zpow_nonneg (by norm_num) _)
  unfold Digits.toFloat
  refine Closest.nearest ?_
  split
  · next tiny =>
      refine closest_zero (mul_nonneg nonneg stepsOfOne_pos.le) ?_
      refine two_mul_stepsIn_lt nonneg ?_
      rcases tiny with zero | places
      · rw [Digits.value, zero, Nat.cast_zero, zero_mul]
        exact zpow_pos (by norm_num) _
      · exact d.value_lt.trans_le (zpow_le_zpow_right₀ (by norm_num) (by omega))
  · next large =>
      rw [not_or] at large
      split
      · next places =>
          refine closest_infinityBits (stepsOf_infinityBits_le (le_trans ?_ (d.le_value large.1)))
          exact zpow_le_zpow_right₀ (by norm_num) (by omega)
      · rw [Digits.value_eq_div]
        exact closest_nearestBits _ (Nat.pow_pos (by decide))

end StoryEngine.Decimal
