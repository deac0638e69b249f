import DeviceRegistry.Number.Rounding
import DeviceRegistry.Proofs.Number.Value

/-! Rounding to the nearest binary number. A fraction that is no further from a magnitude than the
middles to its neighbours, and in a middle only where the significand is even, is rounded to that
magnitude. Below a power of two the neighbours lie closer, so that such a fraction may be rounded in
steps of half the size. -/
namespace DeviceRegistry

/-- A quotient not further than a half from a natural number is rounded to it, and if it is exactly
a half away then the number has to be even. -/
theorem roundedQuotient_eq {numerator denominator s : Nat} (hDenominator : 0 < denominator)
    (hLow : (s : ℚ) - 1 / 2 ≤ numerator / denominator)
    (hHigh : (numerator : ℚ) / denominator ≤ s + 1 / 2)
    (hLowEnd : (numerator : ℚ) / denominator = s - 1 / 2 → s % 2 = 0)
    (hHighEnd : (numerator : ℚ) / denominator = s + 1 / 2 → s % 2 = 0) :
    roundedQuotient numerator denominator = s := by
  have hPositive : (0 : ℚ) < denominator := Nat.cast_pos.mpr hDenominator
  have hLeast : 2 * (denominator * s) ≤ 2 * numerator + denominator := by
    have hScaled := (le_div_iff₀ hPositive).mp hLow
    exact_mod_cast (by linarith : (2 : ℚ) * (denominator * s) ≤ 2 * numerator + denominator)
  have hMost : 2 * numerator ≤ 2 * (denominator * s) + denominator := by
    have hScaled := (div_le_iff₀ hPositive).mp hHigh
    exact_mod_cast (by linarith : (2 : ℚ) * numerator ≤ 2 * (denominator * s) + denominator)
  have hEvenAtLow : 2 * (denominator * s) = 2 * numerator + denominator → s % 2 = 0 := by
    intro hEnd
    have hCast : (2 : ℚ) * (denominator * s) = 2 * numerator + denominator := by exact_mod_cast hEnd
    exact hLowEnd ((div_eq_iff hPositive.ne').mpr (by linarith))
  have hEvenAtHigh : 2 * numerator = 2 * (denominator * s) + denominator → s % 2 = 0 := by
    intro hEnd
    have hCast : (2 : ℚ) * numerator = 2 * (denominator * s) + denominator := by exact_mod_cast hEnd
    exact hHighEnd ((div_eq_iff hPositive.ne').mpr (by linarith))
  have hSplit := Nat.div_add_mod numerator denominator
  have hRemainder := Nat.mod_lt numerator hDenominator
  unfold roundedQuotient
  generalize numerator / denominator = floor, numerator % denominator =
    remainder at hSplit hRemainder ⊢
  dsimp only
  rcases Nat.lt_trichotomy s floor with hLess | rfl | hGreater
  · have hProduct : denominator * s + denominator ≤ denominator * floor := by
      rw [← Nat.mul_succ]
      exact Nat.mul_le_mul_left denominator hLess
    omega
  · split
    · rfl
    · split
      · omega
      · rw [if_pos (hEvenAtHigh (by omega))]
  · rcases Nat.lt_or_ge (floor + 1) s with hBeyond | hNext
    · have hProduct : denominator * floor + denominator + denominator ≤ denominator * s := by
        rw [← Nat.mul_succ, ← Nat.mul_succ]
        exact Nat.mul_le_mul_left denominator hBeyond
      omega
    · obtain rfl : s = floor + 1 := by omega
      rw [Nat.mul_succ] at hLeast hMost hEvenAtLow
      split
      · omega
      · split
        · rfl
        · rw [if_neg]
          have hEven := hEvenAtLow (by omega)
          omega

namespace Binary64

section Parts

variable (x : Binary64)

theorem neg_le_exponent : -1074 ≤ x.exponent := by
  unfold exponent
  omega

theorem significand_lt : x.significand < 2 * fractionCount := by
  unfold significand fractionCount
  split <;> omega

theorem significand_add_one_le : (x.significand : ℚ) + 1 ≤ 2 * fractionCount := by
  exact_mod_cast x.significand_lt

/-- Every step of the exponent counts the values of one exponent. -/
theorem rank_eq : x.rank = (x.exponent + 1074).toNat * fractionCount + x.significand := by
  unfold exponent significand fractionCount
  split <;> omega

/-- Above the least exponent the significand has its leading digit. -/
theorem fractionCount_le_significand (hExponent : -1074 < x.exponent) :
    fractionCount ≤ x.significand := by
  unfold exponent at hExponent
  unfold significand fractionCount at *
  split <;> omega

/-- The magnitudes below a power of two lie closer. -/
theorem narrowBelow_of_eq (hExponent : -1074 < x.exponent)
    (hSignificand : x.significand = fractionCount) :
    x.narrowBelow = true := by
  unfold exponent at hExponent
  unfold significand at hSignificand
  unfold narrowBelow fractionCount at *
  rw [Bool.and_eq_true, decide_eq_true_eq, decide_eq_true_eq]
  split at hSignificand <;> omega

end Parts

/-- A number lies between the power of two of its logarithm and the next one. -/
theorem log2_bounds {n : Nat} (hn : n ≠ 0) :
    (2 : ℚ) ^ (n.log2 : Int) ≤ n ∧ (n : ℚ) < 2 ^ ((n.log2 : Int) + 1) := by
  constructor
  · rw [zpow_natCast]
    exact_mod_cast Nat.log2_self_le hn
  · rw [← Nat.cast_succ, zpow_natCast]
    exact_mod_cast Nat.lt_log2_self

/-- The binary exponent of a quotient is that of the greatest power of two that it reaches. -/
theorem binaryExponent_spec {numerator denominator : Nat} (hNumerator : numerator ≠ 0)
    (hDenominator : denominator ≠ 0) :
    (2 : ℚ) ^ binaryExponent numerator denominator ≤ numerator / denominator ∧
      (numerator : ℚ) / denominator < 2 ^ (binaryExponent numerator denominator + 1) := by
  have hPositive : (0 : ℚ) < denominator := Nat.cast_pos.mpr (Nat.pos_of_ne_zero hDenominator)
  obtain ⟨hNumeratorLow, hNumeratorHigh⟩ := log2_bounds hNumerator
  obtain ⟨hDenominatorLow, hDenominatorHigh⟩ := log2_bounds hDenominator
  unfold binaryExponent
  generalize hEstimate : (numerator.log2 : Int) - denominator.log2 = estimate
  have hAbove : (numerator : ℚ) / denominator < 2 ^ (estimate + 1) := by
    rw [div_lt_iff₀ hPositive]
    calc
      (numerator : ℚ) < 2 ^ ((numerator.log2 : Int) + 1) := hNumeratorHigh
      _ = 2 ^ (estimate + 1) * 2 ^ (denominator.log2 : Int) := by
        rw [← zpow_add₀ two_ne_zero]
        congr 1
        omega
      _ ≤ 2 ^ (estimate + 1) * denominator := by gcongr
  have hBelow : (2 : ℚ) ^ (estimate - 1) ≤ numerator / denominator := by
    rw [le_div_iff₀ hPositive]
    calc
      (2 : ℚ) ^ (estimate - 1) * denominator ≤ 2 ^ (estimate - 1) * 2 ^
        ((denominator.log2 : Int) + 1) := by
        gcongr
      _ = 2 ^ (numerator.log2 : Int) := by
        rw [← zpow_add₀ two_ne_zero]
        congr 1
        omega
      _ ≤ numerator := hNumeratorLow
  have hReaches : denominator * powerOf 2 estimate ≤ numerator * powerOf 2 (-estimate) ↔
      (2 : ℚ) ^ estimate ≤ numerator / denominator := by
    have hPower : (0 : ℚ) < powerOf 2 (-estimate) := Nat.cast_pos.mpr (powerOf_pos (by decide) _)
    rw [← Nat.cast_le (α := ℚ), Nat.cast_mul, Nat.cast_mul,
      powerOf_eq (show 0 < 2 by decide) estimate,
      ← mul_assoc, mul_le_mul_iff_left₀ hPower, le_div_iff₀' hPositive]
    norm_num
  dsimp only
  split
  · rename_i hTest
    exact ⟨hReaches.mp hTest, hAbove⟩
  · rename_i hTest
    rw [sub_add_cancel]
    exact ⟨hBelow, lt_of_not_ge fun hReached => hTest (hReaches.mpr hReached)⟩

theorem fractionCount_eq : (fractionCount : ℚ) = 2 ^ (52 : Int) := by
  norm_num [fractionCount]

namespace Attracts

variable {x : Binary64} {q : ℚ} {binary : Int}

/-- What rounds to a magnitude is taken in steps that are not larger than those of the magnitude. -/
theorem exponent_le (hAttracts : x.Attracts q) (hReached : (2 : ℚ) ^ binary ≤ q) :
    max (binary - 52) (-1074) ≤ x.exponent := by
  refine max_le ?_ x.neg_le_exponent
  by_contra hLarger
  have hSignificand := x.significand_add_one_le
  have hPower : (0 : ℚ) < 2 ^ x.exponent := by positivity
  have hBeyond : q < 2 ^ binary := by
    calc
      q ≤ (x.significand + 1 / 2) * 2 ^ x.exponent := hAttracts.high
      _ < 2 * fractionCount * 2 ^ x.exponent := mul_lt_mul_of_pos_right (by linarith) hPower
      _ = 2 ^ (x.exponent + 53) := by
        rw [fractionCount_eq, zpow_add₀ two_ne_zero]
        ring
      _ ≤ 2 ^ binary := zpow_le_zpow_right₀ one_le_two (by omega)
  exact absurd hReached hBeyond.not_ge

/-- What rounds to a magnitude and is taken in smaller steps lies just below a power of two. -/
theorem of_exponent_lt (hAttracts : x.Attracts q) (hUnreached : q < 2 ^ (binary + 1))
    (hSmaller : max (binary - 52) (-1074) < x.exponent) :
    x.significand = fractionCount ∧ x.reachBelow = 1 / 4 ∧ max (binary - 52) (-1074) =
      x.exponent - 1 ∧
      q < fractionCount * 2 ^ x.exponent := by
  have hPower : (0 : ℚ) < 2 ^ x.exponent := by positivity
  have hLess : q < fractionCount * 2 ^ x.exponent := by
    calc
      q < 2 ^ (binary + 1) := hUnreached
      _ ≤ 2 ^ (x.exponent + 52) := zpow_le_zpow_right₀ one_le_two (by omega)
      _ = fractionCount * 2 ^ x.exponent := by
        rw [fractionCount_eq, zpow_add₀ two_ne_zero, mul_comm]
  have hAtLeast := x.fractionCount_le_significand (by omega)
  have hAtMost : x.significand ≤ fractionCount := by
    have hMiddle := lt_of_mul_lt_mul_right (hAttracts.low.trans_lt hLess) hPower.le
    have hReach := x.reachBelow_le
    exact Nat.lt_succ_iff.mp
      (by exact_mod_cast (by linarith : (x.significand : ℚ) < fractionCount + 1))
  have hSignificand := le_antisymm hAtMost hAtLeast
  have hNarrow := x.narrowBelow_of_eq (by omega) hSignificand
  have hReach : x.reachBelow = 1 / 4 := if_pos hNarrow
  refine ⟨hSignificand, hReach, ?_, hLess⟩
  have hBinary : x.exponent + 51 < binary + 1 := by
    refine (zpow_lt_zpow_iff_right₀ (one_lt_two (α := ℚ))).mp ?_
    calc
      (2 : ℚ) ^ (x.exponent + 51) = fractionCount / 2 * 2 ^ x.exponent := by
        rw [fractionCount_eq, zpow_add₀ two_ne_zero]
        norm_num
        ring
      _ ≤ (x.significand - x.reachBelow) * 2 ^ x.exponent := by
        rw [hSignificand, hReach, fractionCount_eq]
        exact mul_le_mul_of_nonneg_right (by norm_num) hPower.le
      _ ≤ q := hAttracts.low
      _ < 2 ^ (binary + 1) := hUnreached
  omega

variable {numerator denominator : Nat} (hDenominator : 0 < denominator)

include hDenominator

/-- In steps of the magnitude its significand is the nearest number. -/
theorem roundedQuotient_steps (hAttracts : x.Attracts q)
    (hStep : (numerator : ℚ) / denominator = q / 2 ^ x.exponent) :
    roundedQuotient numerator denominator = x.significand := by
  have hPower : (0 : ℚ) < 2 ^ x.exponent := by positivity
  have hReach := x.reachBelow_le
  have hLow := (le_div_iff₀ hPower).mpr hAttracts.low
  have hHigh := (div_le_iff₀ hPower).mpr hAttracts.high
  apply roundedQuotient_eq hDenominator
  all_goals rw [hStep]
  · linarith
  · exact hHigh
  · intro hEnd
    have hMiddle : x.reachBelow = 1 / 2 := by linarith
    refine hAttracts.even_of_low ?_
    rw [hMiddle, ← hEnd, div_mul_cancel₀ _ hPower.ne']
  · intro hEnd
    refine hAttracts.even_of_high ?_
    rw [← hEnd, div_mul_cancel₀ _ hPower.ne']

/-- Just below a power of two, in steps of half the size, the nearest number is that power. -/
theorem roundedQuotient_half_steps (hAttracts : x.Attracts q)
    (hSignificand : x.significand = fractionCount) (hReach : x.reachBelow = 1 / 4)
    (hBelow : q < fractionCount * 2 ^ x.exponent)
    (hStep : (numerator : ℚ) / denominator = q / 2 ^ (x.exponent - 1)) :
    roundedQuotient numerator denominator = 2 * fractionCount := by
  have hPower : (0 : ℚ) < 2 ^ (x.exponent - 1) := by positivity
  have hDouble : (2 : ℚ) ^ x.exponent = 2 * 2 ^ (x.exponent - 1) := by
    rw [← zpow_one_add₀ two_ne_zero]
    congr 1
    omega
  have hLow : 2 * (fractionCount : ℚ) - 1 / 2 ≤ q / 2 ^ (x.exponent - 1) := by
    rw [le_div_iff₀ hPower]
    have hAtLeast := hAttracts.low
    rw [hSignificand, hReach, hDouble] at hAtLeast
    linarith
  have hHigh : q / 2 ^ (x.exponent - 1) < 2 * fractionCount := by
    rw [div_lt_iff₀ hPower]
    rw [hDouble] at hBelow
    linarith
  apply roundedQuotient_eq hDenominator
  · rw [hStep]
    push_cast
    exact hLow
  · rw [hStep]
    push_cast
    linarith
  · exact fun _ => Nat.mul_mod_right 2 fractionCount
  · exact fun _ => Nat.mul_mod_right 2 fractionCount

end Attracts

/-- A fraction that rounds to a magnitude is rounded to it. -/
theorem nearestRank_eq {x : Binary64} {numerator denominator : Nat} (hNumerator : numerator ≠ 0)
    (hDenominator : denominator ≠ 0) (hAttracts : x.Attracts (numerator / denominator)) :
    nearestRank numerator denominator = x.rank := by
  obtain ⟨hReached, hUnreached⟩ := binaryExponent_spec hNumerator hDenominator
  rw [nearestRank, if_neg hNumerator]
  generalize binaryExponent numerator denominator = binary at hReached hUnreached ⊢
  dsimp only
  have hNotLarger := hAttracts.exponent_le hReached
  have hSmaller := hAttracts.of_exponent_lt hUnreached
  have hLeast : -1074 ≤ max (binary - 52) (-1074) := le_max_right _ _
  generalize max (binary - 52) (-1074) = exponent at hNotLarger hSmaller hLeast ⊢
  have hStep : ((numerator * powerOf 2 (-exponent) : ℕ) : ℚ) /
      (denominator * powerOf 2 exponent : ℕ) =
      numerator / denominator / 2 ^ exponent := by
    have hMoved := mul_powerOf_div (show 0 < 2 by decide) (-exponent) numerator denominator
    rw [neg_neg, zpow_neg, ← div_eq_mul_inv] at hMoved
    exact_mod_cast hMoved
  have hPositive : 0 < denominator * powerOf 2 exponent :=
    Nat.mul_pos (Nat.pos_of_ne_zero hDenominator) (powerOf_pos (by decide) _)
  -- Either the fraction is taken in the steps of the magnitude, or it lies just below a power of
  -- two.
  rcases hNotLarger.eq_or_lt with rfl | hLess
  · rw [hAttracts.roundedQuotient_steps hPositive hStep, ← x.rank_eq]
  · obtain ⟨hSignificand, hReach, rfl, hBelow⟩ := hSmaller hLess
    have hSteps : (x.exponent + 1074).toNat = (x.exponent - 1 + 1074).toNat + 1 := by omega
    rw [hAttracts.roundedQuotient_half_steps hPositive hSignificand hReach hBelow hStep,
      x.rank_eq, hSignificand, hSteps]
    ring

/-- A sign and a rank that is not beyond infinity are those of a number. -/
theorem ofRank_eq {x : Binary64} {rank : Nat} (hRank : rank = x.rank)
    (hBounded : rank ≤ infinityRank) :
    ofRank x.negative rank = x := by
  have hMin : min rank infinityRank = x.rank := by rw [min_eq_left hBounded, hRank]
  unfold ofRank
  congr 1

section Decimals

variable {x : Binary64} {q : ℚ}

/-- What rounds to a finite magnitude is below the power of two at which infinity begins. -/
theorem Attracts.lt_infinity (hAttracts : x.Attracts q) (hFinite : x.isFinite = true) :
    q < 2 ^ (1024 : Int) := by
  have hExponent : x.exponent ≤ 971 := by
    have hRank : x.rank < infinityRank := of_decide_eq_true hFinite
    unfold exponent
    unfold infinityRank fractionCount at *
    omega
  have hSignificand := x.significand_add_one_le
  have hPower : (0 : ℚ) < 2 ^ x.exponent := by positivity
  calc
    q ≤ (x.significand + 1 / 2) * 2 ^ x.exponent := hAttracts.high
    _ < 2 * fractionCount * 2 ^ x.exponent := mul_lt_mul_of_pos_right (by linarith) hPower
    _ ≤ 2 * fractionCount * 2 ^ (971 : Int) := by
      gcongr
      norm_num
    _ = 2 ^ (1024 : Int) := by
      rw [fractionCount_eq, ← zpow_one_add₀ two_ne_zero, ← zpow_add₀ two_ne_zero]
      norm_num

/-- What rounds to a magnitude other than zero is at least half of the least such magnitude. -/
theorem Attracts.half_least_le (hAttracts : x.Attracts q) (hNonzero : x.significand ≠ 0) :
    (2 : ℚ) ^ (-1075 : Int) ≤ q := by
  have hReach := x.reachBelow_le
  have hSignificand : (1 : ℚ) ≤ x.significand := by
    exact_mod_cast Nat.one_le_iff_ne_zero.mpr hNonzero
  calc
    (2 : ℚ) ^ (-1075 : Int) = 1 / 2 * 2 ^ (-1074 : Int) := by
      rw [one_div, ← zpow_neg_one, ← zpow_add₀ two_ne_zero]
      norm_num
    _ ≤ 1 / 2 * 2 ^ x.exponent := by
      gcongr
      · norm_num
      · exact x.neg_le_exponent
    _ ≤ (x.significand - x.reachBelow) * 2 ^ x.exponent := by
      gcongr
      linarith
    _ ≤ q := hAttracts.low

/-- Powers of two grow less than those of ten with a third of their exponents. -/
theorem two_zpow_lt : (2 : ℚ) ^ (1200 : Int) < 10 ^ (401 : Int) := by
  calc
    (2 : ℚ) ^ (1200 : Int) = 8 ^ (400 : Int) := by
      rw [show (1200 : Int) = 3 * 400 by rfl, zpow_mul]
      norm_num
    _ ≤ 10 ^ (400 : Int) := zpow_le_zpow_left₀ (by norm_num) (by norm_num) (by norm_num)
    _ < 10 ^ (401 : Int) := zpow_lt_zpow_right₀ (by norm_num) (by norm_num)

/-- A decimal has at least as many places as its length tells. -/
theorem lt_ten_pow_length (digits : Nat) : digits < 10 ^ (digits.log2 / 3 + 1) := by
  calc
    digits < 2 ^ (digits.log2 + 1) := Nat.lt_log2_self
    _ ≤ 2 ^ (3 * (digits.log2 / 3 + 1)) := Nat.pow_le_pow_right (by decide) (by omega)
    _ = 8 ^ (digits.log2 / 3 + 1) := by rw [Nat.pow_mul]
    _ ≤ 10 ^ (digits.log2 / 3 + 1) := Nat.pow_le_pow_left (by decide) _

/-- A decimal below infinity has no huge exponent. -/
theorem exponent_le_of_value_lt {d : Decimal} (hDigits : d.digits ≠ 0)
    (hMost : d.value < 2 ^ (1024 : Int)) :
    d.exponent ≤ 400 := by
  by_contra hHuge
  have hHugeValue : (10 : ℚ) ^ (401 : Int) ≤ d.value := by
    calc
      (10 : ℚ) ^ (401 : Int) ≤ 1 * 10 ^ d.exponent := by
        rw [one_mul]
        exact zpow_le_zpow_right₀ (by norm_num) (by omega)
      _ ≤ d.value := by
        unfold Decimal.value
        gcongr
        exact_mod_cast Nat.one_le_iff_ne_zero.mpr hDigits
  have hInfinity : (2 : ℚ) ^ (1024 : Int) < 10 ^ (401 : Int) :=
    (zpow_le_zpow_right₀ one_le_two (by norm_num)).trans_lt two_zpow_lt
  exact absurd (hMost.trans hInfinity) hHugeValue.not_gt

/-- A decimal that is not lost to zero has places that are not tiny. -/
theorem le_exponent_of_le_value {d : Decimal} (hLeast : (2 : ℚ) ^ (-1075 : Int) ≤ d.value) :
    -400 ≤ d.exponent + (d.digits.log2 / 3 + 1 : Nat) := by
  by_contra hTiny
  have hTinyValue : d.value ≤ 10 ^ (-401 : Int) := by
    calc
      d.value ≤ 10 ^ ((d.digits.log2 / 3 + 1 : Nat) : Int) * 10 ^ d.exponent := by
        unfold Decimal.value
        gcongr
        rw [zpow_natCast]
        exact_mod_cast (lt_ten_pow_length d.digits).le
      _ = 10 ^ (d.exponent + (d.digits.log2 / 3 + 1 : Nat)) := by
        rw [zpow_add₀ (by norm_num), mul_comm]
      _ ≤ 10 ^ (-401 : Int) := zpow_le_zpow_right₀ (by norm_num) (by omega)
  have hLess : (10 : ℚ) ^ (-401 : Int) < 2 ^ (-1075 : Int) := by
    calc
      (10 : ℚ) ^ (-401 : Int) < 2 ^ (-1200 : Int) := by
        rw [zpow_neg, zpow_neg]
        exact inv_strictAnti₀ (by positivity) two_zpow_lt
      _ ≤ 2 ^ (-1075 : Int) := zpow_le_zpow_right₀ one_le_two (by norm_num)
  exact absurd (hTinyValue.trans_lt hLess) hLeast.not_gt

/-- A decimal that rounds to a finite number other than zero is read as this number. -/
theorem ofDecimal_eq (hFinite : x.isFinite = true) (hNonzero : x.significand ≠ 0) {d : Decimal}
    (hAttracts : x.Attracts d.value) : ofDecimal x.negative d.digits d.exponent = x := by
  have hLeast := hAttracts.half_least_le hNonzero
  have hMost := hAttracts.lt_infinity hFinite
  have hDigits : d.digits ≠ 0 := by
    intro hZero
    rw [Decimal.value, hZero, Nat.cast_zero, zero_mul] at hLeast
    exact absurd hLeast (by positivity : (0 : ℚ) < 2 ^ (-1075 : Int)).not_ge
  have hNotHuge := (exponent_le_of_value_lt hDigits hMost).not_gt
  have hNotTiny := (le_exponent_of_le_value hLeast).not_gt
  have hQuotient : ((d.digits * powerOf 10 d.exponent : ℕ) : ℚ) / (powerOf 10 (-d.exponent) : ℕ) =
      d.value := by
    have hMoved := mul_powerOf_div (show 0 < 10 by decide) d.exponent d.digits 1
    rw [one_mul, div_one] at hMoved
    exact_mod_cast hMoved
  rw [ofDecimal, if_neg hDigits, if_neg hNotHuge, if_neg hNotTiny, ofQuotient,
    nearestRank_eq (Nat.mul_ne_zero hDigits (powerOf_pos (by decide) _).ne')
      (powerOf_pos (by decide) _).ne'
      (hQuotient ▸ hAttracts)]
  exact ofRank_eq rfl (of_decide_eq_true hFinite).le

end Decimals

end Binary64

end DeviceRegistry
