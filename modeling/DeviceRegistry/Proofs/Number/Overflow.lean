import DeviceRegistry.Proofs.Number.Rounding

/-! Integers that are too large for a finite number. Rounding goes to infinity from the middle
between the greatest finite number and the power of two that would follow it. -/
namespace DeviceRegistry

/-- A quotient is rounded to an even number or beyond it from the middle below that number on. -/
theorem le_roundedQuotient_iff {numerator denominator s : Nat} (hPositive : 0 < denominator)
    (hEven : s % 2 = 0) :
    s ≤ roundedQuotient numerator denominator ↔
    2 * (denominator * s) ≤ 2 * numerator + denominator := by
  have hSplit := Nat.div_add_mod numerator denominator
  have hRemainder := Nat.mod_lt numerator hPositive
  unfold roundedQuotient
  generalize numerator / denominator = floor, numerator % denominator =
    remainder at hSplit hRemainder ⊢
  dsimp only
  rcases Nat.lt_trichotomy s (floor + 1) with hBelow | rfl | hBeyond
  · have hProduct : denominator * s ≤ denominator * floor :=
      Nat.mul_le_mul_left denominator (Nat.le_of_lt_succ hBelow)
    refine iff_of_true ?_ (by omega)
    split_ifs <;> omega
  · rw [Nat.mul_succ]
    split_ifs <;> omega
  · have hProduct : denominator * floor + denominator + denominator ≤ denominator * s := by
      rw [← Nat.mul_succ, ← Nat.mul_succ]
      exact Nat.mul_le_mul_left denominator hBeyond
    refine iff_of_false ?_ (by omega)
    split_ifs <;> omega

namespace Binary64

/-- The least integer that is rounded to infinity. -/
def overflowStart : Nat := 2 ^ 1024 - 2 ^ 970

/-- The least integer that is rounded to infinity lies half a step beyond the greatest finite value.
-/
theorem overflowStart_eq : ∃ step, 0 < step ∧ (∀ k, 2 ^ (k + 970) = 2 ^ k * step) ∧
    overflowStart = 2 ^ 54 * step - step := by
  rw [overflowStart, show 1024 = 54 + 970 from rfl]
  generalize 970 = quarter
  exact ⟨2 ^ quarter, Nat.two_pow_pos quarter,
    fun k => Nat.pow_add 2 k quarter, by rw [Nat.pow_add]⟩

/-- An integer is at least the power of two of its logarithm. -/
theorem binaryExponent_one {m : Nat} (hSome : m ≠ 0) : binaryExponent m 1 = m.log2 := by
  obtain ⟨hReached, hUnreached⟩ := binaryExponent_spec hSome one_ne_zero
  obtain ⟨hLow, hHigh⟩ := log2_bounds hSome
  rw [Nat.cast_one, div_one] at hReached hUnreached
  have hBelow := (zpow_lt_zpow_iff_right₀ (one_lt_two (α := ℚ))).mp (hReached.trans_lt hHigh)
  have hAbove := (zpow_lt_zpow_iff_right₀ (one_lt_two (α := ℚ))).mp (hLow.trans_lt hUnreached)
  omega

/-- The rank of an integer counts the exponents below its own, and the steps from the
least significand. -/
theorem nearestRank_one {m : Nat} (hSome : m ≠ 0) : ∃ significand,
    nearestRank m 1 = (m.log2 + 1022) * fractionCount + significand ∧
      fractionCount ≤ significand ∧ significand < 2 * fractionCount + 2 ∧
      (m.log2 = 1023 → (2 * fractionCount ≤ significand ↔ overflowStart ≤ m)) := by
  have hExponent : max (binaryExponent m 1 - 52) (-1074) = (m.log2 : Int) - 52 := by
    rw [binaryExponent_one hSome]
    omega
  have hAbove : powerOf 2 ((m.log2 : Int) - 52) = 2 ^ (m.log2 - 52) := congrArg (2 ^ ·) (by omega)
  have hBelow : powerOf 2 (-((m.log2 : Int) - 52)) = 2 ^ (52 - m.log2) :=
    congrArg (2 ^ ·) (by omega)
  have hSteps : ((m.log2 : Int) - 52 + 1074).toNat = m.log2 + 1022 := by omega
  have hPositive : 0 < 2 ^ (m.log2 - 52) := Nat.two_pow_pos _
  have hScaled : 2 ^ m.log2 * 2 ^ (52 - m.log2) = fractionCount * 2 ^ (m.log2 - 52) := by
    rw [← Nat.pow_add, show m.log2 + (52 - m.log2) = 52 + (m.log2 - 52) by omega, Nat.pow_add]
    rfl
  have hLow : fractionCount * 2 ^ (m.log2 - 52) ≤ m * 2 ^ (52 - m.log2) :=
    hScaled ▸ Nat.mul_le_mul_right _ (Nat.log2_self_le hSome)
  have hHigh : m * 2 ^ (52 - m.log2) < 2 * (fractionCount * 2 ^ (m.log2 - 52)) := by
    calc
      m * 2 ^ (52 - m.log2) < 2 ^ (m.log2 + 1) * 2 ^ (52 - m.log2) :=
        Nat.mul_lt_mul_of_pos_right Nat.lt_log2_self (Nat.two_pow_pos _)
      _ = 2 * (fractionCount * 2 ^ (m.log2 - 52)) := by rw [Nat.pow_succ', Nat.mul_assoc, hScaled]
  have hRank : nearestRank m 1 = (m.log2 + 1022) * fractionCount +
      roundedQuotient (m * 2 ^ (52 - m.log2)) (2 ^ (m.log2 - 52)) := by
    rw [nearestRank, if_neg hSome, hExponent]
    dsimp only
    rw [hAbove, hBelow, hSteps, Nat.one_mul]
  refine ⟨_, hRank, (le_roundedQuotient_iff hPositive (by decide)).mpr ?_,
    lt_of_not_ge (mt (le_roundedQuotient_iff hPositive (by decide)).mp ?_), fun hLast => ?_⟩
  · unfold fractionCount at *
    omega
  · unfold fractionCount at *
    omega
  · obtain ⟨step, hStep, hPowers, hStart⟩ := overflowStart_eq
    rw [le_roundedQuotient_iff hPositive (by decide), hLast, hStart,
      show 1023 - 52 = 1 + 970 from rfl, hPowers]
    unfold fractionCount
    omega

/-- An integer is rounded to infinity from the middle below the first power of two that is
too large. -/
theorem infinityRank_le_nearestRank_iff (m : Nat) :
    infinityRank ≤ nearestRank m 1 ↔ overflowStart ≤ m := by
  obtain ⟨step, hStep, hPowers, hStart⟩ := overflowStart_eq
  by_cases hSome : m = 0
  · rw [hSome, nearestRank, if_pos rfl, hStart]
    exact iff_of_false (by decide) (by omega)
  obtain ⟨significand, hRank, hLeast, hMost, hLast⟩ := nearestRank_one hSome
  have hLow := Nat.log2_self_le hSome
  have hHigh : m < 2 ^ (m.log2 + 1) := Nat.lt_log2_self
  rw [hRank, hStart]
  rcases Nat.lt_trichotomy m.log2 1023 with hSmall | hMiddle | hLarge
  · have hPower : 2 ^ (m.log2 + 1) ≤ 2 ^ 53 * step := by
      rw [← hPowers]
      exact pow_le_pow_right₀ one_le_two (by omega)
    unfold infinityRank fractionCount at *
    exact iff_of_false (by omega) (by omega)
  · rw [← hStart, ← hLast hMiddle, hMiddle]
    unfold infinityRank
    omega
  · have hPower : 2 ^ 54 * step ≤ 2 ^ m.log2 := by
      rw [← hPowers]
      exact pow_le_pow_right₀ one_le_two (by omega)
    unfold infinityRank fractionCount at *
    exact iff_of_true (by omega) (by omega)

/-- An integer is infinite as a number exactly if it is too large. -/
theorem isInfinite_ofInt_iff (n : Int) :
    (ofInt n).isInfinite = true ↔ overflowStart ≤ n.natAbs := by
  rw [← infinityRank_le_nearestRank_iff, isInfinite, decide_eq_true_eq]
  exact min_eq_right_iff

end Binary64

end DeviceRegistry
