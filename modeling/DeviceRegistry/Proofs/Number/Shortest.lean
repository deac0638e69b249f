import DeviceRegistry.Proofs.Number.Value

/-! The digits that are written for a real are never zero, unless the real is, and they stand for a
fraction that rounds to the real. -/
namespace DeviceRegistry

namespace Decimal

theorem normalized_digits_ne_zero (digits : Nat) (exponent : Int) (hDigits : digits ≠ 0) :
    (normalized digits exponent).digits ≠ 0 := by
  induction digits, exponent using normalized.induct with
  | case1 digits exponent hTrailing ih =>
      rw [normalized, dif_pos hTrailing]
      exact ih (by omega)
  | case2 digits exponent hNone =>
      rw [normalized, dif_neg hNone]
      exact hDigits

end Decimal

namespace Binary64

theorem significand_ne_zero {x : Binary64} (hZero : x.isZero = false) : x.significand ≠ 0 := by
  have hRank : x.rank ≠ 0 := of_decide_eq_false hZero
  unfold significand
  split
  · exact hRank
  · unfold fractionCount
    omega

/-- No number but zero is read where zero is written. -/
theorem readsBack_zero {x : Binary64} (hZero : x.isZero = false) (power : Int) :
    x.readsBack ⟨0, power⟩ = false := by
  have hSignificand := significand_ne_zero hZero
  have hBelow : ∀ low, low ≠ 0 → Decimal.compareScaled 0 power low (x.exponent - 2) = .lt := by
    intro low hLow
    have hPos : 0 < low * powerOf 2 (x.exponent - 2) * powerOf 10 (-power) :=
      Nat.mul_pos (Nat.mul_pos (Nat.pos_of_ne_zero hLow) (powerOf_pos (by decide) _))
        (powerOf_pos (by decide) _)
    rw [Decimal.compareScaled, Nat.zero_mul, Nat.zero_mul]
    exact Nat.compare_eq_lt.mpr hPos
  have hLow : (if x.narrowBelow then 4 * x.significand - 1 else 4 * x.significand - 2) ≠ 0 := by
    split <;> omega
  simp [readsBack, hBelow _ hLow]

/-- No digits of zero are read back as a magnitude other than zero. -/
theorem onGridReadingBack_digits_ne_zero {x : Binary64} (hZero : x.isZero = false)
    {power : Int} {d : Decimal} (hFound : x.onGridReadingBack power = some d) : d.digits ≠ 0 := by
  have hLowNonzero : x.readsBack ⟨x.onGrid power, power⟩ = true → x.onGrid power ≠ 0 := by
    intro hReads hGrid
    rw [hGrid, readsBack_zero hZero] at hReads
    cases hReads
  unfold onGridReadingBack at hFound
  dsimp only at hFound
  split at hFound
  · rename_i hBoth
    have hLow := hLowNonzero (Bool.and_eq_true_iff.mp hBoth).1
    split at hFound
    all_goals
      obtain rfl := Option.some.inj hFound
      exact Decimal.normalized_digits_ne_zero _ _ (by omega)
  · split at hFound
    · rename_i hBelow
      obtain rfl := Option.some.inj hFound
      exact Decimal.normalized_digits_ne_zero _ _ (hLowNonzero hBelow)
    · split at hFound
      · obtain rfl := Option.some.inj hFound
        exact Decimal.normalized_digits_ne_zero _ _ (by omega)
      · cases hFound

/-- The digits that identify a number other than zero are not zero. -/
theorem shortest_digits_ne_zero {x : Binary64} (hZero : x.isZero = false) :
    x.shortest.digits ≠ 0 := by
  unfold shortest
  dsimp only
  split
  · rename_i d hFound
    obtain ⟨n, -, hGrid⟩ := List.exists_of_findSome?_eq_some hFound
    exact onGridReadingBack_digits_ne_zero hZero hGrid
  · apply Decimal.normalized_digits_ne_zero
    have hSignificand := significand_ne_zero hZero
    have hTwo : powerOf 2 x.exponent ≠ 0 := Nat.ne_of_gt (powerOf_pos (by decide) _)
    have hFive : powerOf 5 (-x.exponent) ≠ 0 := Nat.ne_of_gt (powerOf_pos (by decide) _)
    exact Nat.mul_ne_zero (Nat.mul_ne_zero hSignificand hTwo) hFive

/-- Digits that are found on a grid stand for a fraction that rounds to the magnitude. Of two that
read back the nearer one is taken, and the even one where both are equally near. -/
theorem attracts_of_onGrid {x : Binary64} (hZero : x.isZero = false) {power : Int} {d : Decimal}
    (hFound : x.onGridReadingBack power = some d) : x.Attracts d.value := by
  have hReads {digits : Nat} (hDigits : x.readsBack ⟨digits, power⟩ = true) :
      x.Attracts (Decimal.normalized digits power).value := by
    rw [Decimal.normalized_value]
    exact attracts_of_readsBack (significand_ne_zero hZero) hDigits
  unfold onGridReadingBack at hFound
  dsimp only at hFound
  split at hFound
  · rename_i hBoth
    obtain ⟨hBelow, hAbove⟩ := Bool.and_eq_true_iff.mp hBoth
    split at hFound
    · obtain rfl := Option.some.inj hFound
      exact hReads hBelow
    · obtain rfl := Option.some.inj hFound
      exact hReads hAbove
    · obtain rfl := Option.some.inj hFound
      rcases Nat.mod_two_eq_zero_or_one (x.onGrid power) with hEven | hOdd
      · rw [hEven]
        exact hReads hBelow
      · rw [hOdd]
        exact hReads hAbove
  · split at hFound
    · rename_i hBelow
      obtain rfl := Option.some.inj hFound
      exact hReads hBelow
    · split at hFound
      · rename_i hAbove
        obtain rfl := Option.some.inj hFound
        exact hReads hAbove
      · cases hFound

/-- The exact decimal stands for the magnitude. Below one, powers of five are taken for
those of two. -/
theorem exactDecimal_value (x : Binary64) : x.exactDecimal.value = x.magnitude := by
  rw [exactDecimal, Decimal.normalized_value, Decimal.value, magnitude]
  rcases le_total 0 x.exponent with hNonneg | hNonpos
  · obtain ⟨n, hn⟩ := Int.eq_ofNat_of_zero_le hNonneg
    rw [min_eq_right hNonneg, hn]
    simp [powerOf]
  · obtain ⟨n, hn⟩ := Int.eq_ofNat_of_zero_le (Int.neg_nonneg_of_nonpos hNonpos)
    have hExponent : x.exponent = -(n : Int) := by omega
    have hTen : (10 : ℚ) ^ n = 5 ^ n * 2 ^ n := by rw [← mul_pow]; norm_num
    rw [min_eq_left hNonpos, hExponent]
    simp only [powerOf, Nat.pow_eq, neg_neg, Int.toNat_natCast, Int.toNat_neg_natCast, zpow_neg,
      zpow_natCast, hTen]
    push_cast
    field_simp

/-- The digits that are written for a number other than zero stand for a fraction that
rounds to it. -/
theorem attracts_shortest {x : Binary64} (hZero : x.isZero = false) :
    x.Attracts x.shortest.value := by
  unfold shortest
  dsimp only
  split
  · rename_i d hFound
    obtain ⟨n, -, hGrid⟩ := List.exists_of_findSome?_eq_some hFound
    exact attracts_of_onGrid hZero hGrid
  · rw [exactDecimal_value]
    exact x.attracts_magnitude

end Binary64

end DeviceRegistry
