import DeviceRegistry.Proofs.Number.Rounding

/-! The order of places is the order of the numbers that they stand for, and a whole number of at
most fifty-three bits is one of those numbers, so that it is reached without rounding. -/
namespace DeviceRegistry.Binary64

def number (x : Binary64) : ℚ := if x.negative then -x.magnitude else x.magnitude

section Order

variable {x y : Binary64}

/-- A higher rank is a greater magnitude. -/
theorem magnitude_lt_of_rank_lt (hRank : x.rank < y.rank) : x.magnitude < y.magnitude := by
  have hExponents : x.exponent ≤ y.exponent := by
    unfold exponent fractionCount
    omega
  have hPower : (0 : ℚ) < 2 ^ x.exponent := by positivity
  rcases hExponents.eq_or_lt with hSame | hLess
  · have hSignificand : x.significand < y.significand := by
      have hLeft := x.rank_eq
      have hRight := y.rank_eq
      rw [hSame] at hLeft
      omega
    rw [magnitude, magnitude, ← hSame]
    exact mul_lt_mul_of_pos_right (Nat.cast_lt.mpr hSignificand) hPower
  · have hLeast := y.fractionCount_le_significand (x.neg_le_exponent.trans_lt hLess)
    calc
      x.magnitude < 2 * fractionCount * 2 ^ x.exponent :=
        mul_lt_mul_of_pos_right (by exact_mod_cast x.significand_lt) hPower
      _ = fractionCount * 2 ^ (x.exponent + 1) := by
        rw [zpow_add_one₀ two_ne_zero]
        ring
      _ ≤ y.significand * 2 ^ y.exponent := by
        gcongr
        · norm_num
        · omega

theorem rank_lt_iff : x.rank < y.rank ↔ x.magnitude < y.magnitude := by
  refine ⟨magnitude_lt_of_rank_lt, fun hLess => lt_of_not_ge fun hRank => ?_⟩
  rcases hRank.eq_or_lt with hSame | hGreater
  · have hExponent : y.exponent = x.exponent := by rw [exponent, exponent, hSame]
    have hSignificand : y.significand = x.significand := by rw [significand, significand, hSame]
    rw [magnitude, magnitude, hExponent, hSignificand] at hLess
    exact lt_irrefl _ hLess
  · exact lt_asymm hLess (magnitude_lt_of_rank_lt hGreater)

theorem magnitude_nonneg (x : Binary64) : 0 ≤ x.magnitude :=
  mul_nonneg (Nat.cast_nonneg _) (by positivity)

theorem magnitude_pos_iff : 0 < x.magnitude ↔ 0 < x.rank := by
  have hZero : zero.magnitude = 0 := zero_mul _
  rw [← hZero, ← rank_lt_iff]
  rfl

/-- Places are in the order of the numbers. -/
theorem place_lt_iff : x.place < y.place ↔ x.number < y.number := by
  have hNonneg := x.magnitude_nonneg
  have hOtherNonneg := y.magnitude_nonneg
  unfold place number
  cases x.negative <;> cases y.negative <;> simp only [Bool.false_eq_true, ↓reduceIte]
  · exact Nat.cast_lt.trans rank_lt_iff
  · exact iff_of_false (by omega) (by linarith)
  · have hBelow : -(x.rank : Int) < y.rank ↔ 0 < x.rank ∨ 0 < y.rank := by omega
    rw [hBelow, ← magnitude_pos_iff, ← magnitude_pos_iff]
    constructor
    · rintro (hLess | hGreater) <;> linarith
    · intro hLess
      by_contra hNone
      rw [not_or, not_lt, not_lt] at hNone
      linarith
  · rw [neg_lt_neg_iff, neg_lt_neg_iff, Nat.cast_lt]
    exact rank_lt_iff

end Order

section Whole

variable {x : Binary64} {n : Int}

/-- A value that is an integer stands for it. -/
theorem number_of_toInt? (hInt : x.toInt? = some n) : x.isFinite = true ∧ x.number = n := by
  unfold toInt? at hInt
  split at hInt
  · rename_i hWhole
    obtain ⟨hFinite, hRemainder⟩ := Bool.and_eq_true_iff.mp hWhole
    obtain ⟨quotient, hQuotient⟩ := Nat.dvd_of_mod_eq_zero (of_decide_eq_true hRemainder)
    have hPositive : 0 < powerOf 2 (-x.exponent) := powerOf_pos (by decide) _
    have hMagnitude : x.magnitude = quotient := by
      have hMoved := mul_powerOf_div (show 0 < 2 by decide) x.exponent x.significand 1
      rw [one_mul, div_one, ← Nat.cast_mul, hQuotient, Nat.cast_mul,
        mul_div_cancel_left₀ _ (Nat.cast_ne_zero.mpr hPositive.ne')] at hMoved
      rw [magnitude, hMoved]
      rfl
    refine ⟨hFinite, ?_⟩
    rw [← Option.some.inj hInt, truncated, hQuotient, Nat.mul_div_cancel_left _ hPositive,
      number, hMagnitude]
    split
    · rw [Int.cast_neg, Int.cast_natCast]
    · rw [Int.cast_natCast]
  · cases hInt

/-- Values that are integers are in the order of the integers. -/
theorem less_iff_of_toInt? {y : Binary64} {m : Int} (hInt : x.toInt? = some n)
    (hOther : y.toInt? = some m) :
    x.less y = true ↔ n < m := by
  obtain ⟨hFinite, hNumber⟩ := number_of_toInt? hInt
  obtain ⟨hOtherFinite, hOtherNumber⟩ := number_of_toInt? hOther
  have hNotNaN : x.isNaN = false := decide_eq_false (not_lt.mpr (of_decide_eq_true hFinite).le)
  have hOtherNotNaN : y.isNaN = false :=
    decide_eq_false (not_lt.mpr (of_decide_eq_true hOtherFinite).le)
  rw [less, hNotNaN, hOtherNotNaN]
  simp only [Bool.not_false, Bool.true_and, decide_eq_true_eq]
  rw [place_lt_iff, hNumber, hOtherNumber, Int.cast_lt]

/-- Every natural number of at most fifty-three bits is the magnitude of a value. -/
theorem exists_whole (negative : Bool) {m : Nat} (hSome : m ≠ 0) (hFits : m < 2 ^ 53) :
    ∃ x : Binary64, x.negative = negative ∧ x.isFinite = true ∧
      x.significand = m * 2 ^ (52 - m.log2) ∧ x.exponent = m.log2 - 52 := by
  have hLog : m.log2 < 53 := (Nat.log2_lt hSome).mpr hFits
  have hLeast : fractionCount ≤ m * 2 ^ (52 - m.log2) := by
    calc
      fractionCount = 2 ^ m.log2 * 2 ^ (52 - m.log2) := by
        rw [← Nat.pow_add, Nat.add_sub_cancel' (by omega)]
        rfl
      _ ≤ m * 2 ^ (52 - m.log2) := Nat.mul_le_mul_right _ (Nat.log2_self_le hSome)
  have hMost : m * 2 ^ (52 - m.log2) < 2 * fractionCount := by
    calc
      m * 2 ^ (52 - m.log2) < 2 ^ (m.log2 + 1) * 2 ^ (52 - m.log2) :=
        Nat.mul_lt_mul_of_pos_right Nat.lt_log2_self (Nat.two_pow_pos _)
      _ = 2 * fractionCount := by
        rw [← Nat.pow_add, show m.log2 + 1 + (52 - m.log2) = 53 by omega]
        rfl
  generalize m * 2 ^ (52 - m.log2) = significand at hLeast hMost
  refine ⟨⟨negative, (m.log2 + 1022) * fractionCount + significand, ?_⟩, rfl, ?_, ?_, ?_⟩
  · unfold fractionCount at *
    omega
  · unfold isFinite infinityRank fractionCount at *
    rw [decide_eq_true_eq]
    dsimp only
    omega
  · unfold Binary64.significand fractionCount at *
    dsimp only
    split <;> omega
  · unfold exponent fractionCount at *
    dsimp only
    omega

/-- The nearest value to a quotient that is a natural number of at most fifty-three bits is
that number. -/
theorem toInt?_ofQuotient (negative : Bool) {m d : Nat} (hPositive : d ≠ 0) (hFits : m < 2 ^ 53) :
    (ofQuotient negative (m * d) d).toInt? = some (if negative then -(m : Int) else m) := by
  by_cases hSome : m = 0
  · rw [hSome, Nat.zero_mul, ofQuotient, nearestRank, if_pos rfl]
    have hZero : (ofRank negative 0).significand = 0 := rfl
    have hFinite : (ofRank negative 0).isFinite = true := rfl
    simp [toInt?, truncated, hZero, hFinite]
  obtain ⟨x, rfl, hFinite, hSignificand, hExponent⟩ := exists_whole negative hSome hFits
  have hLog : m.log2 < 53 := (Nat.log2_lt hSome).mpr hFits
  have hBelow : powerOf 2 (-x.exponent) = 2 ^ (52 - m.log2) := congrArg (2 ^ ·) (by omega)
  have hAbove : powerOf 2 x.exponent = 1 := congrArg (2 ^ ·) (show x.exponent.toNat = 0 by omega)
  have hMagnitude : x.magnitude = (m * d : Nat) / d := by
    have hMoved := mul_powerOf_div (show 0 < 2 by decide) x.exponent x.significand 1
    rw [hAbove, hBelow, hSignificand] at hMoved
    have hPower : (2 : ℚ) ^ (52 - m.log2) ≠ 0 := by positivity
    push_cast at hMoved
    rw [one_mul, mul_one, div_one, mul_div_cancel_right₀ _ hPower] at hMoved
    rw [Nat.cast_mul, mul_div_cancel_right₀ _ (Nat.cast_ne_zero.mpr hPositive), magnitude,
      hSignificand, hMoved]
    push_cast
    rfl
  have hRank :=
    nearestRank_eq (Nat.mul_ne_zero hSome hPositive) hPositive (hMagnitude ▸ x.attracts_magnitude)
  have hBounded : x.rank ≤ infinityRank := (of_decide_eq_true hFinite).le
  rw [ofQuotient, ofRank_eq hRank (hRank ▸ hBounded), toInt?, truncated, hFinite, hAbove,
    hBelow, hSignificand, Nat.mul_one, Nat.mul_mod_left, Nat.mul_div_cancel _ (Nat.two_pow_pos _)]
  rfl

end Whole

end DeviceRegistry.Binary64
