import DeviceRegistry.Number.Decimal
import Mathlib.Algebra.Order.Field.Power
import Mathlib.Algebra.Order.Field.Rat
import Mathlib.Tactic.FieldSimp
import Mathlib.Tactic.Linarith
import Mathlib.Tactic.NormNum
import Mathlib.Tactic.Positivity
import Mathlib.Tactic.Ring

/-! Exact values of written and of binary numbers as fractions. Comparisons in which powers with
negative exponents change sides are comparisons of these values. -/
namespace DeviceRegistry

theorem powerOf_pos {base : Nat} (hBase : 0 < base) (exponent : Int) : 0 < powerOf base exponent :=
  Nat.pow_pos hBase

/-- A power divided by that of the opposite exponent is the power as a fraction. -/
theorem powerOf_eq {base : Nat} (hBase : 0 < base) (exponent : Int) :
    (powerOf base exponent : ℚ) = (base : ℚ) ^ exponent * powerOf base (-exponent) := by
  have hNonzero : (base : ℚ) ≠ 0 := Nat.cast_ne_zero.mpr hBase.ne'
  unfold powerOf
  rcases le_total 0 exponent with hNonneg | hNonpos
  · obtain ⟨n, rfl⟩ := Int.eq_ofNat_of_zero_le hNonneg
    simp
  · obtain ⟨n, hn⟩ := Int.eq_ofNat_of_zero_le (Int.neg_nonneg_of_nonpos hNonpos)
    obtain rfl : exponent = -(n : Int) := by omega
    simp [hNonzero]

/-- A quotient with powers on both sides of the line is a multiple of one power. -/
theorem mul_powerOf_div {base : Nat} (hBase : 0 < base) (exponent : Int) (n d : ℚ) :
    n * powerOf base exponent / (d * powerOf base (-exponent)) = n / d * (base : ℚ) ^ exponent := by
  have hPower : (powerOf base (-exponent) : ℚ) ≠ 0 := Nat.cast_ne_zero.mpr (powerOf_pos hBase _).ne'
  rw [powerOf_eq hBase exponent, ← mul_assoc, mul_div_mul_right _ _ hPower, mul_div_right_comm]

namespace Decimal

def value (d : Decimal) : ℚ := d.digits * 10 ^ d.exponent

/-- Zeros at the end of the digits may as well be counted in the exponent. -/
theorem value_pow_mul (count digits : Nat) (exponent : Int) :
    value ⟨10 ^ count * digits, exponent⟩ = value ⟨digits, exponent + count⟩ := by
  rw [value, value, zpow_add₀ (by norm_num), zpow_natCast]
  push_cast
  ring

/-- Moving zeros into the exponent does not change what a decimal stands for. -/
theorem normalized_value (digits : Nat) (exponent : Int) :
    (normalized digits exponent).value = value ⟨digits, exponent⟩ := by
  induction digits, exponent using normalized.induct with
  | case1 digits exponent hTrailing ih =>
      have hDigits : 10 ^ 1 * (digits / 10) = digits :=
        Nat.mul_div_cancel' (Nat.dvd_of_mod_eq_zero hTrailing.2)
      have hMoved := value_pow_mul 1 (digits / 10) exponent
      rw [hDigits] at hMoved
      rw [normalized, dif_pos hTrailing, ih, hMoved]
      rfl
  | case2 digits exponent hNone => rw [normalized, dif_neg hNone]

section Compared

variable (a : Nat) (i : Int) (n : Nat) (j : Int)

/-- Both sides of a comparison are multiplied by the same powers. -/
theorem compareScaled_eq : compareScaled a i n j = cmp ((a : ℚ) * 10 ^ i) (n * 2 ^ j) := by
  have hTen := powerOf_eq (show 0 < 10 by decide) i
  have hTwo := powerOf_eq (show 0 < 2 by decide) j
  have hScale : (0 : ℚ) < powerOf 10 (-i) * powerOf 2 (-j) := by
    have hTenPos := powerOf_pos (show 0 < 10 by decide) (-i)
    have hTwoPos := powerOf_pos (show 0 < 2 by decide) (-j)
    positivity
  have hLeft : ((a * powerOf 10 i * powerOf 2 (-j) : ℕ) : ℚ) =
      a * 10 ^ i * (powerOf 10 (-i) * powerOf 2 (-j)) := by
    push_cast
    rw [hTen]
    push_cast
    ring
  have hRight : ((n * powerOf 2 j * powerOf 10 (-i) : ℕ) : ℚ) =
      n * 2 ^ j * (powerOf 10 (-i) * powerOf 2 (-j)) := by
    push_cast
    rw [hTwo]
    push_cast
    ring
  calc
    compareScaled a i n j =
        cmp (a * powerOf 10 i * powerOf 2 (-j)) (n * powerOf 2 j * powerOf 10 (-i)) :=
          (cmp_eq_compare _ _).symm
    _ = cmp ((a * powerOf 10 i * powerOf 2 (-j) : ℕ) : ℚ) (n * powerOf 2 j * powerOf 10 (-i) : ℕ) :=
      (Nat.strictMono_cast.cmp_map_eq _ _).symm
    _ = cmp ((a : ℚ) * 10 ^ i * (powerOf 10 (-i) * powerOf 2 (-j)))
          (n * 2 ^ j * (powerOf 10 (-i) * powerOf 2 (-j))) := by rw [hLeft, hRight]
    _ = cmp ((a : ℚ) * 10 ^ i) (n * 2 ^ j) := cmp_mul_pos_right hScale _ _

theorem compareScaled_eq_gt_iff : compareScaled a i n j = .gt ↔ (n : ℚ) * 2 ^ j < a * 10 ^ i := by
  rw [compareScaled_eq, cmp_eq_gt_iff]

theorem compareScaled_eq_lt_iff : compareScaled a i n j = .lt ↔ (a : ℚ) * 10 ^ i < n * 2 ^ j := by
  rw [compareScaled_eq, cmp_eq_lt_iff]

theorem compareScaled_eq_eq_iff : compareScaled a i n j = .eq ↔ (a : ℚ) * 10 ^ i = n * 2 ^ j := by
  rw [compareScaled_eq, cmp_eq_eq_iff]

end Compared

end Decimal

namespace Binary64

def magnitude (x : Binary64) : ℚ := x.significand * 2 ^ x.exponent

/-- How far the fractions that round to a magnitude reach below it, in steps of its significand. -/
def reachBelow (x : Binary64) : ℚ := if x.narrowBelow then 1 / 4 else 1 / 2

/-- The fraction rounds to the magnitude. It lies not beyond the middle to either neighbour, and in
a middle only if the significand is even. -/
structure Attracts (x : Binary64) (q : ℚ) : Prop where
  low : (x.significand - x.reachBelow) * 2 ^ x.exponent ≤ q
  high : q ≤ (x.significand + 1 / 2) * 2 ^ x.exponent
  even_of_low : q = (x.significand - x.reachBelow) * 2 ^ x.exponent → x.significand % 2 = 0
  even_of_high : q = (x.significand + 1 / 2) * 2 ^ x.exponent → x.significand % 2 = 0

/-- Some fractions below a magnitude round to it. -/
theorem reachBelow_pos (x : Binary64) : 0 < x.reachBelow := by
  unfold reachBelow
  split <;> norm_num

theorem reachBelow_le (x : Binary64) : x.reachBelow ≤ 1 / 2 := by
  unfold reachBelow
  split <;> norm_num

/-- A magnitude rounds to itself. -/
theorem attracts_magnitude (x : Binary64) : x.Attracts x.magnitude := by
  have hPower : (0 : ℚ) < 2 ^ x.exponent := by positivity
  have hReach := x.reachBelow_pos
  have hLow : (x.significand - x.reachBelow) * 2 ^ x.exponent < x.magnitude :=
    mul_lt_mul_of_pos_right (by linarith) hPower
  have hHigh : x.magnitude < (x.significand + 1 / 2) * 2 ^ x.exponent :=
    mul_lt_mul_of_pos_right (by linarith) hPower
  exact ⟨hLow.le, hHigh.le, fun hEnd => absurd hEnd hLow.ne', fun hEnd => absurd hEnd hHigh.ne⟩

/-- A decimal that reads back stands for a fraction that rounds to the magnitude. -/
theorem attracts_of_readsBack {x : Binary64} (hNonzero : x.significand ≠ 0) {d : Decimal}
    (hReads : x.readsBack d = true) : x.Attracts d.value := by
  have hQuarter : (2 : ℚ) ^ x.exponent = 2 ^ (x.exponent - 2) * 4 := by
    rw [zpow_sub₀ (by norm_num)]
    norm_num
  have hLow : ((if x.narrowBelow then 4 * x.significand - 1 else 4 * x.significand - 2 : ℕ) : ℚ) *
      2 ^ (x.exponent - 2) = (x.significand - x.reachBelow) * 2 ^ x.exponent := by
    rw [hQuarter, reachBelow]
    split
    · rw [Nat.cast_sub (by omega)]
      push_cast
      ring
    · rw [Nat.cast_sub (by omega)]
      push_cast
      ring
  have hHigh : ((4 * x.significand + 2 : ℕ) : ℚ) * 2 ^ (x.exponent - 2) =
      (x.significand + 1 / 2) * 2 ^ x.exponent := by
    rw [hQuarter]
    push_cast
    ring
  have hValue : (d.digits : ℚ) * 10 ^ d.exponent = d.value := rfl
  simp only [readsBack, Bool.and_eq_true, Bool.or_eq_true, beq_iff_eq,
    Decimal.compareScaled_eq_gt_iff, Decimal.compareScaled_eq_lt_iff,
    Decimal.compareScaled_eq_eq_iff, hLow, hHigh, hValue] at hReads
  obtain ⟨hBelow, hAbove⟩ := hReads
  constructor
  · exact hBelow.elim le_of_lt fun hEnd => hEnd.2.ge
  · exact hAbove.elim le_of_lt fun hEnd => hEnd.2.le
  · exact fun hEnd => hBelow.elim (fun hLess => absurd hEnd hLess.ne') And.left
  · exact fun hEnd => hAbove.elim (fun hLess => absurd hEnd hLess.ne) And.left

end Binary64

end DeviceRegistry
