import DeviceRegistry.Calendar.Date
import Mathlib.Algebra.Order.Ring.Int
import Mathlib.Tactic.Common
import Mathlib.Tactic.IntervalCases

/-! The days of the calendar follow one another, and the number of a day counts them. A day is
followed by the next of its month, or by the first of the next month, or by the first of the next
year, and every day but the first follows another one. So the number of a day tells how many days it
lies after any other. -/
namespace DeviceRegistry.Calendar

/-- The lengths of the months of a year. A year that four divides is a leap year, unless a hundred
divides it and four hundred does not. -/
def monthLengths (year : Int) : List Int :=
  [31, if 4 ∣ year ∧ (100 ∣ year → 400 ∣ year) then 29 else 28, 31, 30, 31, 30, 31,
    31, 30, 31, 30, 31]

def monthLength (year month : Int) : Int := (monthLengths year).getD (month - 1).toNat 0

namespace Date

/-- The date is a day of the years 1 to 9999. -/
def IsCivil (date : Date) : Prop :=
  1 ≤ date.year ∧ date.year ≤ 9999 ∧ 1 ≤ date.month ∧ date.month ≤ 12 ∧
    1 ≤ date.day ∧ date.day ≤ monthLength date.year date.month

instance (date : Date) : Decidable date.IsCivil := inferInstanceAs (Decidable (_ ∧ _))

def next (date : Date) : Date :=
  if date.day < monthLength date.year date.month then ⟨date.year, date.month, date.day + 1⟩
  else if date.month < 12 then ⟨date.year, date.month + 1, 1⟩
  else ⟨date.year + 1, 1, 1⟩

def first : Date := ⟨1, 1, 1⟩

def last : Date := ⟨9999, 12, 31⟩

def epoch : Date := ⟨1970, 1, 1⟩

end Date

/-- The date lies so many days after the day from which instants are counted. Days before it count
as negative. -/
inductive IsDaysFromEpoch : Date → Int → Prop where
  | epoch : IsDaysFromEpoch .epoch 0
  | later {date : Date} {days : Int} (hCivil : date.IsCivil) (hDays : IsDaysFromEpoch date days) :
      IsDaysFromEpoch date.next (days + 1)
  | earlier {date : Date} {days : Int} (hCivil : date.IsCivil)
      (hDays : IsDaysFromEpoch date.next days) :
      IsDaysFromEpoch date (days - 1)

section Counting

/-- The years that are divided by four, less centuries that are not divided by four hundred. -/
theorem isLeapYear_iff (year : Int) :
    isLeapYear year = true ↔ year % 4 = 0 ∧ (year % 100 ≠ 0 ∨ year % 400 = 0) := by
  simp [isLeapYear]

/-- Within the twelve months the table gives the length that the civil calendar gives. -/
theorem daysInMonth_eq (year : Int) {month : Int} (hFirst : 1 ≤ month) (hLast : month ≤ 12) :
    daysInMonth year month = monthLength year month := by
  have hLeap : isLeapYear year = true ↔ 4 ∣ year ∧ (100 ∣ year → 400 ∣ year) := by
    rw [isLeapYear_iff]
    omega
  have hFebruary : daysInMonth year 2 = monthLength year 2 := by
    change (if isLeapYear year = true then (29 : Int) else 28) = _
    rw [if_congr hLeap rfl rfl]
    rfl
  interval_cases month <;> first | exact hFebruary | rfl

theorem monthLength_bounds (year : Int) {month : Int} (hFirst : 1 ≤ month) (hLast : month ≤ 12) :
    28 ≤ monthLength year month ∧ monthLength year month ≤ 31 := by
  rw [← daysInMonth_eq year hFirst hLast, daysInMonth]
  split_ifs <;> omega

theorem monthLength_december (year : Int) : monthLength year 12 = 31 := rfl

/-- The days of the months before the next month are those before the month and its own. -/
theorem daysBeforeMonth_next (year : Int) {month : Int} (hFirst : 1 ≤ month) (hLast : month ≤ 12) :
    daysBeforeMonth year (month + 1) = daysBeforeMonth year month + monthLength year month := by
  have hCount : (month + 1 - 1).toNat = (month - 1).toNat + 1 := by omega
  have hMonth : Int.ofNat (month - 1).toNat + 1 = month := by
    rw [Int.ofNat_eq_natCast]
    omega
  rw [daysBeforeMonth, hCount, daysOfMonths, hMonth, daysBeforeMonth,
    daysInMonth_eq year hFirst hLast]

/-- The days of all months of a year. -/
theorem daysBeforeMonth_december (year : Int) :
    daysBeforeMonth year 12 + 31 = 365 + (isLeapYear year).toInt := by
  have hCount : (12 - 1 : Int).toNat = 11 := rfl
  rw [daysBeforeMonth, hCount]
  cases hLeap : isLeapYear year <;> simp [daysOfMonths, daysInMonth, hLeap]

/-- A year is followed by the next after its 365 or 366 days. -/
theorem daysBeforeYear_next (year : Int) :
    daysBeforeYear (year + 1) = daysBeforeYear year + 365 + (isLeapYear year).toInt := by
  have hLeap := isLeapYear_iff year
  unfold daysBeforeYear
  cases hYear : isLeapYear year with
  | true =>
      have hFourth := hLeap.mp hYear
      simp only [Bool.toInt_true]
      omega
  | false =>
      have hFourth := mt hLeap.mpr (Bool.eq_false_iff.mp hYear)
      simp only [Bool.toInt_false]
      omega

theorem daysBeforeYear_bounds {year : Int} (hFirst : 1 ≤ year) (hLast : year ≤ 9999) :
    0 ≤ daysBeforeYear year ∧ daysBeforeYear year ≤ 366 * 9998 := by
  unfold daysBeforeYear
  dsimp only
  omega

theorem daysOfMonths_bounds (year : Int) (count : Nat) :
    0 ≤ daysOfMonths year count ∧ daysOfMonths year count ≤ 31 * count := by
  induction count with
  | zero => exact ⟨le_rfl, le_rfl⟩
  | succ count ih =>
      have hMonth : 0 ≤ daysInMonth year (Int.ofNat count + 1) ∧
          daysInMonth year (Int.ofNat count + 1) ≤ 31 := by
        unfold daysInMonth
        split_ifs <;> omega
      rw [daysOfMonths]
      omega

end Counting

namespace Date

variable {date : Date}

/-- A civil date has its month in the year and its day in the month. -/
theorem isCivil_iff {year month day : Int} : (Date.mk year month day).IsCivil ↔
    1 ≤ year ∧ year ≤ 9999 ∧ 1 ≤ month ∧ month ≤ 12 ∧ 1 ≤ day ∧ day ≤ monthLength year month :=
      Iff.rfl

theorem isValid_iff_isCivil : date.isValid = true ↔ date.IsCivil := by
  simp only [isValid, Bool.and_eq_true, decide_eq_true_eq, and_assoc, IsCivil]
  refine and_congr_right fun _ => and_congr_right fun _ => and_congr_right fun hFirst =>
    and_congr_right fun hLast => ?_
  rw [daysInMonth_eq date.year hFirst hLast]

/-- The next day has the next number. -/
theorem number_next (hCivil : date.IsCivil) : date.next.number = date.number + 1 := by
  obtain ⟨year, month, day⟩ := date
  obtain ⟨-, -, hFirst, hLast, -, hDay⟩ := isCivil_iff.mp hCivil
  simp only [next]
  split_ifs with hInside hMonth
  · simp only [number]
    omega
  · simp only [number, daysBeforeMonth_next year hFirst hLast]
    omega
  · obtain rfl : month = 12 := by omega
    have hStart : daysBeforeMonth (year + 1) 1 = 0 := rfl
    have hMonths := daysBeforeMonth_december year
    rw [monthLength_december] at hDay hInside
    simp only [number, daysBeforeYear_next, hStart]
    omega

/-- Every day but the last is followed by a day of the calendar. -/
theorem isCivil_next (hCivil : date.IsCivil) (hNotLast : date ≠ last) : date.next.IsCivil := by
  obtain ⟨year, month, day⟩ := date
  obtain ⟨hYear, hYears, hFirst, hLast, hDays, hDay⟩ := isCivil_iff.mp hCivil
  simp only [next]
  split_ifs with hInside hMonth
  · exact isCivil_iff.mpr ⟨hYear, hYears, hFirst, hLast, by omega, by omega⟩
  · have hBounds := monthLength_bounds year (show 1 ≤ month + 1 by omega) (by omega)
    exact isCivil_iff.mpr ⟨hYear, hYears, by omega, by omega, le_rfl, by omega⟩
  · obtain rfl : month = 12 := by omega
    rw [monthLength_december] at hDay hInside
    have hMore : year ≠ 9999 := by
      rintro rfl
      exact hNotLast (by rw [last, Date.mk.injEq]; omega)
    have hBounds := monthLength_bounds (year + 1) (show (1 : Int) ≤ 1 from le_rfl) (by decide)
    exact isCivil_iff.mpr ⟨by omega, by omega, le_rfl, by decide, le_rfl, by omega⟩

/-- Every day but the first follows a day of the calendar. -/
theorem exists_next_eq (hCivil : date.IsCivil) (hNotFirst : date ≠ first) :
    ∃ previous : Date, previous.IsCivil ∧ previous.next = date := by
  obtain ⟨year, month, day⟩ := date
  obtain ⟨hYear, hYears, hFirst, hLast, hDays, hDay⟩ := isCivil_iff.mp hCivil
  by_cases hInside : 1 < day
  · refine ⟨⟨year, month, day - 1⟩,
      isCivil_iff.mpr ⟨hYear, hYears, hFirst, hLast, by omega, by omega⟩, ?_⟩
    simp only [next]
    rw [if_pos (by omega), Int.sub_add_cancel]
  obtain rfl : day = 1 := by omega
  by_cases hMonth : 1 < month
  · have hBounds := monthLength_bounds year (show 1 ≤ month - 1 by omega) (by omega)
    refine ⟨⟨year, month - 1, monthLength year (month - 1)⟩,
      isCivil_iff.mpr ⟨hYear, hYears, by omega, by omega, by omega, le_rfl⟩, ?_⟩
    simp only [next]
    rw [if_neg (lt_irrefl _), if_pos (by omega), Int.sub_add_cancel]
  · obtain rfl : month = 1 := by omega
    have hLater : year ≠ 1 := fun hSame => hNotFirst (by rw [hSame, first])
    refine ⟨⟨year - 1, 12, 31⟩,
      isCivil_iff.mpr ⟨by omega, by omega, by decide, le_rfl, by decide, le_rfl⟩, ?_⟩
    simp only [next, monthLength_december]
    rw [if_neg (lt_irrefl _), if_neg (lt_irrefl _), Int.sub_add_cancel]

/-- The days of the calendar are counted from one, and there are fewer than 3.7 million of them. -/
theorem number_bounds (hCivil : date.IsCivil) : 1 ≤ date.number ∧ date.number ≤ 3700000 := by
  obtain ⟨year, month, day⟩ := date
  obtain ⟨hYear, hYears, hFirst, hLast, hDays, hDay⟩ := isCivil_iff.mp hCivil
  have hBeforeYear := daysBeforeYear_bounds hYear hYears
  have hBeforeMonth := daysOfMonths_bounds year (month - 1).toNat
  have hInMonth := monthLength_bounds year hFirst hLast
  simp only [number, daysBeforeMonth]
  omega

/-- No two days have the same number. -/
theorem number_inj {other : Date} (hCivil : date.IsCivil) (hOther : other.IsCivil)
    (hSame : date.number = other.number) : date = other := by
  have hFirst : first.number = 1 := rfl
  induction hCount : date.number.toNat generalizing date other with
  | zero =>
      have hOne := (number_bounds hCivil).1
      omega
  | succ count ih =>
      by_cases hDate : date = first
      · by_contra hApart
        obtain ⟨before, hBefore, rfl⟩ := exists_next_eq hOther (hDate ▸ Ne.symm hApart)
        have hOne := (number_bounds hBefore).1
        rw [number_next hBefore, hDate] at hSame
        omega
      · by_cases hOtherFirst : other = first
        · obtain ⟨before, hBefore, rfl⟩ := exists_next_eq hCivil hDate
          have hOne := (number_bounds hBefore).1
          rw [number_next hBefore, hOtherFirst] at hSame
          omega
        · obtain ⟨before, hBefore, rfl⟩ := exists_next_eq hCivil hDate
          obtain ⟨otherBefore, hOtherBefore, rfl⟩ := exists_next_eq hOther hOtherFirst
          rw [number_next hBefore] at hSame hCount
          rw [number_next hOtherBefore] at hSame
          rw [ih hBefore hOtherBefore (by omega) (by omega)]

end Date

/-- How far a day is from the epoch is settled by the date. -/
theorem IsDaysFromEpoch.eq {date : Date} {days : Int} (hDays : IsDaysFromEpoch date days) :
    days = date.number - epochDay := by
  induction hDays with
  | epoch => rfl
  | later hCivil hDays ih =>
      rw [Date.number_next hCivil]
      omega
  | earlier hCivil hDays ih =>
      rw [Date.number_next hCivil] at ih
      omega

/-- Later days are reached day by day from the epoch, and so are earlier ones. -/
theorem isDaysFromEpoch_number {date : Date} (hCivil : date.IsCivil) :
    IsDaysFromEpoch date (date.number - epochDay) := by
  have hEpoch {date : Date} (hCivil : date.IsCivil) (hNumber : date.number = epochDay) :
      IsDaysFromEpoch date 0 := by
    obtain rfl : date = .epoch := Date.number_inj hCivil (by decide) hNumber
    exact .epoch
  rcases Int.le_total epochDay date.number with hLater | hEarlier
  · obtain ⟨count, hCount⟩ := Int.eq_ofNat_of_zero_le (Int.sub_nonneg_of_le hLater)
    rw [hCount]
    induction count generalizing date with
    | zero => exact hEpoch hCivil (by omega)
    | succ count ih =>
        have hNotFirst : date ≠ .first := by
          rintro rfl
          exact absurd hLater (by decide)
        obtain ⟨previous, hPrevious, rfl⟩ := Date.exists_next_eq hCivil hNotFirst
        rw [Date.number_next hPrevious] at hCount
        exact .later hPrevious (ih hPrevious (by omega) (by omega))
  · obtain ⟨count, hCount⟩ := Int.eq_ofNat_of_zero_le (Int.sub_nonneg_of_le hEarlier)
    have hDays : date.number - epochDay = -count := by omega
    rw [hDays]
    induction count generalizing date with
    | zero => exact hEpoch hCivil (by omega)
    | succ count ih =>
        have hNotLast : date ≠ .last := by
          rintro rfl
          exact absurd hEarlier (by decide)
        have hNumber := Date.number_next hCivil
        have hNext := ih (Date.isCivil_next hCivil hNotLast) (by omega) (by omega) (by omega)
        have hBefore : (-(count + 1 : Nat) : Int) = -count - 1 := by omega
        rw [hBefore]
        exact .earlier hCivil hNext

end DeviceRegistry.Calendar
