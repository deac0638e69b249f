import DeviceRegistry.Calendar.Instant
import DeviceRegistry.Proofs.Calendar.Date
import DeviceRegistry.Proofs.Number.Plain

/-! Times written in full, from the year down to the second, denote the instant that they
name. Reading them back is shown part by part, so that nothing depends on how a part is
written but its width. -/
namespace DeviceRegistry.Calendar

/-- The digits of a number, with zeros in front up to a width. -/
def padded (width n : Nat) : List Char :=
  Layout.zeros (width - (Nat.toDigits 10 n).length) ++ Nat.toDigits 10 n

/-- How far a clock is ahead of universal time. A clock of an unstated zone shows universal time. -/
inductive Zone where
  | unstated
  | universal
  | ahead (hours : Fin 24) (minutes : Fin 60)
  | behind (hours : Fin 24) (minutes : Fin 60)
deriving DecidableEq

namespace Zone

def span (hours : Fin 24) (minutes : Fin 60) : List Char :=
  padded 2 hours ++ ':' :: padded 2 minutes

def text : Zone → List Char
  | unstated => []
  | universal => ['Z']
  | ahead hours minutes => '+' :: span hours minutes
  | behind hours minutes => '-' :: span hours minutes

def offset : Zone → Int
  | unstated => 0
  | universal => 0
  | ahead hours minutes => 3600 * hours + 60 * minutes
  | behind hours minutes => -(3600 * hours + 60 * minutes)

end Zone

def Date.text (date : Date) : List Char :=
  padded 4 date.year.toNat ++ '-' :: (padded 2 date.month.toNat ++ '-' :: padded 2 date.day.toNat)

def clockText (hour minute second : Nat) : List Char :=
  padded 2 hour ++ ':' :: (padded 2 minute ++ ':' :: padded 2 second)

def instantText (date : Date) (hour minute second : Nat) (zone : Zone) : List Char :=
  date.text ++ 'T' :: (clockText hour minute second ++ zone.text)

section Padded

variable {width n : Nat}

theorem isDigit_of_mem_padded : ∀ c ∈ padded width n, c.isDigit = true := by
  intro c hMem
  rcases List.mem_append.mp hMem with hZero | hDigit
  · exact isDigit_of_mem_zeros _ c hZero
  · exact isDigit_of_mem_toDigits _ c hDigit

theorem padded_ne_nil : padded width n ≠ [] :=
  List.append_ne_nil_of_right_ne_nil _ Nat.toDigits_ne_nil

theorem length_padded (hWidth : 0 < width) (hFits : n < 10 ^ width) :
    (padded width n).length = width := by
  have hLength := (Nat.length_toDigits_le_iff (by decide) hWidth).mpr hFits
  rw [padded, List.length_append, Layout.zeros, List.length_replicate, Nat.sub_add_cancel hLength]

/-- The digits denote the number again. -/
theorem integerOf_padded : integerOf (padded width n) = .ok (n : Int) := by
  have hValue : Number.digitsValue (padded width n) = n := by
    rw [padded, Number.digitsValue_append, Number.digitsValue_zeros,
      Number.digitsValue_toDigits, Nat.mul_zero, Nat.zero_add]
  rw [integerOf, Number.integer?_digits padded_ne_nil isDigit_of_mem_padded, hValue]

/-- A pair of digits that denotes the number. -/
theorem exists_pair (hFits : n < 100) : ∃ first second, padded 2 n = [first, second] ∧
    first.isDigit = true ∧ integerOf [first, second] = .ok (n : Int) := by
  have hLength : (padded 2 n).length = 2 := length_padded (by decide) hFits
  obtain ⟨first, second, hPair⟩ := List.length_eq_two.mp hLength
  have hFirst : first ∈ padded 2 n := hPair ▸ List.mem_cons_self
  have hDigit := isDigit_of_mem_padded first hFirst
  exact ⟨first, second, hPair, hDigit, hPair ▸ integerOf_padded⟩

/-- No digit starts an offset. -/
theorem startsOffset_digit {c : Char} (hDigit : c.isDigit = true) : startsOffset c = false := by
  simp only [startsOffset, Bool.or_eq_false_iff, beq_eq_false_iff_ne, and_assoc]
  refine ⟨?_, ?_, ?_, ?_⟩ <;>
    rintro rfl <;> cases hDigit

end Padded

theorem ok_bind {α β : Type} (result : α) (next : α → Except InstantFault β) :
    (Except.ok result >>= next) = next result := rfl

/-- A year, a month and a day are read whatever follows them. -/
theorem readCivil_text {date : Date} (hCivil : date.IsCivil) (rest : List Char) :
    readCivil (date.text ++ rest) = .ok (.civil date, rest) := by
  obtain ⟨year, month, day⟩ := date
  obtain ⟨hYear, hYears, hMonth, hMonths, hDay, hDays⟩ := Date.isCivil_iff.mp hCivil
  have hLongest := (monthLength_bounds year hMonth hMonths).2
  obtain ⟨yearNumber, rfl⟩ := Int.eq_ofNat_of_zero_le (show 0 ≤ year by omega)
  obtain ⟨monthNumber, rfl⟩ := Int.eq_ofNat_of_zero_le (show 0 ≤ month by omega)
  obtain ⟨dayNumber, rfl⟩ := Int.eq_ofNat_of_zero_le (show 0 ≤ day by omega)
  have hYearLength : (padded 4 yearNumber).length = 4 := length_padded (by decide) (by omega)
  obtain ⟨m₁, m₂, hMonthText, -, hReadMonth⟩ := exists_pair (n := monthNumber) (by omega)
  obtain ⟨d₁, d₂, hDayText, -, hReadDay⟩ := exists_pair (n := dayNumber) (by omega)
  have hText : Date.text ⟨yearNumber, monthNumber, dayNumber⟩ ++ rest =
      padded 4 yearNumber ++ ('-' :: m₁ :: m₂ :: '-' :: d₁ :: d₂ :: rest) := by
    simp [Date.text, hMonthText, hDayText]
  rw [hText, readCivil, List.take_left' hYearLength, List.drop_left' hYearLength, integerOf_padded]
  simp [expect, ok_bind, hYearLength, hReadMonth, hReadDay, dateSeparator]

/-- Hours and minutes behind a sign are an offset. -/
theorem readOffset_signed {sign : Char} (hSign : sign = '-' ∨ sign = '+') (hours : Fin 24)
    (minutes : Fin 60) :
    readOffset (sign :: Zone.span hours minutes) =
      .ok (if sign = '-' then -(3600 * hours + 60 * minutes) else 3600 * hours + 60 * minutes) := by
  obtain ⟨h₁, h₂, hHourText, -, hReadHour⟩ := exists_pair (n := hours) (by omega)
  obtain ⟨m₁, m₂, hMinuteText, -, hReadMinute⟩ := exists_pair (n := minutes) (by omega)
  have hBounds : (minutes : Nat) ≤ 59 ∧ (hours : Nat) ≤ 23 := by omega
  have hSeconds : ((hours : Nat) * 60 + (minutes : Nat) : Int) * 60 =
      3600 * hours + 60 * minutes := by omega
  rw [← hSeconds]
  rcases hSign with rfl | rfl <;>
    simp [Zone.span, hHourText, hMinuteText, readOffset, expect, ok_bind, hReadHour,
      hReadMinute, timeSeparator, hBounds]

/-- After the seconds nothing is read but the zone. -/
theorem readAfterSecond_zone (hour minute second : Int) (zone : Zone) :
    readAfterSecond { hour := hour, minute := minute, second := second } zone.text =
      .ok { hour := hour, minute := minute, second := second, offset := zone.offset } := by
  have hSigned {sign : Char} (hSign : sign = '-' ∨ sign = '+') (hours : Fin 24) (minutes : Fin 60) :
      readAfterSecond { hour := hour, minute := minute, second := second }
        (sign :: Zone.span hours minutes) =
        .ok { hour := hour, minute := minute, second := second,
              offset := if sign = '-' then -(3600 * hours + 60 * minutes)
                else 3600 * hours + 60 * minutes } := by
    have hNoFraction : readFraction (sign :: Zone.span hours minutes) =
        (0, sign :: Zone.span hours minutes) := by
      rw [readFraction]
      exact if_neg fun hMark => by rcases hSign with rfl | rfl <;> exact absurd hMark.1 (by decide)
    have hStarts : startsOffset sign = true := by rcases hSign with rfl | rfl <;> rfl
    rw [readAfterSecond, hNoFraction]
    dsimp only
    rw [readEnd, if_pos hStarts, readOffset_signed hSign]
    rfl
  cases zone with
  | unstated => rfl
  | universal => rfl
  | ahead hours minutes => exact hSigned (Or.inr rfl) hours minutes
  | behind hours minutes => exact hSigned (Or.inl rfl) hours minutes

/-- An hour, a minute, a second and a zone are read as a time of the day. -/
theorem readClock_text {hour minute second : Nat} (hHour : hour ≤ 24) (hMinute : minute < 60)
    (hSecond : second < 60) (hEnd : hour = 24 → minute = 0 ∧ second = 0) (zone : Zone) :
    readClock (clockText hour minute second ++ zone.text) =
      .ok { hour := hour, minute := minute, second := second, offset := zone.offset } := by
  obtain ⟨h₁, h₂, hHourText, hHourDigit, hReadHour⟩ := exists_pair (n := hour) (by omega)
  obtain ⟨m₁, m₂, hMinuteText, hMinuteDigit, hReadMinute⟩ := exists_pair (n := minute) (by omega)
  obtain ⟨s₁, s₂, hSecondText, hSecondDigit, hReadSecond⟩ := exists_pair (n := second) (by omega)
  have hText : clockText hour minute second ++ zone.text =
      h₁ :: h₂ :: ':' :: m₁ :: m₂ :: ':' :: s₁ :: s₂ :: zone.text := by
    simp [clockText, hHourText, hMinuteText, hSecondText]
  have hColon : startsOffset ':' = false := rfl
  have hMinutes : readAfterMinute { hour := hour, minute := minute } true
    (':' :: s₁ :: s₂ :: zone.text) =
      .ok { hour := hour, minute := minute, second := second, offset := zone.offset } := by
    simp [readAfterMinute, hColon, expect, ok_bind, hReadSecond, timeSeparator,
      readAfterSecond_zone]
  have hHours : readAfterHour { hour := hour } (':' :: m₁ :: m₂ :: ':' :: s₁ :: s₂ :: zone.text) =
      .ok { hour := hour, minute := minute, second := second, offset := zone.offset } := by
    simp [readAfterHour, hColon, ok_bind, hReadMinute, timeSeparator, hMinutes]
  have hNoLater : ¬ (hour : Int) = 24 ∨ minute = 0 ∧ second = 0 := by omega
  rw [hText, readClock]
  simp [expect, startsOffset_digit hHourDigit, ok_bind, hReadHour, hHours, hNoLater]

/-- The instant that a text denotes is counted from the epoch by days, hours, minutes and seconds,
less what the clock is ahead. Only the end of the last day is out of range. -/
theorem readInstant_instantText {date : Date} (hCivil : date.IsCivil) {hour minute second : Nat}
    (hHour : hour ≤ 24) (hMinute : minute < 60) (hSecond : second < 60)
    (hEnd : hour = 24 → minute = 0 ∧ second = 0) (zone : Zone) :
    readInstant (instantText date hour minute second zone) =
      if hour = 24 ∧ date.number = lastDay then .error .outOfRange
      else .ok ((86400 * (date.number - epochDay) + 3600 * hour + 60 * minute + second -
        zone.offset) * 1000000) := by
  have hDate := readCivil_text hCivil ('T' :: (clockText hour minute second ++ zone.text))
  have hClock := readClock_text hHour hMinute hSecond hEnd zone
  let clock : Clock := { hour := hour, minute := minute, second := second, offset := zone.offset }
  have hClockValid : clock.isValid = true := by
    simp only [clock, Clock.isValid, Bool.and_eq_true, decide_eq_true_eq]
    omega
  have hInstant : instantOf date.number clock =
      (86400 * (date.number - epochDay) + 3600 * hour + 60 * minute + second - zone.offset) *
        1000000 := by
    rw [instantOf]
    dsimp only [clock]
    omega
  have hLate : (hour : Int) = 24 ↔ hour = 24 := by omega
  have hDayNumber : (DateReading.civil date).dayNumber = .ok date.number :=
    if_pos (Date.isValid_iff_isCivil.mpr hCivil)
  rw [instantText, readInstant, readDate, hDate]
  simp only [ok_bind, List.isEmpty_cons, Bool.false_eq_true, ↓reduceIte, List.drop_succ_cons,
    List.drop_zero, hClock, hDayNumber, expect, hClockValid, hLate, hInstant, clock]
  rfl

section Plain

open Number

theorem isPlain_of_mem_padded (width n : Nat) : ∀ c ∈ padded width n, IsPlain c :=
  fun c hMem => isPlain_of_isDigit (isDigit_of_mem_padded c hMem)

theorem isPlain_of_mark {c : Char} (hMark : c ∈ ['-', '+', ':', 'T', 'Z']) : IsPlain c := by
  have hAll : ['-', '+', ':', 'T', 'Z'].all (fun mark => mark.toNat < 0x80 ∧
      Text.isBlank mark = false ∧
      Text.toAsciiDigit mark = mark ∧ mark ≠ '_') = true := by decide
  obtain ⟨hAscii, hBlank, hConverted, hSeparator⟩ :=
    of_decide_eq_true (List.all_eq_true.mp hAll c hMark)
  exact ⟨hAscii, hBlank, hConverted, hSeparator⟩

theorem Zone.isPlain_of_mem_text (zone : Zone) : ∀ c ∈ zone.text, IsPlain c := by
  have hSpan (hours : Fin 24) (minutes : Fin 60) : ∀ c ∈ span hours minutes, IsPlain c := by
    rw [span, List.forall_mem_append, List.forall_mem_cons]
    exact ⟨isPlain_of_mem_padded _ _, isPlain_of_mark (by decide), isPlain_of_mem_padded _ _⟩
  cases zone with
  | unstated => exact List.forall_mem_nil _
  | universal => exact List.forall_mem_singleton.mpr (isPlain_of_mark (by decide))
  | ahead hours minutes =>
      exact List.forall_mem_cons.mpr ⟨isPlain_of_mark (by decide), hSpan hours minutes⟩
  | behind hours minutes =>
      exact List.forall_mem_cons.mpr ⟨isPlain_of_mark (by decide), hSpan hours minutes⟩

variable (date : Date) (hour minute second : Nat) (zone : Zone)

def afterYear : List Char :=
  padded 2 date.month.toNat ++
    '-' :: (padded 2 date.day.toNat ++ 'T' :: (clockText hour minute second ++ zone.text))

/-- The text is the year, a hyphen and what follows the year. -/
theorem instantText_eq : instantText date hour minute second zone =
    padded 4 date.year.toNat ++ '-' :: afterYear date hour minute second zone := by
  simp [instantText, Date.text, afterYear]

theorem isPlain_of_mem_afterYear : ∀ c ∈ afterYear date hour minute second zone, IsPlain c := by
  simp only [afterYear, clockText, List.forall_mem_append, List.forall_mem_cons]
  exact ⟨isPlain_of_mem_padded _ _, isPlain_of_mark (by decide), isPlain_of_mem_padded _ _,
    isPlain_of_mark (by decide),
    ⟨isPlain_of_mem_padded _ _, isPlain_of_mark (by decide), isPlain_of_mem_padded _ _,
      isPlain_of_mark (by decide),
      isPlain_of_mem_padded _ _⟩, zone.isPlain_of_mem_text⟩

theorem isPlain_of_mem_instantText : ∀ c ∈ instantText date hour minute second zone, IsPlain c := by
  rw [instantText_eq, List.forall_mem_append, List.forall_mem_cons]
  exact ⟨isPlain_of_mem_padded _ _, isPlain_of_mark (by decide), isPlain_of_mem_afterYear _ _ _ _ _⟩

/-- The text of a time is no number. -/
theorem readLeniently?_instantText :
    readLeniently? (instantText date hour minute second zone) = none := by
  rw [instantText_eq]
  exact readLeniently?_hyphen padded_ne_nil isDigit_of_mem_padded
    (isPlain_of_mem_afterYear _ _ _ _ _)

end Plain

end DeviceRegistry.Calendar
