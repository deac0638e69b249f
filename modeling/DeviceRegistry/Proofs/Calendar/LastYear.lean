import DeviceRegistry.Calendar.Instant
import DeviceRegistry.Proofs.Calendar.Date

/-! Only in its last year does the calendar end. A text that denotes a time after the last day
starts with that year, for all days of other years are earlier, and every other fault of a text
makes it unreadable. -/
namespace DeviceRegistry.Calendar

/-- What is read is good unless it is unreadable, and where it lies past the calendar there
is a reason. -/
def Reads {α : Type} (past : Prop) (good : α → Prop) : Except InstantFault α → Prop
  | .ok found => good found
  | .error .unreadable => True
  | .error .outOfRange => past

section Reading

variable {α β : Type} {past : Prop} {good : α → Prop} {reading : Except InstantFault α}

/-- What is read first may be unreadable or beyond the calendar, and then nothing more is read. -/
theorem Reads.bind {next : α → Except InstantFault β} {fine : β → Prop}
    (hFirst : Reads past good reading)
    (hNext : ∀ found, good found → Reads past fine (next found)) :
    Reads past fine (reading >>= next) := by
  rcases reading with (_ | _) | found
  · trivial
  · exact hFirst
  · exact hNext found hFirst

theorem Reads.imp {cause : Prop} {fine : α → Prop} (hReads : Reads past good reading)
    (hPast : past → cause) (hGood : ∀ found, good found → fine found) :
    Reads cause fine reading := by
  rcases reading with (_ | _) | found
  · trivial
  · exact hPast hReads
  · exact hGood found hReads

theorem reads_ite {condition : Prop} [Decidable condition] {other : Except InstantFault α}
    (hHolds : condition → Reads past good reading) (hNot : ¬ condition → Reads past good other) :
    Reads past good (if condition then reading else other) := by
  split
  · rename_i hCondition
    exact hHolds hCondition
  · rename_i hCondition
    exact hNot hCondition

theorem reads_expect (condition : Bool) :
    Reads past (fun _ => condition = true) (expect condition) := by
  cases condition
  · trivial
  · rfl

/-- An integer is read as itself, or it is unreadable. -/
theorem reads_integerOf (digits : List Char) :
    Reads past (fun n => integerOf digits = .ok n) (integerOf digits) := by
  unfold integerOf
  split
  · rfl
  · trivial

end Reading

section Clocks

variable {past : Prop}

theorem reads_readOffset (text : List Char) : Reads past (fun _ => True) (readOffset text) := by
  unfold readOffset
  refine reads_ite (fun _ => trivial) fun _ => ?_
  refine (reads_expect _).bind fun _ _ => (reads_expect _).bind fun _ _ =>
    (reads_integerOf _).bind fun hours _ => ?_
  have hEnd (minutes : Int) : Reads past (fun _ => True) (do
      expect (minutes ≤ 59 && hours ≤ 23)
      let magnitude := (hours * 60 + minutes) * 60
      return if text.head? = some '-' then -magnitude else magnitude) :=
    (reads_expect _).bind fun _ _ => trivial
  dsimp only
  split
  · exact hEnd 0
  · exact (reads_integerOf _).bind fun minutes _ => hEnd minutes

/-- What remains of a time after its fraction has nothing to do with the calendar. -/
theorem reads_readEnd (clock : Clock) (text : List Char) :
    Reads past (fun _ => True) (readEnd clock text) := by
  cases text with
  | nil => trivial
  | cons c rest =>
      exact reads_ite (fun _ => (reads_readOffset _).bind fun _ _ => trivial) fun _ => trivial

theorem reads_readAfterMinute (clock : Clock) (separated : Bool) (text : List Char) :
    Reads past (fun _ => True) (readAfterMinute clock separated text) := by
  cases text with
  | nil => trivial
  | cons c rest =>
      refine reads_ite (fun _ => reads_readEnd clock _) fun _ => ?_
      exact (reads_expect _).bind fun _ _ => (reads_integerOf _).bind fun second _ =>
        reads_readEnd _ _

theorem reads_readAfterHour (clock : Clock) (text : List Char) :
    Reads past (fun _ => True) (readAfterHour clock text) := by
  cases text with
  | nil => trivial
  | cons c rest =>
      refine reads_ite (fun _ => reads_readEnd clock _) fun _ => ?_
      exact (reads_integerOf _).bind fun minute _ => reads_readAfterMinute _ _ _

/-- No time of a day lies past the calendar by itself. -/
theorem reads_readClock (text : List Char) : Reads past (fun _ => True) (readClock text) := by
  unfold readClock
  refine (reads_expect _).bind fun _ _ => ?_
  have hEnd (clock : Clock) : Reads past (fun _ => True) (do
      expect (clock.hour != 24 || clock.minute == 0 && clock.second == 0 && clock.microsecond == 0)
      return clock) :=
    (reads_expect _).bind fun _ _ => trivial
  cases text with
  | nil => exact hEnd {}
  | cons c rest =>
      dsimp only
      split
      · exact (reads_readEnd _ _).bind fun clock _ => hEnd clock
      · exact (reads_integerOf _).bind fun hour _ =>
          (reads_readAfterHour _ _).bind fun clock _ => hEnd clock

end Clocks

def IsOfLastYear (text : List Char) : Prop := integerOf (text.take 4) = .ok 9999

section Dates

variable {text : List Char} {past : Prop} {year : Int}

/-- A date with months is one of the year that the text starts with. -/
theorem reads_readCivil (text : List Char) : Reads past (fun found => ∃ date : Date,
    found.1 = .civil date ∧ integerOf (text.take 4) = .ok date.year) (readCivil text) := by
  unfold readCivil
  refine (reads_expect _).bind fun _ _ => (reads_integerOf _).bind fun year hYear => ?_
  refine reads_ite (fun _ => ⟨_, rfl, hYear⟩) fun _ => ?_
  refine (reads_expect _).bind fun _ _ => (reads_integerOf _).bind fun month _ => ?_
  refine reads_ite (fun _ => (reads_expect _).bind fun _ _ => ⟨_, rfl, hYear⟩) fun _ => ?_
  refine (reads_expect _).bind fun _ _ => (reads_expect _).bind fun _ _ => ?_
  exact (reads_integerOf _).bind fun day _ => ⟨_, rfl, hYear⟩

/-- The last day is the number of the thirty-first of December 9999. -/
theorem lastDay_eq : lastDay = 3652059 := by decide

/-- The weeks of a year before the last one end before the last day. -/
theorem reads_weekDay (year week day : Int) :
    Reads (year = 9999) (fun dayNumber => dayNumber = lastDay → year = 9999)
      (weekDay year week day) := by
  refine (reads_expect _).bind fun _ hWeek => (reads_expect _).bind fun _ hYear => ?_
  simp only [Bool.and_eq_true, decide_eq_true_eq] at hWeek hYear
  have hMonday : firstMonday year ≤ daysBeforeYear year + 4 := by
    have hStart : daysBeforeMonth year 1 = 0 := rfl
    simp only [firstMonday, Date.number, hStart, daysSinceMonday]
    omega
  have hLater : lastDay ≤ firstMonday year + (week - 1) * 7 + (day - 1) → year = 9999 := by
    rw [lastDay_eq]
    unfold daysBeforeYear at hMonday
    dsimp only at hMonday
    omega
  exact reads_ite (fun hPast => hLater hPast.le) fun _ hLast => hLater hLast.ge

/-- The days of a year before the last one end before the last day. -/
theorem reads_yearDay (year day : Int) :
    Reads (year = 9999) (fun dayNumber => dayNumber = lastDay → year = 9999)
      (yearDay year day) := by
  refine (reads_expect _).bind fun _ hDay => (reads_expect _).bind fun _ hYear hLast => ?_
  simp only [Bool.and_eq_true, decide_eq_true_eq] at hDay hYear
  have hLeap : (isLeapYear year).toInt ≤ 1 := by cases isLeapYear year <;> decide
  rw [lastDay_eq] at hLast
  unfold daysBeforeYear at hLast
  dsimp only at hLast
  omega

/-- A date by its week or by its day of the year reaches the last day in the last year only. -/
theorem reads_readNumbered (text : List Char) : Reads (IsOfLastYear text)
    (fun found => found.1.dayNumber = .ok lastDay → IsOfLastYear text) (readNumbered text) := by
  unfold readNumbered
  refine (reads_expect _).bind fun _ _ => (reads_integerOf _).bind fun year hYear => ?_
  have hLastYear : year = 9999 → IsOfLastYear text := by
    rintro rfl
    exact hYear
  have hNumbered {number : Except InstantFault Int} (rest : List Char)
      (hReads : Reads (year = 9999) (fun dayNumber => dayNumber = lastDay → year = 9999) number) :
      Reads (IsOfLastYear text)
        (fun found : DateReading × List Char => found.1.dayNumber = .ok lastDay → IsOfLastYear text)
        (number >>= fun dayNumber => .ok (.numbered dayNumber, rest)) := by
    refine (hReads.imp hLastYear fun dayNumber hEnd => hEnd).bind fun dayNumber hEnd hLast => ?_
    exact hLastYear (hEnd (Except.ok.inj hLast))
  refine reads_ite (fun _ => ?_) fun _ => ?_
  · refine (reads_integerOf _).bind fun week _ =>
      reads_ite (fun _ => hNumbered _ (reads_weekDay ..)) fun _ => ?_
    exact (reads_expect _).bind fun _ _ => (reads_integerOf _).bind fun day _ =>
      hNumbered _ (reads_weekDay ..)
  · exact (reads_expect _).bind fun _ _ => (reads_integerOf _).bind fun day _ =>
      hNumbered _ (reads_yearDay ..)

/-- A date that comes to the last day, or beyond it, was written with the last year of the calendar.
-/
theorem reads_readDate (text : List Char) : Reads (IsOfLastYear text)
    (fun found => found.1.dayNumber = .ok lastDay → IsOfLastYear text) (readDate text) := by
  unfold readDate
  have hCivil : Reads False _ (readCivil text) := reads_readCivil text
  cases hRead : readCivil text with
  | ok found =>
      rw [hRead] at hCivil
      obtain ⟨date, hDate, hYear⟩ := hCivil
      intro hLast
      have hLastDate : date = .last := by
        change found.1.dayNumber = _ at hLast
        rw [hDate, DateReading.dayNumber] at hLast
        split at hLast
        · rename_i hValid
          exact Date.number_inj (Date.isValid_iff_isCivil.mp hValid) (by decide)
            (Except.ok.inj hLast)
        · cases hLast
      rw [hLastDate] at hYear
      exact hYear
  | error fault => exact reads_readNumbered text

end Dates

/-- A text lies past the calendar by its date, or by the end of the last day, and by both in the
last year only. -/
theorem reads_readInstant (text : List Char) :
    Reads (IsOfLastYear text) (fun _ => True) (readInstant text) := by
  unfold readInstant
  refine (reads_readDate text).bind fun found hFound => ?_
  have hEnd (clock : Clock) : Reads (IsOfLastYear text) (fun _ => True) (do
      let dayNumber ← found.1.dayNumber
      expect clock.isValid
      if clock.hour = 24 ∧ dayNumber = lastDay then .error .outOfRange
      else return instantOf dayNumber clock) := by
    have hNumber : Reads (IsOfLastYear text) (fun dayNumber => found.1.dayNumber = .ok dayNumber)
        found.1.dayNumber := by
      cases found.1 with
      | civil date => exact reads_ite (fun hValid => if_pos hValid) fun _ => trivial
      | numbered dayNumber => rfl
    refine hNumber.bind fun dayNumber hDay => (reads_expect _).bind fun _ _ =>
      reads_ite (fun hLate => ?_) fun _ => trivial
    exact hFound (hLate.2 ▸ hDay)
  dsimp only
  split
  · exact hEnd {}
  · exact (reads_readClock _).bind fun clock _ => hEnd clock

/-- Only texts of the last year denote times after the last day. -/
theorem isOfLastYear_of_outOfRange {text : List Char}
    (hPast : readInstant text = .error .outOfRange) :
    IsOfLastYear text := by
  have hReads := reads_readInstant text
  rwa [hPast] at hReads

end DeviceRegistry.Calendar
