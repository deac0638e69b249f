import DeviceRegistry.Filter.Bound
import DeviceRegistry.Proofs.Calendar.Instant
import DeviceRegistry.Proofs.Number.Order

/-! Times written in full bound messages by whole seconds. The text of a time is tried as a number
first and is none, so that it is read as an instant, and the seconds of that instant are few enough
to be reached without rounding. -/
namespace DeviceRegistry.Filter

open Calendar

/-- A time to the second on a day of the calendar, as a clock in a zone shows it. -/
structure CivilTime where
  date : Date
  hour : Fin 24
  minute : Fin 60
  second : Fin 60
  zone : Zone
  isCivil : date.IsCivil

namespace CivilTime

def text (time : CivilTime) : String :=
  String.ofList (instantText time.date time.hour time.minute time.second time.zone)

/-- The seconds that the time lies after the epoch, if its date lies so many days after it. -/
def seconds (time : CivilTime) (days : Int) : Int :=
  86400 * days + 3600 * time.hour + 60 * time.minute + time.second - time.zone.offset

def midnight (date : Date) (zone : Zone) (isCivil : date.IsCivil) :
    CivilTime := ⟨date, 0, 0, 0, zone, isCivil⟩

end CivilTime

/-- The end of a day, as hour twenty-four of it. -/
def endOfDay (date : Date) (zone : Zone) : String := String.ofList (instantText date 24 0 0 zone)

section Bounds

variable (key : String) {date : Date}

/-- Whole seconds of up to fifty-three bits come out exactly. -/
theorem secondsOf_whole {seconds : Int} (hFits : seconds.natAbs < 2 ^ 53) :
    (secondsOf (seconds * 1000000)).toInt? = some seconds := by
  have hSigned : (if decide (seconds * 1000000 < 0) =
      true then -(seconds.natAbs : Int) else seconds.natAbs) =
      seconds := by
    simp only [decide_eq_true_eq]
    split <;> omega
  rw [secondsOf, Int.natAbs_mul]
  exact (Binary64.toInt?_ofQuotient _ (by decide) hFits).trans (congrArg some hSigned)

/-- The text of an instant may hold a date, for it is ASCII throughout. -/
theorem dateText?_instantText (date : Date) (hour minute second : Nat) (zone : Zone) :
    dateText? (.text (String.ofList (instantText date hour minute second zone))) =
      some (instantText date hour minute second zone) := by
  simp only [dateText?, String.toList_ofList]
  exact if_pos (List.all_eq_true.mpr fun c hMem =>
    decide_eq_true (isPlain_of_mem_instantText date hour minute second zone c hMem).ascii)

/-- The text of a time is no number, and the instant that it denotes is the bound. -/
theorem timeBound_instantText (hCivil : date.IsCivil) (hour minute second : Nat) (hHour : hour ≤ 24)
    (hMinute : minute < 60) (hSecond : second < 60)
    (hEnd : hour = 24 → minute = 0 ∧ second = 0) (zone : Zone)
    (hInside : ¬ (hour = 24 ∧ date.number = lastDay)) :
    timeBound key (.text (String.ofList (instantText date hour minute second zone))) =
      .ok (secondsOf
        ((86400 * (date.number - epochDay) + 3600 * hour + 60 * minute + second - zone.offset) *
          1000000)) := by
  have hNoNumber : realOf (.text (String.ofList (instantText date hour minute second zone))) =
      .error .unreadable := by
    simp only [realOf, String.toList_ofList, readLeniently?_instantText]
  rw [timeBound, hNoNumber]
  dsimp only
  rw [dateText?_instantText, Option.map_some,
    readInstant_instantText hCivil hHour hMinute hSecond hEnd zone, if_neg hInside]

/-- The end of a day is the start of the next. -/
theorem timeBound_endOfDay (zone : Zone) (hCivil : date.IsCivil) (hNext : date.next.IsCivil) :
    timeBound key (.text (endOfDay date zone)) =
      timeBound key (.text (CivilTime.midnight date.next zone hNext).text) := by
  have hNotLast : date.number ≠ lastDay := by
    intro hLast
    obtain rfl : date = .last := Date.number_inj hCivil (by decide) hLast
    exact absurd hNext (by decide)
  have hEnd := timeBound_instantText key hCivil 24 0 0 le_rfl (by decide) (by decide)
    (fun _ => ⟨rfl, rfl⟩) zone fun hLate => hNotLast hLate.2
  have hStart := timeBound_instantText key hNext 0 0 0 (by decide) (by decide) (by decide)
    (fun hLate => by cases hLate) zone fun hLate => by cases hLate.1
  have hSame : 86400 * (date.number - epochDay) + 3600 * (24 : Nat) + 60 * (0 : Nat) + (0 : Nat) =
      86400 * (date.next.number - epochDay) + 3600 * (0 : Nat) + 60 * (0 : Nat) + (0 : Nat) := by
    rw [Date.number_next hCivil]
    omega
  rw [hSame] at hEnd
  exact hEnd.trans hStart.symm

end Bounds

namespace CivilTime

variable {time : CivilTime} {days : Int}

/-- The bound of a civil time is its distance from the epoch. -/
theorem timeBound_text (key : String) (hDays : IsDaysFromEpoch time.date days) :
    timeBound key (.text time.text) = .ok (secondsOf (time.seconds days * 1000000)) := by
  have hNotLate : ¬ ((time.hour : Nat) = 24 ∧ time.date.number = lastDay) :=
    fun hLate => time.hour.isLt.ne hLate.1
  rw [hDays.eq]
  exact timeBound_instantText key time.isCivil _ _ _ time.hour.isLt.le time.minute.isLt
    time.second.isLt
    (fun hLate => absurd hLate time.hour.isLt.ne) time.zone hNotLate

/-- All seconds of the calendar are numbers of at most fifty-three bits. -/
theorem natAbs_seconds_lt (hDays : IsDaysFromEpoch time.date days) :
    (time.seconds days).natAbs < 2 ^ 53 := by
  obtain ⟨hFirst, hLast⟩ := Date.number_bounds time.isCivil
  have hEpoch : epochDay = 719163 := rfl
  have hOffset : -86400 < time.zone.offset ∧ time.zone.offset < 86400 := by
    cases time.zone <;> simp only [Zone.offset] <;> omega
  rw [hDays.eq, seconds]
  omega

/-- A time bounds messages by the whole number of its seconds. -/
theorem exists_bound (key : String) (hDays : IsDaysFromEpoch time.date days) :
    ∃ bound, timeBound key (.text time.text) = .ok bound ∧
      bound.toInt? = some (time.seconds days) :=
  ⟨_, timeBound_text key hDays, secondsOf_whole (natAbs_seconds_lt hDays)⟩

end CivilTime

/-- A time of the years 1 to 9999, written down to the second with or without a zone, bounds
messages by exactly the seconds between the epoch and it, where every date lies one number of days
after the epoch. Hour twenty-four is the start of the next day. So texts of one instant are one
bound, and a later instant is a greater one. -/
theorem timeBound_exact (key : String) :
    (∀ (time : CivilTime) (days : Int), IsDaysFromEpoch time.date days →
      ∃ bound, timeBound key (.text time.text) = .ok bound ∧
        bound.toInt? = some (time.seconds days)) ∧
    (∀ date : Date, date.IsCivil → ∃! days, IsDaysFromEpoch date days) ∧
    (∀ (date : Date) (zone : Zone), date.IsCivil → ∀ hNext : date.next.IsCivil,
      timeBound key (.text (endOfDay date zone)) =
        timeBound key (.text (CivilTime.midnight date.next zone hNext).text)) ∧
    (∀ (time other : CivilTime) (days otherDays : Int),
      IsDaysFromEpoch time.date days → IsDaysFromEpoch other.date otherDays →
        (time.seconds days = other.seconds otherDays →
          timeBound key (.text time.text) = timeBound key (.text other.text)) ∧
        (time.seconds days < other.seconds otherDays → ∃ bound otherBound,
          timeBound key (.text time.text) = .ok bound ∧
          timeBound key (.text other.text) = .ok otherBound ∧
            bound.less otherBound = true)) := by
  refine ⟨fun time days hDays => time.exists_bound key hDays, fun date hCivil => ?_,
    fun date zone hCivil hNext => timeBound_endOfDay key zone hCivil hNext,
    fun time other days otherDays hDays hOther => ⟨fun hSame => ?_, fun hLess => ?_⟩⟩
  · exact ⟨_, isDaysFromEpoch_number hCivil, fun days hDays => hDays.eq⟩
  · rw [CivilTime.timeBound_text key hDays, CivilTime.timeBound_text key hOther, hSame]
  · obtain ⟨bound, hBound, hWhole⟩ := CivilTime.exists_bound key hDays
    obtain ⟨otherBound, hOtherBound, hOtherWhole⟩ := CivilTime.exists_bound key hOther
    exact ⟨bound, otherBound, hBound, hOtherBound,
      (Binary64.less_iff_of_toInt? hWhole hOtherWhole).mpr hLess⟩

/-- In a leap year the day after the twenty-eighth of February is the twenty-ninth, also for a clock
that is behind and still shows the day before. -/
theorem timeBound_exact_leap_day :
    (∃ bound, timeBound "from" (.text "2000-02-28T22:30:00-01:30") = .ok bound ∧
      bound.toInt? = some 951782400) ∧
    timeBound "from" (.text "2000-02-28T24:00:00Z") =
      timeBound "from" (.text "2000-02-29T00:00:00Z") ∧
    timeBound "from" (.text "2000-02-28T22:30:00-01:30") =
      timeBound "from" (.text "2000-02-29T00:00:00Z") ∧
    ∃ bound laterBound, timeBound "from" (.text "2000-02-28T22:30:00-01:30") = .ok bound ∧
      timeBound "from" (.text "2000-02-29T00:00:01") = .ok laterBound ∧
      bound.less laterBound = true := by
  let evening : CivilTime := ⟨⟨2000, 2, 28⟩, 22, 30, 0, .behind 1 30, by decide⟩
  let midnight : CivilTime := .midnight ⟨2000, 2, 29⟩ .universal (by decide)
  let later : CivilTime := ⟨⟨2000, 2, 29⟩, 0, 0, 1, .unstated, by decide⟩
  have hEvening : evening.text = "2000-02-28T22:30:00-01:30" := by decide
  have hMidnight : midnight.text = "2000-02-29T00:00:00Z" := by decide
  have hLater : later.text = "2000-02-29T00:00:01" := by decide
  have hEndOfDay : endOfDay ⟨2000, 2, 28⟩ .universal = "2000-02-28T24:00:00Z" := by decide
  have hSeconds : evening.seconds 11015 = 951782400 := by decide
  have hNext : Date.next ⟨2000, 2, 28⟩ = ⟨2000, 2, 29⟩ := by decide
  have hNumber : Date.number ⟨2000, 2, 28⟩ - epochDay = 11015 := by decide
  have hDay : IsDaysFromEpoch ⟨2000, 2, 28⟩ 11015 := hNumber ▸ isDaysFromEpoch_number (by decide)
  have hNextDay : IsDaysFromEpoch ⟨2000, 2, 29⟩ 11016 :=
    hNext ▸ IsDaysFromEpoch.later (by decide) hDay
  obtain ⟨hBound, -, hEnd, hOrder⟩ := timeBound_exact "from"
  have hEveningBound := hBound evening 11015 hDay
  have hEndBound := hEnd ⟨2000, 2, 28⟩ .universal (by decide) (by decide)
  obtain ⟨hEqual, -⟩ := hOrder evening midnight 11015 11016 hDay hNextDay
  obtain ⟨-, hGreater⟩ := hOrder evening later 11015 11016 hDay hNextDay
  rw [hEvening, hSeconds] at hEveningBound
  simp only [hNext] at hEndBound
  rw [hEndOfDay, hMidnight] at hEndBound
  rw [hEvening, hMidnight] at hEqual
  rw [hEvening, hLater] at hGreater
  exact ⟨hEveningBound, hEndBound, hEqual (by decide), hGreater (by decide)⟩

end DeviceRegistry.Filter
