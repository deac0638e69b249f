import DeviceRegistry.Calendar.Date
import DeviceRegistry.Number.Reading

/-! Instants read from text. A text starts with a date: a year, a month of a year, a day of a month,
a week of a year, a day of a week, or a day of a year. After any one character a time of day may
follow, down to fractions of a second, and an offset from universal time. -/
namespace DeviceRegistry.Calendar

inductive InstantFault where
  | unreadable
  | outOfRange
deriving DecidableEq

def integerOf (digits : List Char) : Except InstantFault Int :=
  match Number.integer? digits with
  | some n => .ok n
  | none => .error .unreadable

/-- Reading goes on only if the condition holds. -/
def expect (condition : Bool) : Except InstantFault Unit :=
  if condition then .ok () else .error .unreadable

/-- A date as it was read: by its month and day, which may still be no day of the calendar, or by
the number of a day. -/
inductive DateReading where
  | civil (date : Date)
  | numbered (dayNumber : Int)
deriving DecidableEq

def DateReading.dayNumber : DateReading → Except InstantFault Int
  | .civil date => if date.isValid then .ok date.number else .error .unreadable
  | .numbered dayNumber => .ok dayNumber

def dateSeparator : Char := '-'

def timeSeparator : Char := ':'

/-- A year, a year and a month, or a year, a month and a day. -/
def readCivil (text : List Char) : Except InstantFault (DateReading × List Char) := do
  expect (4 ≤ text.length)
  let year ← integerOf (text.take 4)
  let rest := text.drop 4
  if rest.isEmpty then return (.civil ⟨year, 1, 1⟩, rest)
  let separated := rest.head? == some dateSeparator
  let rest := if separated then rest.drop 1 else rest
  expect (2 ≤ rest.length)
  let month ← integerOf (rest.take 2)
  let rest := rest.drop 2
  if rest.isEmpty then
    expect separated
    return (.civil ⟨year, month, 1⟩, rest)
  expect (!separated || rest.head? == some dateSeparator)
  let rest := if separated then rest.drop 1 else rest
  expect (2 ≤ rest.length)
  let day ← integerOf (rest.take 2)
  return (.civil ⟨year, month, day⟩, rest.drop 2)

def weekDay (year week day : Int) : Except InstantFault Int := do
  expect (0 < week && week < 54 && 0 < day && day < 8)
  expect (1 ≤ year && year ≤ 9999)
  let dayNumber := firstMonday year + (week - 1) * 7 + (day - 1)
  if lastDay < dayNumber then .error .outOfRange else .ok dayNumber

def yearDay (year day : Int) : Except InstantFault Int := do
  expect (1 ≤ day && day ≤ 365 + (isLeapYear year).toInt)
  expect (1 ≤ year && year ≤ 9999)
  return daysBeforeYear year + day

/-- A year and a week, a year, a week and a day of the week, or a year and a day of the year. -/
def readNumbered (text : List Char) : Except InstantFault (DateReading × List Char) := do
  expect (4 ≤ text.length)
  let year ← integerOf (text.take 4)
  let rest := text.drop 4
  let separated := rest.head? == some dateSeparator
  let rest := if separated then rest.drop 1 else rest
  if rest.head? == some 'W' then
    let rest := rest.drop 1
    let week ← integerOf (rest.take 2)
    let rest := rest.drop 2
    if rest.isEmpty then
      return (.numbered (← weekDay year week 1), rest)
    expect ((rest.head? == some dateSeparator) == separated)
    let rest := if separated then rest.drop 1 else rest
    let day ← integerOf (rest.take 1)
    return (.numbered (← weekDay year week day), rest.drop 1)
  else
    expect (3 ≤ rest.length)
    let day ← integerOf (rest.take 3)
    return (.numbered (← yearDay year day), rest.drop 3)

/-- The date at the start of a text. The forms with months are tried first. -/
def readDate (text : List Char) : Except InstantFault (DateReading × List Char) :=
  match readCivil text with
  | .ok reading => .ok reading
  | .error _ => readNumbered text

/-- A time of day and its offset from universal time in seconds. -/
structure Clock where
  hour : Int := 0
  minute : Int := 0
  second : Int := 0
  microsecond : Int := 0
  offset : Int := 0
deriving DecidableEq

def startsOffset (c : Char) : Bool := c == '-' || c == '+' || c == 'Z' || c == 'z'

def readOffset (text : List Char) : Except InstantFault Int := do
  if text = ['Z'] ∨ text = ['z'] then return 0
  expect (text.length = 3 || text.length = 5 || text.length = 6)
  expect (text.head? == some '-' || text.head? == some '+')
  let hours ← integerOf ((text.drop 1).take 2)
  let minutes ←
    if text.length = 3 then .ok 0
    else integerOf (text.drop (if text[3]? = some timeSeparator then 4 else 3))
  expect (minutes ≤ 59 && hours ≤ 23)
  let magnitude := (hours * 60 + minutes) * 60
  return if text.head? = some '-' then -magnitude else magnitude

/-- The microseconds of a fraction at the start of a text, and the rest. Digits after the sixth are
passed over. -/
def readFraction (text : List Char) : Int × List Char :=
  match text with
  | mark :: rest =>
    let (digits, after) := rest.span Char.isDigit
    if (mark = '.' ∨ mark = ',') ∧ digits ≠ [] then
      let kept := digits.take 6
      ((Number.digitsValue kept * Nat.pow 10 (6 - kept.length) : Nat), after)
    else (0, text)
  | [] => (0, [])

/-- What remains of a time after its fraction: nothing, or an offset. -/
def readEnd (clock : Clock) (text : List Char) : Except InstantFault Clock :=
  match text with
  | [] => .ok clock
  | c :: _ =>
    if startsOffset c then (readOffset text).map fun offset => { clock with offset := offset }
    else .error .unreadable

def readAfterSecond (clock : Clock) (text : List Char) : Except InstantFault Clock :=
  let (microsecond, rest) := readFraction text
  readEnd { clock with microsecond := microsecond } rest

/-- What remains of a time after its minutes. Hours and minutes apart demand seconds apart. -/
def readAfterMinute (clock : Clock) (separated : Bool) (text : List Char) :
    Except InstantFault Clock :=
  match text with
  | [] => .ok clock
  | c :: rest =>
    if startsOffset c then readEnd clock text
    else do
      expect (!separated || c == timeSeparator)
      let digits := if separated then rest else text
      let second ← integerOf (digits.take 2)
      readAfterSecond { clock with second := second } (digits.drop 2)

def readAfterHour (clock : Clock) (text : List Char) : Except InstantFault Clock :=
  match text with
  | [] => .ok clock
  | c :: rest =>
    if startsOffset c then readEnd clock text
    else do
      let separated := c == timeSeparator
      let digits := if separated then rest else text
      let minute ← integerOf (digits.take 2)
      readAfterMinute { clock with minute := minute } separated (digits.drop 2)

/-- The time that a whole text denotes. Hour twenty-four is the end of the day and nothing later. -/
def readClock (text : List Char) : Except InstantFault Clock := do
  expect (2 ≤ text.length)
  let clock ←
    match text with
    | c :: _ =>
      if startsOffset c then readEnd {} text
      else do
        let hour ← integerOf (text.take 2)
        readAfterHour { hour := hour } (text.drop 2)
    | [] => .ok {}
  expect (clock.hour != 24 || clock.minute == 0 && clock.second == 0 && clock.microsecond == 0)
  return clock

def Clock.isValid (clock : Clock) : Bool :=
  0 ≤ clock.hour && clock.hour ≤ 24 && 0 ≤ clock.minute && clock.minute ≤ 59 &&
    0 ≤ clock.second && clock.second ≤ 59

/-- The microseconds from the epoch to a time of a day. -/
def instantOf (dayNumber : Int) (clock : Clock) : Int :=
  ((dayNumber - epochDay) * 86400 + clock.hour * 3600 + clock.minute * 60 +
    clock.second - clock.offset)
    * 1000000 + clock.microsecond

/-- The instant that a whole text denotes, in microseconds from the epoch. A day that begins after
the last day of the calendar is out of range. -/
def readInstant (text : List Char) : Except InstantFault Int := do
  let (date, rest) ← readDate text
  let clock ← if rest.isEmpty then .ok {} else readClock (rest.drop 1)
  let dayNumber ← date.dayNumber
  expect clock.isValid
  if clock.hour = 24 ∧ dayNumber = lastDay then .error .outOfRange
  else return instantOf dayNumber clock

end DeviceRegistry.Calendar
