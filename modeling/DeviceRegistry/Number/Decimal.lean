import DeviceRegistry.Number.Binary64

/-! Which decimal digits stand for a binary value. The fewest digits that read back are found by
trying one digit, two digits and so on on the decimal grid around the value, in exact arithmetic. -/
namespace DeviceRegistry

/-- The number `digits * 10 ^ exponent`. -/
structure Decimal where
  digits : Nat
  exponent : Int
deriving DecidableEq, Repr

namespace Decimal

/-- Trailing zeros move into the exponent. -/
def normalized (digits : Nat) (exponent : Int) : Decimal :=
  if h : digits ≠ 0 ∧ digits % 10 = 0 then
    normalized (digits / 10) (exponent + 1)
  else
    ⟨digits, exponent⟩
termination_by digits
decreasing_by omega

def compareScaled (a : Nat) (i : Int) (n : Nat) (j : Int) : Ordering :=
  compare (a * powerOf 10 i * powerOf 2 (- j)) (n * powerOf 2 j * powerOf 10 (- i))

end Decimal

namespace Binary64

/-- The decimal lies among the reals that round to the magnitude. They reach halfway to both
neighbours, and the ends belong to them when the significand is even. -/
def readsBack (x : Binary64) (d : Decimal) : Bool :=
  let low := if x.narrowBelow then 4 * x.significand - 1 else 4 * x.significand - 2
  let high := 4 * x.significand + 2
  let atEnds := x.significand % 2 == 0
  let fromLow := Decimal.compareScaled d.digits d.exponent low (x.exponent - 2)
  let fromHigh := Decimal.compareScaled d.digits d.exponent high (x.exponent - 2)
  (fromLow == .gt || (atEnds && fromLow == .eq)) && (fromHigh == .lt || (atEnds && fromHigh == .eq))

/-- The least number of digits before the point: the magnitude is below ten to that power and,
unless the power is the first one tried, not below the power before. -/
def decimalScale (x : Binary64) : Int :=
  let start := ((x.significand.log2 : Int) + x.exponent) * 30103 / 100000
  let reaches (k : Int) : Bool := Decimal.compareScaled 1 k x.significand x.exponent == .gt
  if reaches start then start
  else if reaches (start + 1) then start + 1
  else if reaches (start + 2) then start + 2
  else start + 3

/-- The magnitude divided by a power of ten, rounded down. -/
def onGrid (x : Binary64) (power : Int) : Nat :=
  (x.significand * powerOf 2 x.exponent * powerOf 10 (- power)) /
    (powerOf 2 (- x.exponent) * powerOf 10 power)

/-- The neighbour of the magnitude on a decimal grid that reads back, the nearer one if both do, and
of two equally near ones the even one. -/
def onGridReadingBack (x : Binary64) (power : Int) : Option Decimal :=
  let low := x.onGrid power
  let below := x.readsBack ⟨low, power⟩
  let above := x.readsBack ⟨low + 1, power⟩
  if below && above then
    match Decimal.compareScaled (2 * low + 1) power (2 * x.significand) x.exponent with
    | .gt => some (Decimal.normalized low power)
    | .lt => some (Decimal.normalized (low + 1) power)
    | .eq => some (Decimal.normalized (low + low % 2) power)
  else if below then some (Decimal.normalized low power)
  else if above then some (Decimal.normalized (low + 1) power)
  else none

def exactDecimal (x : Binary64) : Decimal :=
  Decimal.normalized (x.significand * powerOf 2 x.exponent * powerOf 5 (- x.exponent))
    (min x.exponent 0)

def shortest (x : Binary64) : Decimal :=
  let scale := x.decimalScale
  match (List.range 17).findSome? fun n => x.onGridReadingBack (scale - (n + 1 : Nat)) with
  | some d => d
  | none => x.exactDecimal

end Binary64

end DeviceRegistry
