import DeviceRegistry.Number.Binary64

/-! The value nearest to an exact quotient. A quotient halfway between two values goes to
the one whose significand is even, and one beyond the greatest finite value by half a step
or more is infinite. -/
namespace DeviceRegistry

/-- The quotient rounded to the nearest natural number, a half to the even neighbour. -/
def roundedQuotient (numerator denominator : Nat) : Nat :=
  let floor := numerator / denominator
  let twice := 2 * (numerator % denominator)
  if twice < denominator then floor
  else if denominator < twice then floor + 1
  else if floor % 2 = 0 then floor else floor + 1

namespace Binary64

/-- The exponent of the greatest power of two that is at most the quotient of two
positive numbers. -/
def binaryExponent (numerator denominator : Nat) : Int :=
  let estimate : Int := (numerator.log2 : Int) - denominator.log2
  if denominator * powerOf 2 estimate ≤ numerator * powerOf 2 (- estimate) then estimate
  else estimate - 1

def nearestRank (numerator denominator : Nat) : Nat :=
  if numerator = 0 then 0
  else
    let exponent := max (binaryExponent numerator denominator - 52) (-1074)
    let significand :=
      roundedQuotient (numerator * powerOf 2 (- exponent)) (denominator * powerOf 2 exponent)
    (exponent + 1074).toNat * fractionCount + significand

def ofQuotient (negative : Bool) (numerator denominator : Nat) : Binary64 :=
  ofRank negative (nearestRank numerator denominator)

def ofInt (n : Int) : Binary64 := ofQuotient (decide (n < 0)) n.natAbs 1

/-- The value nearest to a decimal `digits * 10 ^ exponent`. Decimals that are certainly beyond the
finite values, or certainly nearest to zero, are recognised by their length. -/
def ofDecimal (negative : Bool) (digits : Nat) (exponent : Int) : Binary64 :=
  if digits = 0 then ofRank negative 0
  else if 400 < exponent then infinity negative
  else if exponent + (digits.log2 / 3 + 1 : Nat) < -400 then ofRank negative 0
  else ofQuotient negative (digits * powerOf 10 exponent) (powerOf 10 (- exponent))

end Binary64

end DeviceRegistry
