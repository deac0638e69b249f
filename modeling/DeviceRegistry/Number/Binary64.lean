import DeviceRegistry.Number.Power

/-! Binary floating-point numbers of sixty-four bits, kept as a sign and a rank. The rank counts the
values of one sign in ascending order, starting with zero, so that the order of numbers is the order
of integers. Above the rank of infinity lie the values that are not numbers. -/
namespace DeviceRegistry

/-- A sign and a rank among the values of that sign. -/
structure Binary64 where
  negative : Bool
  rank : Nat
  rank_lt : rank < 0x8000000000000000
deriving DecidableEq

namespace Binary64

/-- The number of values with the same exponent. -/
def fractionCount : Nat := 0x10000000000000

/-- The rank of infinity: every exponent below the greatest has been used. -/
def infinityRank : Nat := 2047 * fractionCount

/-- The value of a sign and a rank, where every rank beyond the finite ones is infinity. -/
def ofRank (negative : Bool) (rank : Nat) : Binary64 where
  negative := negative
  rank := min rank infinityRank
  rank_lt := Nat.lt_of_le_of_lt (Nat.min_le_right ..) (by decide)

def zero : Binary64 := ofRank false 0

def infinity (negative : Bool) : Binary64 := ofRank negative infinityRank

def nan : Binary64 where
  negative := false
  rank := infinityRank + fractionCount / 2
  rank_lt := by decide

def isNaN (x : Binary64) : Bool := decide (infinityRank < x.rank)

def isInfinite (x : Binary64) : Bool := decide (x.rank = infinityRank)

def isFinite (x : Binary64) : Bool := decide (x.rank < infinityRank)

def isZero (x : Binary64) : Bool := decide (x.rank = 0)

/-- The integer that a finite magnitude is a multiple of a power of two of. -/
def significand (x : Binary64) : Nat :=
  if x.rank < fractionCount then x.rank else fractionCount + x.rank % fractionCount

def exponent (x : Binary64) : Int :=
  (max 1 (x.rank / fractionCount) : Nat) - 1075

/-- The gap to the magnitude below is half the gap to the magnitude above. -/
def narrowBelow (x : Binary64) : Bool :=
  decide (2 * fractionCount ≤ x.rank) && decide (x.rank % fractionCount = 0)

/-- A place on the line of integers in the order of the numbers. Both zeros have place zero. -/
def place (x : Binary64) : Int :=
  if x.negative then - (x.rank : Int) else x.rank

/-- Numerical equality, which no value that is not a number has. -/
def equals (x y : Binary64) : Bool :=
  !x.isNaN && !y.isNaN && decide (x.place = y.place)

/-- Numerical order, in which no value that is not a number takes part. -/
def less (x y : Binary64) : Bool :=
  !x.isNaN && !y.isNaN && decide (x.place < y.place)

def lessOrEqual (x y : Binary64) : Bool :=
  !x.isNaN && !y.isNaN && decide (x.place ≤ y.place)

def withoutSignOfZero (x : Binary64) : Binary64 :=
  if x.isZero then zero else x

def truncated (x : Binary64) : Int :=
  let magnitude := x.significand * powerOf 2 x.exponent / powerOf 2 (- x.exponent)
  if x.negative then - (magnitude : Int) else magnitude

def toInt? (x : Binary64) : Option Int :=
  if x.isFinite && decide (x.significand * powerOf 2 x.exponent % powerOf 2 (- x.exponent) = 0) then
    some x.truncated
  else
    none

end Binary64

end DeviceRegistry
