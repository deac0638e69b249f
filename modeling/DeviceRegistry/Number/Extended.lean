import DeviceRegistry.Number.Rounding

/-! Magnitudes with at most sixty-four significant bits. The storage engine computes with them where
it turns numbers into decimal text. Every result is rounded once, to the nearest such magnitude, and
of two equally near ones to the even one. -/
namespace DeviceRegistry

/-- The magnitude `significand * 2 ^ exponent`. -/
structure Extended where
  significand : Nat
  exponent : Int
deriving DecidableEq, Repr

namespace Extended

/-- The nearest magnitude of at most sixty-four significant bits. -/
def rounded (x : Extended) : Extended :=
  let surplus := x.significand.log2 + 1 - 64
  ⟨roundedQuotient x.significand (Nat.pow 2 surplus), x.exponent + surplus⟩

def ofNat (n : Nat) : Extended := ⟨n, 0⟩

/-- The magnitude of a finite value, which has fewer significant bits. -/
def ofBinary64 (x : Binary64) : Extended := ⟨x.significand, x.exponent⟩

def toBinary64 (negative : Bool) (x : Extended) : Binary64 :=
  Binary64.ofQuotient negative (x.significand * powerOf 2 x.exponent) (powerOf 2 (- x.exponent))

def exactProduct (x y : Extended) : Extended :=
  ⟨x.significand * y.significand, x.exponent + y.exponent⟩

def times (x y : Extended) : Extended := (exactProduct x y).rounded

def significandAt (x : Extended) (exponent : Int) : Nat :=
  x.significand * powerOf 2 (x.exponent - exponent)

def plus (x y : Extended) : Extended :=
  let low := min x.exponent y.exponent
  rounded ⟨x.significandAt low + y.significandAt low, low⟩

/-- The quotient by a magnitude other than zero. It is found with more bits than are kept, and one
more bit that tells whether something remains. -/
def dividedBy (x y : Extended) : Extended :=
  let further := y.significand.log2 + 66
  let numerator := x.significand * Nat.pow 2 further
  let remains := if numerator % y.significand = 0 then 0 else 1
  rounded ⟨2 * (numerator / y.significand) + remains, x.exponent - y.exponent - (further + 1 : Nat)⟩

def atLeast (x y : Extended) : Bool :=
  let low := min x.exponent y.exponent
  decide (y.significandAt low ≤ x.significandAt low)

def whole (x : Extended) : Nat :=
  x.significand * powerOf 2 x.exponent / powerOf 2 (- x.exponent)

def fraction (x : Extended) : Extended :=
  ⟨x.significand * powerOf 2 x.exponent % powerOf 2 (- x.exponent), min x.exponent 0⟩

end Extended

end DeviceRegistry
