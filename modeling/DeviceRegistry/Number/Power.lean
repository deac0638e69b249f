/-! Powers whose exponents may be negative. A negative exponent moves its power to the other side of
a comparison or a quotient, so that a power on this side is one. -/
namespace DeviceRegistry

/-- The power of a base. It is one if the exponent is negative. -/
def powerOf (base : Nat) (exponent : Int) : Nat := Nat.pow base exponent.toNat

end DeviceRegistry
