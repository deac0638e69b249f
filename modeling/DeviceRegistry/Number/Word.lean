/-! Integers that fit sixty-four bits with a sign. -/
namespace DeviceRegistry.Number

/-- The integer fits sixty-four bits with a sign. -/
def fitsWord (n : Int) : Bool := decide (-0x8000000000000000 ≤ n ∧ n < 0x8000000000000000)

end DeviceRegistry.Number
