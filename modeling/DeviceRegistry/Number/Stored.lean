import DeviceRegistry.Number.Decimal
import DeviceRegistry.Number.Extended

/-! Decimal digits as the storage engine writes them. It scales by powers of ten and keeps
sixty-four bits at every step, so that the last of its digits may be one off from the nearest. -/
namespace DeviceRegistry.Stored

/-- A power of ten as a finite value, which is rounded where it is not exact. -/
def power (exponent : Int) : Extended := Extended.ofBinary64 (Binary64.ofDecimal false 1 exponent)

/-- What is added before digits are cut off: half of the fifteenth digit of a number from one to
ten, as the product of two values comes to. -/
def halfLastDigit : Extended :=
  Extended.ofBinary64 (Extended.toBinary64 false
    (Extended.exactProduct (Extended.ofBinary64 (Binary64.ofDecimal false 5 (-5))) (power (-10))))

/-- The scale multiplied by a power of ten as long as the magnitude is not below the product. The
exponent counts the powers of ten in the scale. -/
def scaledUp (x : Extended) (exponent : Nat) : Nat → Extended × Int → Extended × Int
  | 0, scale => scale
  | rounds + 1, (scale, reached) =>
    let next := (power exponent).times scale
    if x.atLeast next then scaledUp x exponent rounds (next, reached + exponent) else
      (scale, reached)

/-- The magnitude multiplied by a power of ten as long as it is below a bound. The exponent counts
the powers of ten that are then missing. -/
def broughtUp (bound : Extended) (exponent : Nat) : Nat → Extended × Int → Extended × Int
  | 0, x => x
  | rounds + 1, (x, reached) =>
    if x.atLeast bound then (x, reached)
    else broughtUp bound exponent rounds (x.times (power exponent), reached - exponent)

/-- A magnitude other than zero as a number from one to ten and a power of ten. -/
def normalized (x : Extended) : Extended × Int :=
  let scale := scaledUp x 1 10 (scaledUp x 10 10 (scaledUp x 100 10 (Extended.ofNat 1, 0)))
  broughtUp (Extended.ofNat 1) 1 10 (broughtUp (power (-8)) 8 50 (x.dividedBy scale.1, scale.2))

def leadingDigits : Nat → Extended → Nat → Nat
  | 0, _, known => known
  | count + 1, x, known =>
    leadingDigits count (x.fraction.times (Extended.ofNat 10)) (known * 10 + x.whole)

/-- The fifteen digits that are written for a finite magnitude other than zero. -/
def digits (x : Binary64) : Decimal :=
  let (scaled, exponent) := normalized (Extended.ofBinary64 x)
  let raised := scaled.plus halfLastDigit
  let (raised, exponent) :=
    if raised.atLeast (Extended.ofNat 10) then (raised.times (power (-1)), exponent + 1)
    else (raised, exponent)
  Decimal.normalized (leadingDigits 15 raised 0) (exponent - 14)

end DeviceRegistry.Stored
