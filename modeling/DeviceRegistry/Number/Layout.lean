import DeviceRegistry.Number.Stored

/-! How selected digits are laid out as text. A layout is a record of the decisions that
written numbers show: which sizes are written positionally, and how the values that have no
digits are called. -/
namespace DeviceRegistry

/-- The decisions of one written form of numbers. -/
structure Layout where
  /-- The digits of a finite magnitude other than zero. -/
  digits : Binary64 → Decimal
  /-- Leading digits from this power of ten on are written positionally. -/
  plainFrom : Int
  /-- Leading digits from this power of ten on are written with an exponent. -/
  plainBelow : Int
  /-- A single digit before an exponent is followed by a point and a zero. -/
  pointBeforeExponent : Bool
  nan : String
  infinity : String

namespace Layout

def zeros (count : Nat) : List Char := List.replicate count '0'

def exponentText (exponent : Int) : List Char :=
  let digits := Nat.toDigits 10 exponent.natAbs
  'e' :: (if exponent < 0 then '-' else '+') :: (zeros (2 - digits.length) ++ digits)

def decimalText (layout : Layout) (d : Decimal) : List Char :=
  let digits := Nat.toDigits 10 d.digits
  let leading : Int := d.exponent + digits.length - 1
  if layout.plainFrom ≤ leading ∧ leading < layout.plainBelow then
    if 0 ≤ d.exponent then
      digits ++ zeros d.exponent.toNat ++ ['.', '0']
    else if 0 ≤ leading then
      let before := leading.toNat + 1
      digits.take before ++ '.' :: digits.drop before
    else
      '0' :: '.' :: (zeros (-leading - 1).toNat ++ digits)
  else
    let mantissa :=
      match digits with
      | [digit] => if layout.pointBeforeExponent then [digit, '.', '0'] else [digit]
      | digit :: others => digit :: '.' :: others
      | [] => []
    mantissa ++ exponentText leading

def text (layout : Layout) (x : Binary64) : List Char :=
  if x.isNaN then layout.nan.toList
  else
    let magnitude :=
      if x.isInfinite then layout.infinity.toList
      else if x.isZero then ['0', '.', '0']
      else layout.decimalText (layout.digits x)
    if x.negative then '-' :: magnitude else magnitude

/-- Numbers in messages have the fewest digits that identify them, positionally below 10^16. -/
def plain : Layout where
  digits := Binary64.shortest
  plainFrom := -4
  plainBelow := 16
  pointBeforeExponent := false
  nan := "nan"
  infinity := "inf"

/-- Numbers in metadata text are those of messages, except that the values without digits have the
names that metadata text knows. -/
def metadata : Layout := { plain with nan := "NaN", infinity := "Infinity" }

/-- Numbers that become the text of a column have the fifteen digits that the storage
engine finds. -/
def column : Layout where
  digits := Stored.digits
  plainFrom := -4
  plainBelow := 15
  pointBeforeExponent := true
  nan := "NaN"
  infinity := "Inf"

end Layout

def integerText (n : Int) : List Char :=
  if n < 0 then '-' :: Nat.toDigits 10 n.natAbs else Nat.toDigits 10 n.natAbs

end DeviceRegistry
