import DeviceRegistry.Failure
import DeviceRegistry.Entity.Field

/-! Single values as the storage engine holds and compares them. -/
namespace DeviceRegistry

/-- A value that the storage engine holds. A text is taken to be well-formed UTF-8; other bytes are
held as a blob. -/
inductive Cell where
  | null
  | integer (n : Int)
  | real (x : Binary64)
  | text (s : String)
  | blob (content : List UInt8)
deriving DecidableEq

namespace Cell

/-- What becomes of a value in a column of texts: numbers turn into their text, in which zero has
no sign. -/
def inTextColumn : Cell → Cell
  | .integer n => .text (String.ofList (integerText n))
  | .real x => .text (String.ofList (Layout.column.text x.withoutSignOfZero))
  | cell => cell

/-- The length of a value. A text counts its characters before the first NUL. -/
def length : Cell → Nat
  | .text s => (s.toList.takeWhile (· ≠ '\x00')).length
  | .blob content => content.length
  | _ => 0

def toValue : Cell → Value
  | .null => .null
  | .integer n => .int n
  | .real x => .real x
  | .text s => .text s
  | .blob content => .bytes .fixed content

end Cell

inductive BindFault where
  | outOfRange
  | unsupportedKind (kind : String)
deriving DecidableEq

namespace Value

/-- The value as the storage engine takes it. Integers have to fit sixty-four bits, and what is not
a number is nothing. -/
def toCell : Value → Except BindFault Cell
  | .null => .ok .null
  | .bool b => .ok (.integer b.toInt)
  | .int n => if Number.fitsWord n then .ok (.integer n) else .error .outOfRange
  | .real x => .ok (if x.isNaN then .null else .real x)
  | .text s => .ok (.text s)
  | .bytes _ content => .ok (.blob content)
  | value => .error (.unsupportedKind value.kindName)

def toColumnCell (value : Value) : Cell :=
  match value.toCell with
  | .ok cell => cell.inTextColumn
  | .error _ => .null

/-- The value equals what a column of texts holds. Nothing equals null. -/
def equalsCell (value : Value) (cell : Cell) : Bool :=
  cell ≠ .null && value.toColumnCell = cell

def equalsText (value : Value) (text : String) : Bool := value.equalsCell (.text text)

/-- What a comparison with the value hands to the storage engine. Null is part of the statement and
is not handed over. -/
def comparisonParameters : Value → List Value
  | .null => []
  | value => [value]

end Value

namespace Cell

/-- The values as the storage engine takes them, counted from the place of the given number on. -/
def ofValuesFrom : Nat → List Value → Except Failure (List Cell)
  | _, [] => .ok []
  | place, value :: values =>
    match value.toCell with
    | .ok cell => (ofValuesFrom (place + 1) values).map (cell :: ·)
    | .error .outOfRange => .error .outOfRange
    | .error (.unsupportedKind kind) =>
      .error (.engine {
        kind := .programming
        message := "Error binding parameter " ++ toString place ++ ": type '" ++ kind ++
          "' is not supported" })

/-- The values as the storage engine takes them. The first that it does not take is reported with
its place. -/
def ofValues (values : List Value) : Except Failure (List Cell) := ofValuesFrom 1 values

end Cell

end DeviceRegistry
