import DeviceRegistry.Number.Binary64

/-! Values of open shape, as callers hand them in and as metadata holds them. -/
namespace DeviceRegistry

inductive ByteHolder where
  | fixed
  | growing
  | window
deriving DecidableEq

/-- A value of open shape. A mapping holds its entries in order of first arrival. A foreign value is
one of which nothing is known. -/
inductive Value where
  | null
  | bool (b : Bool)
  | int (n : Int)
  | real (x : Binary64)
  | text (s : String)
  | bytes (holder : ByteHolder) (content : List UInt8)
  | list (items : List Value)
  | tuple (items : List Value)
  | set (items : List Value)
  | map (entries : List (Value × Value))
  | foreign
deriving Inhabited

abbrev Mapping := List (Value × Value)

namespace Value

/-- Values that count as nothing: null, false, zero, and whatever is empty. -/
def isBlank : Value → Bool
  | .null => true
  | .bool b => !b
  | .int n => n == 0
  | .real x => x.isZero
  | .text s => s.isEmpty
  | .bytes _ content => content.isEmpty
  | .list items | .tuple items | .set items => items.isEmpty
  | .map entries => entries.isEmpty
  | .foreign => false

def kindName : Value → String
  | .null => "NoneType"
  | .bool _ => "bool"
  | .int _ => "int"
  | .real _ => "float"
  | .text _ => "str"
  | .bytes .fixed _ => "bytes"
  | .bytes .growing _ => "bytearray"
  | .bytes .window _ => "memoryview"
  | .list _ => "list"
  | .tuple _ => "tuple"
  | .set _ => "set"
  | .map _ => "dict"
  | .foreign => "Opaque"

end Value

end DeviceRegistry
