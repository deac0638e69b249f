import DeviceRegistry.Failure
import DeviceRegistry.Text.Folding
import DeviceRegistry.Text.Wildcard

/-! Search by a part of a name, without regard to the case of ASCII letters. -/
namespace DeviceRegistry.Filter

/-- A part of a name that is looked for. It is not empty. -/
structure NamePart where
  part : String
deriving DecidableEq

namespace NamePart

def ofValue (filter : Value) : Except Failure (Option NamePart) :=
  if filter.isBlank then .ok none
  else match filter with
    | .text s => .ok (some ⟨s⟩)
    | _ => .error .nameFilterNotText

/-- The part as a pattern in which none of its characters is a wildcard. -/
def escaped (sought : NamePart) : List Char := Text.escaped sought.part.toList

def pattern (sought : NamePart) : List Char := Text.containing (Text.folded sought.part.toList)

def maxPatternBytes : Nat := 50000

def isTooLong (sought : NamePart) : Bool :=
  decide (maxPatternBytes < (String.ofList sought.pattern).utf8ByteSize)

/-- The characters before the first NUL, which are those that the storage engine compares. -/
def beforeNul (text : List Char) : List Char := text.takeWhile (· ≠ '\x00')

/-- A name holds the part. Like the comparison with a pattern that it rests on, this tells U+FFFE
and U+FFFF from U+FFFD. -/
def selects (sought : NamePart) (name : String) : Bool :=
  Text.matchesPattern (beforeNul sought.pattern) (beforeNul (Text.folded name.toList))

end NamePart

end DeviceRegistry.Filter
