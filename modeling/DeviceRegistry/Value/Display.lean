import DeviceRegistry.Number.Layout
import DeviceRegistry.Text.Joined
import DeviceRegistry.Text.Quoted
import DeviceRegistry.Value.Basic

/-! Values as messages show them. Texts inside a message stand in quotes, and a list, a tuple, a set
and a mapping have brackets of their own. -/
namespace DeviceRegistry.Value

def withCommas (parts : List (List Char)) : List Char := Text.joined ", ".toList parts

mutual

def shown : Value → List Char
  | .null => "None".toList
  | .bool true => "True".toList
  | .bool false => "False".toList
  | .int n => integerText n
  | .real x => Layout.plain.text x
  | .text s => Text.quoted s.toList
  | .bytes .fixed content => Text.quotedBytes content
  | .bytes .growing content => "bytearray(".toList ++ Text.quotedBytes content ++ [')']
  | .bytes .window _ => "<memory>".toList
  | .list items => '[' :: (withCommas (allShown items) ++ [']'])
  | .tuple [] => "()".toList
  | .tuple [item] => '(' :: (shown item ++ ",)".toList)
  | .tuple items => '(' :: (withCommas (allShown items) ++ [')'])
  | .set [] => "set()".toList
  | .set items => '\x7b' :: (withCommas (allShown items) ++ ['\x7d'])
  | .map entries => '\x7b' :: (withCommas (entriesShown entries) ++ ['\x7d'])
  | .foreign => "<opaque>".toList

def allShown : List Value → List (List Char)
  | [] => []
  | item :: items => shown item :: allShown items

def entriesShown : List (Value × Value) → List (List Char)
  | [] => []
  | (key, value) :: entries => (shown key ++ ": ".toList ++ shown value) :: entriesShown entries

end

/-- The text of a value in a message, with quotes around a text. -/
def display (value : Value) : String := String.ofList value.shown

/-- The text of a value, without quotes around a text. -/
def plainText : Value → String
  | .text s => s
  | value => value.display

/-- The greatest number of digits that an integer may have to be written or read. -/
def maxDigits : Nat := 4300

def isOversized (n : Int) : Bool := decide (maxDigits < (Nat.toDigits 10 n.natAbs).length)

mutual

def holdsOversized : Value → Bool
  | .int n => isOversized n
  | .list items | .tuple items | .set items => anyHoldsOversized items
  | .map entries => someEntryHoldsOversized entries
  | _ => false

def anyHoldsOversized : List Value → Bool
  | [] => false
  | item :: items => holdsOversized item || anyHoldsOversized items

def someEntryHoldsOversized : List (Value × Value) → Bool
  | [] => false
  | (key, value) :: entries =>
    holdsOversized key || holdsOversized value || someEntryHoldsOversized entries

end

end DeviceRegistry.Value
