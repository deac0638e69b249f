import DeviceRegistry.Metadata.Escape
import DeviceRegistry.Value.Display

/-! Metadata written as text. The text is compact: no white space stands between its parts. Keys
that are no texts are written as the text of their value. -/
namespace DeviceRegistry.Metadata

inductive WriteFault where
  | notMapping
  | unwritableKind (kind : String)
  | unwritableKey (kind : String)
  | oversizedInteger
deriving DecidableEq

def WriteFault.message : WriteFault → String
  | .notMapping => "metadata must be a mapping"
  | .unwritableKind kind =>
    "metadata is not serializable: Object of type " ++ kind ++ " is not JSON serializable"
  | .unwritableKey kind =>
    "metadata is not serializable: keys must be str, int, float, bool or None, not " ++ kind
  | .oversizedInteger =>
    "metadata is not serializable: Exceeds the limit (4300 digits) for integer string conversion; " ++
      "use sys.set_int_max_str_digits() to increase the limit"

/-- The text of an integer, unless it has too many digits. -/
def integerWritten (n : Int) : Except WriteFault (List Char) :=
  if Value.isOversized n then .error .oversizedInteger else .ok (integerText n)

def keyText : Value → Except WriteFault (List Char)
  | .null => .ok "null".toList
  | .bool true => .ok "true".toList
  | .bool false => .ok "false".toList
  | .int n => integerWritten n
  | .real x => .ok (Layout.metadata.text x)
  | .text s => .ok s.toList
  | key => .error (.unwritableKey key.kindName)

mutual

def written : Value → Except WriteFault (List Char)
  | .null => .ok "null".toList
  | .bool true => .ok "true".toList
  | .bool false => .ok "false".toList
  | .int n => integerWritten n
  | .real x => .ok (Layout.metadata.text x)
  | .text s => .ok (quoted s.toList)
  | .list items | .tuple items => do
    return '[' :: (Text.joined [','] (← allWritten items) ++ [']'])
  | .map entries => do
    return '\x7b' :: (Text.joined [','] (← entriesWritten entries) ++ ['\x7d'])
  | value => .error (.unwritableKind value.kindName)

def allWritten : List Value → Except WriteFault (List (List Char))
  | [] => .ok []
  | item :: items => do
    let first ← written item
    return first :: (← allWritten items)

def entriesWritten : List (Value × Value) → Except WriteFault (List (List Char))
  | [] => .ok []
  | (key, value) :: entries => do
    let name ← keyText key
    let content ← written value
    return (quoted name ++ ':' :: content) :: (← entriesWritten entries)

end

/-- The text that metadata is stored as. Whatever counts as nothing is stored as an
empty mapping. -/
def encode (value : Value) : Except WriteFault String :=
  if value.isBlank then .ok "\x7b\x7d"
  else match value with
    | .map entries => (written (.map entries)).map String.ofList
    | _ => .error .notMapping

end DeviceRegistry.Metadata
