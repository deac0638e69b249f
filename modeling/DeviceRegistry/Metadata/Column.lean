import DeviceRegistry.Failure
import DeviceRegistry.Text.Utf8

/-! The metadata column. An engine that knows documents holds the mapping itself, and any other
engine holds its text. -/
namespace DeviceRegistry.Metadata

inductive ColumnType where
  | document
  | text
deriving DecidableEq

def ColumnType.name : ColumnType → String
  | .document => "JSONB"
  | .text => "TEXT"

/-- The value that is handed to a column. Metadata has to have a text even where the column does not
hold it. -/
def ColumnType.bound (column : ColumnType) (value : Value) : Except Failure Value :=
  match encode value, column with
  | .error fault, _ => .error (.unwritableMetadata fault)
  | .ok stored, .text => .ok (.text stored)
  | .ok _, .document => .ok (if value.isBlank then .map [] else value)

/-- The mapping that a raw value of the column denotes. Nothing at all denotes the empty mapping,
and a mapping denotes itself. -/
def decode : Value → Except Failure Mapping
  | .null => .ok []
  | .map entries => .ok entries
  | .text s => (decodeText s.toList).mapError .unreadableMetadata
  | .bytes _ content =>
    match Text.decode? content with
    | some text => (decodeText text).mapError .unreadableMetadata
    | none => .error .undecodableMetadata
  | value => .error (.unreadableMetadata (.notMapping value.kindName))

end DeviceRegistry.Metadata
