import DeviceRegistry.Metadata.Column
import DeviceRegistry.Metadata.Document
import DeviceRegistry.Store.Cell

/-! Search by a part of metadata. Every entry of the filter has to be among the entries of the
stored document: mappings again as parts, lists as a whole, and all other values with the same kind
and content. A name that stands twice in a document counts with both of its values. -/
namespace DeviceRegistry.Filter

/-- The entries that metadata has to contain. -/
structure MetadataPart where
  entries : Mapping

namespace MetadataPart

def ofValue (filter : Value) : Except Failure (Option MetadataPart) :=
  if filter.isBlank then .ok none
  else match filter with
    | .map entries => .ok (some ⟨entries⟩)
    | _ => .error .metadataFilterNotMapping

/-- What the comparison with a key hands to the storage engine. Null and truth values are part of
the statement and are not handed over. -/
def keyParameters : Value → List Value
  | .null | .bool _ => []
  | key => [key]

mutual

/-- What the comparison with a value hands to the storage engine. -/
def valueParameters : Value → Except Failure (List Value)
  | .map [] => .ok [.text "object"]
  | .map entries => (entryParameters true entries).map (.text "object" :: ·)
  | .list items => listParameters (.list items)
  | .tuple items => listParameters (.tuple items)
  | .null => .ok [.text "null"]
  | .bool b => .ok [.text (if b then "true" else "false")]
  | .int n => .ok [.text "integer", .text "real", .int n]
  | .real x => .ok [.text "integer", .text "real", .real x]
  | value =>
    if value.holdsOversized then .error .oversizedInteger
    else .ok [.text "text", .text value.plainText]
where
  listParameters (value : Value) : Except Failure (List Value) :=
    match Metadata.written value with
    | .ok text => .ok [.text "array", .text (String.ofList text)]
    | .error fault => .error (.unwritableFilter fault)

/-- What the comparison with entries hands to the storage engine. Entries of a mapping inside the
filter are looked for in a mapping inside the document. -/
def entryParameters (inside : Bool) : List (Value × Value) → Except Failure (List Value)
  | [] => .ok []
  | (key, value) :: entries => do
    let ofValue ← valueParameters value
    let others ← entryParameters inside entries
    let ofDocument : List Value := if inside then [.text "object", .text "\x7b\x7d"] else []
    return ofDocument ++ keyParameters key ++ ofValue ++ others

end

def parameters (part : MetadataPart) : Except Failure (List Value) :=
  entryParameters false part.entries

def findsKey (key : Value) : Metadata.EntryKey → Bool
  | .none => match key with
    | .null => true
    | _ => false
  | .name text => match key with
    | .text s => Text.symbols s.toList = text
    | _ => false
  | .place index => match key.numeric? with
    | some number => number.equals (.whole index)
    | none => false

mutual

def agrees : Value → Metadata.Node → Bool
  | .map entries, .map named => contained entries (.map named)
  | .list items, .list nodes => sameText (.list items) (.list nodes)
  | .tuple items, .list nodes => sameText (.tuple items) (.list nodes)
  | .null, .null => true
  | .bool b, .bool c => b == c
  | .int n, .number numeral => (Value.Numeric.whole n).equals (Metadata.storedNumber numeral)
  | .real x, .number numeral => (Value.Numeric.real x).equals (Metadata.storedNumber numeral)
  | value, .text spelling =>
    isTextual value && Text.symbols value.plainText.toList = Metadata.textOfSpelling spelling
  | _, _ => false
where
  sameText (value : Value) (node : Metadata.Node) : Bool :=
    match Metadata.written value with
    | .ok text => node.compact = Text.symbols text
    | .error _ => false
  isTextual : Value → Bool
    | .text _ | .bytes _ _ | .set _ | .foreign => true
    | _ => false

/-- Each entry of the filter is among the entries of a part of a document. -/
def contained : List (Value × Value) → Metadata.Node → Bool
  | [], _ => true
  | (key, value) :: entries, node =>
    node.entries.any (fun entry => findsKey key entry.1 && agrees value entry.2) &&
      contained entries node

end

def selects (part : MetadataPart) (document : Metadata.Node) : Bool :=
  contained part.entries document

end MetadataPart

end DeviceRegistry.Filter
