import DeviceRegistry.Filter.Name
import DeviceRegistry.Filter.Nesting
import DeviceRegistry.Store.Basic
import DeviceRegistry.Store.Page

/-! Search among the entities of an owner, by a part of the name and a part of the metadata. -/
namespace DeviceRegistry

structure EntityFilter where
  name : Option Filter.NamePart
  metadata : Option Filter.MetadataPart

namespace EntityFilter

def ofValues (name metadata : Value) : Except Failure (EntityFilter × List Value) := do
  let metadata ← Filter.MetadataPart.ofValue metadata
  let metadataParameters ←
    match metadata with
    | some part => part.parameters
    | none => .ok []
  let name ← Filter.NamePart.ofValue name
  let nameParameters := name.toList.map fun part => Value.text (String.ofList part.escaped)
  return (⟨name, metadata⟩, metadataParameters ++ nameParameters)

/-- How many conditions of the search lie inside each other. -/
def nesting (filter : EntityFilter) : Nat :=
  filter.metadata.elim 0 fun part => Filter.MetadataPart.entryNesting part.entries

/-- The heights of the conditions of the search that lie inside each other. The condition on the
owner comes first, then those on entries of metadata, then the one on the name. -/
def height (filter : EntityFilter) : Nat :=
  let entries := filter.metadata.elim [] Filter.MetadataPart.entries
  let joined := Filter.MetadataPart.joinedHeight 3 entries
  let joined := if filter.name.isSome then max joined 5 + 1 else joined
  joined + Filter.MetadataPart.entryPathHeight entries

/-- The deepest nesting that is searched. This limit and the next are those of SQLite before 3.46,
whose parser has a stack of fixed size; from then on the stack grows. -/
def maxNesting : Nat := 8

/-- The deepest nesting whose results are counted. Counting puts the search inside another one. -/
def maxCountedNesting : Nat := 7

def maxHeight : Nat := 1000

/-- The storage engine takes the search. Its limit on the number of values handed over is
left out. -/
def expectSearchable (filter : EntityFilter) : Except Failure Unit :=
  if maxNesting < filter.nesting then .error (.engine EngineError.nestedTooDeep)
  else if maxHeight < filter.height then .error (.engine EngineError.joinedTooHigh)
  else .ok ()

/-- The storage engine counts the results of the search. This fails before SQLite 3.46 only. -/
def expectCountable (filter : EntityFilter) : Except Failure Unit :=
  if maxCountedNesting < filter.nesting then .error (.engine EngineError.nestedTooDeep) else .ok ()

/-- A name is selected. A pattern that is too long is noticed when it is first used. -/
def selectsName (filter : EntityFilter) (name : String) : Except Failure Bool :=
  match filter.name with
  | none => .ok true
  | some part =>
    if part.isTooLong then .error (.engine EngineError.patternTooComplex)
    else .ok (part.selects name)

/-- The document that a cell holds. Null holds none. -/
def documentOf (cell : Cell) : Except Failure (Option Metadata.Node) :=
  let ofText (text : List Text.Symbol) : Except Failure (Option Metadata.Node) :=
    match Metadata.document? text with
    | some document => .ok (some document)
    | none => .error (.engine EngineError.malformedDocument)
  match cell with
  | .text s => ofText (Text.symbols s.toList)
  | .blob content => ofText (Text.symbolsOfBytes content)
  | _ => .ok none

/-- Stored metadata is selected. It is read only if a filter asks for it. -/
def selectsMetadata (filter : EntityFilter) (cell : Cell) : Except Failure Bool :=
  match filter.metadata with
  | none => .ok true
  | some part => (documentOf cell).map fun document => document.any part.selects

/-- A row is selected. Metadata is read only in rows that are selected by their owner and name. -/
def selects (filter : EntityFilter) (owner : Value) (rowOwner rowName : String)
    (rowMetadata : Cell) : Except Failure Bool := do
  if owner.equalsText rowOwner then
    if ← filter.selectsName rowName then filter.selectsMetadata rowMetadata else return false
  else return false

end EntityFilter

/-- The rows that a test selects, unless the test fails for one of them. -/
def selectedRows {α : Type} (test : α → Except Failure Bool) : List α → Except Failure (List α)
  | [] => .ok []
  | row :: rows => do
    let selected ← test row
    let others ← selectedRows test rows
    return if selected then row :: others else others

/-- The page of rows that are selected and in order. The rows in the window are loaded first, then
all rows are counted, and then the loaded rows are turned into entities, so that of several failures
the first in this order is found. A window without room is empty before any row is tested. -/
def pageOf {Row Loaded α : Type} (rows : Except Failure (List Row))
    (countable : Except Failure Unit) (window : Window) (load : Row → Except Failure Loaded)
    (convert : Loaded → Except Failure α) : Except Failure (Page α) := do
  let shown ← if window.limit = some 0 then .ok [] else rows.map window.slice
  let loaded ← shown.mapM load
  countable
  let total := (← rows).length
  let items ← loaded.mapM convert
  Page.ofWindow total window items

end DeviceRegistry
