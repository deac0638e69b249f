import DeviceRegistry.Store.Channels
import DeviceRegistry.Store.Messages
import DeviceRegistry.Store.Things

/-! Access to the tables beside the operations of the registry: metadata that something else wrote,
and all rows of a table as they are held. -/
namespace DeviceRegistry

inductive Table where
  | things
  | channels
  | connections
  | messages
deriving DecidableEq

namespace Store

/-- The metadata of the entity of an identifier is overwritten as it is. -/
def overwriteMetadata (store : Store) (kind : EntityKind) (id raw : Value) : Outcome Nat :=
  match kind with
  | .thing => thingTable.overwriteMetadata store id raw
  | .channel => channelTable.overwriteMetadata store id raw

end Store

def Cell.ofReal (x : Option Binary64) : Cell := x.elim .null .real

def Cell.ofText (s : Option String) : Cell := s.elim .null .text

def Cell.ofBool (b : Option Bool) : Cell := b.elim .null fun b => .integer b.toInt

def ThingRow.cells (row : ThingRow) : List Cell :=
  [.text row.id, .text row.owner, .text row.name, row.key, row.metadata]

def ChannelRow.cells (row : ChannelRow) : List Cell :=
  [.text row.id, .text row.owner, .text row.name, row.metadata]

def ConnectionRow.cells (row : ConnectionRow) : List Cell :=
  [.text row.channelId, .text row.channelOwner, .text row.thingId, .text row.thingOwner]

def ConnectionRow.before (a b : ConnectionRow) : Bool :=
  decide (a.channelId < b.channelId) ||
    (a.channelId == b.channelId && decide (a.thingId ≤ b.thingId))

def MessageRow.cells (row : MessageRow) : List Cell :=
  let message := row.message
  [.integer row.number, .text message.channel, .text message.subtopic, .text message.publisher,
   .text message.protocol, Cell.ofReal message.value, Cell.ofBool message.boolValue,
   Cell.ofText message.stringValue, Cell.ofText message.dataValue, Cell.ofReal message.valueSum,
   .real message.time]

/-- All rows of a table, in the order of the keys of the table. -/
def Store.dump (store : Store) : Table → List (List Cell)
  | .things => (orderedBy thingTable.before store.things).map ThingRow.cells
  | .channels => (orderedBy channelTable.before store.channels).map ChannelRow.cells
  | .connections => (orderedBy ConnectionRow.before store.connections).map ConnectionRow.cells
  | .messages => store.messages.map MessageRow.cells

end DeviceRegistry
