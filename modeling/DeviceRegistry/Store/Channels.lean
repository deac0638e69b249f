import DeviceRegistry.Store.EntityTable

/-! Operations on channels. -/
namespace DeviceRegistry

namespace ChannelRow

def ofChannel (supply : Identifier.Supply) (channel : Channel) :
    (Cell → ChannelRow) × Identifier.Supply :=
  let (id, supply) := supply.orDrawn channel.id
  (fun metadata => ⟨id, channel.owner, channel.name, metadata⟩, supply)

def toChannel (loaded : ChannelRow × Mapping) : Except Failure Channel :=
  let (row, metadata) := loaded
  .ok ⟨row.id, row.owner, row.name, metadata⟩

end ChannelRow

def channelTable : EntityTable ChannelRow Channel where
  kind := .channel
  title := "channels"
  rows := Store.channels
  withRows store channels := { store with channels }
  id := ChannelRow.id
  owner := ChannelRow.owner
  name := ChannelRow.name
  metadata := ChannelRow.metadata
  withContent row name metadata := { row with name, metadata }
  keys := []
  describe channel := ⟨channel.id, channel.owner, channel.name, channel.metadata⟩
  ofEntity := ChannelRow.ofChannel
  toEntity := ChannelRow.toChannel
  endId := ConnectionRow.channelId
  endOwner := ConnectionRow.channelOwner
  otherId := ConnectionRow.thingId
  describe_toEntity := by rintro loaded channel ⟨⟩; rfl

namespace Store

def saveChannel (store : Store) (channel : Channel) (injected : Option EngineError) :
    Outcome String :=
  channelTable.save store channel injected

def updateChannel (store : Store) (channel : Channel) (injected : Option EngineError) :
    Outcome Unit :=
  channelTable.update store channel injected

def channel (store : Store) (owner id : Value) : Except Failure Channel :=
  channelTable.entity store owner id

def listChannels (store : Store) (owner : Value) (window : Window) (name metadata : Value) :
    Except Failure (Page Channel) :=
  channelTable.list store owner window name metadata

/-- A page of the channels of an owner that a thing is connected to. -/
def channelsOfThing (store : Store) (owner thingId : Value) (window : Window) :
    Except Failure (Page Channel) :=
  channelTable.listConnected store owner thingId window

def removeChannel (store : Store) (owner id : Value) (injected : Option EngineError) :
    Outcome Unit :=
  channelTable.remove store owner id injected

end Store

end DeviceRegistry
