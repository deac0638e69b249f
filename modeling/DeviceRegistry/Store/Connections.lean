import DeviceRegistry.Store.Channels
import DeviceRegistry.Store.Things

/-! Connections of things to channels, and the authorization that rests on them. -/
namespace DeviceRegistry

def ConnectionRow.joins (channelId thingId : Value) (row : ConnectionRow) : Bool :=
  channelId.equalsText row.channelId && thingId.equalsText row.thingId

def ConnectionRow.isOf (owner : Value) (row : ConnectionRow) : Bool :=
  owner.equalsText row.channelOwner && owner.equalsText row.thingOwner

namespace Store

/-- What a write of a connection comes to: a new row, or an error of the storage engine. A pair that
is connected is noticed before an end that is missing. -/
def connectionWrite (store : Store) (owner : Cell) (channelId thingId : String) :
    Except EngineError ConnectionRow :=
  match owner with
  | .null => .error (.notNull "connections.channel_owner")
  | .text name =>
    if store.connections.any (ConnectionRow.joins (.text channelId) (.text thingId)) then
      .error (.notUnique "connections.channel_id, connections.thing_id")
    else if channelTable.owns store owner channelId && thingTable.owns store owner thingId then
      .ok ⟨channelId, name, thingId, name⟩
    else .error .noParent
  | _ =>
    if store.connections.any (ConnectionRow.joins (.text channelId) (.text thingId)) then
      .error (.notUnique "connections.channel_id, connections.thing_id")
    else .error .noParent

/-- The outcome of a connection that the storage engine refused. A pair that is connected stays so,
and an end that is missing or malformed was not found. -/
def connectionRefused (store : Store) (channelId thingId : String) (error : EngineError) :
    Outcome Unit :=
  match error.violation? with
  | some .unique => ⟨store, .ok (), [.alreadyConnected thingId channelId]⟩
  | some .foreignKey | some .invalidText => .failed store (.absent .endpoint)
  | _ => .failed store (.engine error)

def connect (store : Store) (owner channelId thingId : Value) (injected : Option EngineError) :
    Outcome Unit :=
  match channelId, thingId with
  | .text channelId, .text thingId =>
    if !(Identifier.isValid channelId && Identifier.isValid thingId) then
      .failed store (.absent .endpoint)
    else
      match injected with
      | some error => store.connectionRefused channelId thingId error
      | none =>
        match Cell.ofValues [.text channelId, owner, .text thingId, owner] with
        | .error (.engine error) => store.connectionRefused channelId thingId error
        | .error failure => .failed store failure
        | .ok _ =>
          match store.connectionWrite owner.toColumnCell channelId thingId with
          | .error error => store.connectionRefused channelId thingId error
          | .ok row => ⟨{ store with connections := store.connections ++ [row] }, .ok (), []⟩
  | _, _ => .failed store (.absent .endpoint)

def disconnect (store : Store) (owner channelId thingId : Value) (injected : Option EngineError) :
    Outcome Unit :=
  match injected with
  | some error => .failed store (.engine error)
  | none =>
    match Cell.ofValues (channelId.comparisonParameters ++ owner.comparisonParameters ++
        thingId.comparisonParameters ++ owner.comparisonParameters) with
    | .error failure => .failed store failure
    | .ok _ =>
      let ends (row : ConnectionRow) : Bool := row.joins channelId thingId && row.isOf owner
      if store.connections.any ends then
        ⟨{ store with connections := store.connections.filter fun row => !ends row }, .ok (), []⟩
      else .failed store (.absent .connection)

/-- A channel and a thing are connected, whoever owns them. -/
def connected (store : Store) (channelId thingId : Value) : Except Failure Bool := do
  let _ ← Cell.ofValues (channelId.comparisonParameters ++ thingId.comparisonParameters)
  return store.connections.any (ConnectionRow.joins channelId thingId)

def authorize (store : Store) (channelId thingId : Value) : Except Failure Unit := do
  if ← store.connected channelId thingId then return ()
  else .error (.unauthorized thingId channelId)

/-- The thing that holds a key, if it may publish on a channel. The key is looked up first. -/
def authorizedByKey (store : Store) (channelId key : Value) : Except Failure String := do
  let thingId ← store.thingByKey key
  store.authorize channelId (.text thingId)
  return thingId

end Store

end DeviceRegistry
