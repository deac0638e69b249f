import DeviceRegistry.Store.EntityTable

/-! Operations on things. A thing has a key besides what every entity has, by which it is found
as well. -/
namespace DeviceRegistry

namespace ThingRow

/-- The row of a new thing, given the metadata. An identifier and a key are drawn where none
are given. -/
def ofThing (supply : Identifier.Supply) (thing : Thing) : (Cell → ThingRow) × Identifier.Supply :=
  let (id, supply) := supply.orDrawn thing.id
  let (key, supply) := supply.orDrawn thing.key
  (fun metadata => ⟨id, thing.owner, thing.name, .text key, metadata⟩, supply)

def toThing (loaded : ThingRow × Mapping) : Except Failure Thing := do
  let (row, metadata) := loaded
  let key ← (Field.text ["key"] row.key.toValue).orFail
  return ⟨row.id, row.owner, row.name, key, metadata⟩

/-- What a thing says of itself is what its row holds. -/
theorem describe_toThing {row : ThingRow} {metadata : Mapping} {thing : Thing}
    (hThing : toThing (row, metadata) = .ok thing) :
    (⟨thing.id, thing.owner, thing.name, thing.metadata⟩ : Description) =
      ⟨row.id, row.owner, row.name, metadata⟩ := by
  rw [toThing] at hThing
  cases hKey : (Field.text ["key"] row.key.toValue).orFail with
  | error failure =>
      rw [hKey] at hThing
      cases hThing
  | ok key =>
      rw [hKey] at hThing
      cases hThing
      rfl

end ThingRow

def thingTable : EntityTable ThingRow Thing where
  kind := .thing
  title := "things"
  rows := Store.things
  withRows store things := { store with things }
  id := ThingRow.id
  owner := ThingRow.owner
  name := ThingRow.name
  metadata := ThingRow.metadata
  withContent row name metadata := { row with name, metadata }
  keys := [(⟨"key", ThingRow.key⟩, maxKeyLength)]
  describe thing := ⟨thing.id, thing.owner, thing.name, thing.metadata⟩
  ofEntity := ThingRow.ofThing
  toEntity := ThingRow.toThing
  endId := ConnectionRow.thingId
  endOwner := ConnectionRow.thingOwner
  otherId := ConnectionRow.channelId
  describe_toEntity _ _ hThing := ThingRow.describe_toThing hThing

namespace Store

def saveThing (store : Store) (thing : Thing) (injected : Option EngineError) : Outcome String :=
  thingTable.save store thing injected

def updateThing (store : Store) (thing : Thing) (injected : Option EngineError) : Outcome Unit :=
  thingTable.update store thing injected

/-- Why the tables refuse a new key: no key at all, one that is too long, or one that is taken. -/
def keyRefusal? (store : Store) (owner id : Value) (key : Cell) : Option EngineError :=
  if key = .null then some (.notNull "things.key")
  else if maxKeyLength < key.length then some (.tooLong "things" "key")
  else if store.things.any fun row => !thingTable.isOf owner id row && row.key == key then
    some (.notUnique "things.key")
  else none

def updateKey (store : Store) (owner id key : Value) (injected : Option EngineError) :
    Outcome Unit :=
  match injected with
  | some error => .refused store .thing (.engine error)
  | none =>
    match Cell.ofValues (key :: (owner.comparisonParameters ++ id.comparisonParameters)) with
    | .error failure => .refused store .thing failure
    | .ok _ =>
      if !store.things.any (thingTable.isOf owner id) then
        .failed store (.absent (.entity .thing))
      else
        match store.keyRefusal? owner id key.toColumnCell with
        | some error => .refused store .thing (.engine error)
        | none =>
          ⟨thingTable.change store owner id fun row => { row with key := key.toColumnCell }, .ok (),
            []⟩

def thing (store : Store) (owner id : Value) : Except Failure Thing :=
  thingTable.entity store owner id

def thingByKey (store : Store) (key : Value) : Except Failure String := do
  let _ ← Cell.ofValues key.comparisonParameters
  match store.things.find? fun row => key.equalsCell row.key with
  | some row => return row.id
  | none => .error (.absent (.entity .thing))

def listThings (store : Store) (owner : Value) (window : Window) (name metadata : Value) :
    Except Failure (Page Thing) :=
  thingTable.list store owner window name metadata

/-- A page of the things of an owner that are connected to a channel. -/
def thingsOnChannel (store : Store) (owner channelId : Value) (window : Window) :
    Except Failure (Page Thing) :=
  thingTable.listConnected store owner channelId window

def removeThing (store : Store) (owner id : Value) (injected : Option EngineError) : Outcome Unit :=
  thingTable.remove store owner id injected

end Store

end DeviceRegistry
