import DeviceRegistry.Failure

/-! What operations report about themselves beside their answers. -/
namespace DeviceRegistry

/-- Something that an operation reports. -/
inductive Event where
  /-- Storage refused a text of an entity. -/
  | textRefused (kind : EntityKind) (violation : Violation)
  /-- A thing has the identifier or the key of another. -/
  | thingConflict
  /-- There was nothing to remove. -/
  | alreadyAbsent (kind : EntityKind) (id owner : Value)
  /-- There was no connection to make. -/
  | alreadyConnected (thing channel : String)
  /-- Messages were stored. -/
  | messagesStored (count : Nat)
  /-- Messages are about to be read. -/
  | messagesSought (channel : Value) (filters : Nat) (offset limit : Option Int)

namespace Event

def source : Event → String
  | .textRefused kind _ | .alreadyAbsent kind _ _ => "devicehub." ++ kind.name ++ "s"
  | .thingConflict => "devicehub.things"
  | .alreadyConnected _ _ => "devicehub.connections"
  | .messagesStored _ => "devicehub.writers"
  | .messagesSought _ _ _ _ => "devicehub.readers"

/-- What is said of an event. A search without an offset or a limit is reported as a form that is
not filled in. -/
def message : Event → String
  | .textRefused kind violation => kind.name ++ " rejected by storage: " ++ violation.name
  | .thingConflict => "thing conflicts with an existing row"
  | .alreadyAbsent kind id owner =>
    "remove: " ++ kind.name ++ " " ++ id.plainText ++ " of " ++ owner.plainText ++ " already absent"
  | .alreadyConnected thing channel =>
      "connect: thing " ++ thing ++ " already on channel " ++ channel
  | .messagesStored count => "stored " ++ toString count ++ " messages"
  | .messagesSought channel filters (some offset) (some limit) =>
    "read_all channel=" ++ channel.plainText ++ " filters=" ++ toString filters ++
      " offset=" ++ toString offset ++ " limit=" ++ toString limit
  | .messagesSought _ _ _ _ => "read_all channel=%s filters=%d offset=%d limit=%d"

end Event

end DeviceRegistry
