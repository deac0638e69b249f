import DeviceRegistry.Store.Channels
import DeviceRegistry.Store.Connections
import DeviceRegistry.Store.Messages

/-! The operations that the registry offers, and runs of them. Arguments are taken as callers give
them, and entities are described by their fields. -/
namespace DeviceRegistry

inductive Operation where
  | saveThing (fields : Mapping)
  | updateThing (fields : Mapping)
  | updateKey (owner id key : Value)
  | getThing (owner id : Value)
  | getThingByKey (key : Value)
  | listThings (owner : Value) (window : Window) (name metadata : Value)
  | listThingsOnChannel (owner channelId : Value) (window : Window)
  | removeThing (owner id : Value)
  | saveChannel (fields : Mapping)
  | updateChannel (fields : Mapping)
  | getChannel (owner id : Value)
  | listChannels (owner : Value) (window : Window) (name metadata : Value)
  | listChannelsOfThing (owner thingId : Value) (window : Window)
  | removeChannel (owner id : Value)
  | hasThing (channelId key : Value)
  | hasThingById (channelId thingId : Value)
  | connect (owner channelId thingId : Value)
  | disconnect (owner channelId thingId : Value)
  | isConnected (channelId thingId : Value)
  | saveMessages (batch : List Mapping)
  | readMessages (channelId : Value) (window : Window) (query : Value)

inductive Answer where
  | done
  | identifier (id : String)
  | truth (b : Bool)
  | thing (thing : Thing)
  | channel (channel : Channel)
  | things (page : Page Thing)
  | channels (page : Page Channel)
  | messages (page : Page Message)

/-- An operation and the error, if any, that the storage engine reports in place of its write. -/
structure Step where
  operation : Operation
  injected : Option EngineError := none

namespace Outcome

variable {α : Type}

def answering (outcome : Outcome α) (answer : α → Answer) : Outcome Answer :=
  ⟨outcome.store, outcome.answer.map answer, outcome.log⟩

end Outcome

namespace Store

/-- An operation on what fields describe, which is not begun if they describe nothing. -/
def withChecked {α β : Type} (store : Store) (checked : Checked α) (operate : α → Outcome β) :
    Outcome β :=
  match checked.orFail with
  | .ok content => operate content
  | .error failure => .failed store failure

/-- The messages of a batch. The first that is faulty is reported. -/
def checkedBatch : List Mapping → Checked (List Message)
  | [] => .valid []
  | fields :: batch =>
    (Message.ofFields fields).andThen fun message => (checkedBatch batch).map (message :: ·)

def perform (store : Store) (step : Step) : Outcome Answer :=
  match step.operation with
  | .saveThing fields =>
    store.withChecked (Thing.ofFields fields) fun thing =>
      (store.saveThing thing step.injected).answering .identifier
  | .updateThing fields =>
    store.withChecked (Thing.ofFields fields) fun thing =>
      (store.updateThing thing step.injected).answering fun _ => .done
  | .updateKey owner id key =>
    (store.updateKey owner id key step.injected).answering fun _ => .done
  | .getThing owner id => .reading store ((store.thing owner id).map .thing)
  | .getThingByKey key => .reading store ((store.thingByKey key).map .identifier)
  | .listThings owner window name metadata =>
    .reading store ((store.listThings owner window name metadata).map .things)
  | .listThingsOnChannel owner channelId window =>
    .reading store ((store.thingsOnChannel owner channelId window).map .things)
  | .removeThing owner id =>
    (store.removeThing owner id step.injected).answering fun _ => .done
  | .saveChannel fields =>
    store.withChecked (Channel.ofFields fields) fun channel =>
      (store.saveChannel channel step.injected).answering .identifier
  | .updateChannel fields =>
    store.withChecked (Channel.ofFields fields) fun channel =>
      (store.updateChannel channel step.injected).answering fun _ => .done
  | .getChannel owner id => .reading store ((store.channel owner id).map .channel)
  | .listChannels owner window name metadata =>
    .reading store ((store.listChannels owner window name metadata).map .channels)
  | .listChannelsOfThing owner thingId window =>
    .reading store ((store.channelsOfThing owner thingId window).map .channels)
  | .removeChannel owner id =>
    (store.removeChannel owner id step.injected).answering fun _ => .done
  | .hasThing channelId key =>
      .reading store ((store.authorizedByKey channelId key).map .identifier)
  | .hasThingById channelId thingId =>
    .reading store ((store.authorize channelId thingId).map fun _ => .done)
  | .connect owner channelId thingId =>
    (store.connect owner channelId thingId step.injected).answering fun _ => .done
  | .disconnect owner channelId thingId =>
    (store.disconnect owner channelId thingId step.injected).answering fun _ => .done
  | .isConnected channelId thingId =>
    .reading store ((store.connected channelId thingId).map .truth)
  | .saveMessages batch =>
    store.withChecked (checkedBatch batch) fun messages =>
      (store.saveMessages messages step.injected).answering fun _ => .done
  | .readMessages channelId window query =>
    (store.readMessages channelId window query).answering .messages

def run (store : Store) (steps : List Step) : Store :=
  steps.foldl (fun store step => (store.perform step).store) store

def empty (supply : Identifier.Supply := .counting) : Store := { supply }

end Store

end DeviceRegistry
