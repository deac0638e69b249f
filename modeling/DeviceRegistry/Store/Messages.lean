import DeviceRegistry.Filter.Query
import DeviceRegistry.Store.Basic
import DeviceRegistry.Store.Page
import DeviceRegistry.Store.Search

/-! The log of messages. Messages are stored in batches, all or none, and are never changed
or removed. -/
namespace DeviceRegistry

/-- A number as a column of numbers holds it: what is not a number is nothing, and zero has
no sign. -/
def Binary64.stored? (x : Binary64) : Option Binary64 :=
  if x.isNaN then none else some x.withoutSignOfZero

/-- A message as its row holds it. A time that is not a number has no place there. -/
def Message.stored? (message : Message) : Option Message :=
  message.time.stored?.map fun time =>
    { message with
      time := time
      value := message.value.bind Binary64.stored?
      valueSum := message.valueSum.bind Binary64.stored? }

namespace MessageRow

def before (a b : MessageRow) : Bool :=
  b.message.time.less a.message.time ||
    (b.message.time.equals a.message.time && a.number ≤ b.number)

def toMessage (row : MessageRow) : Except Failure Message := .ok row.message

end MessageRow

namespace Store

def messageRows (store : Store) (messages : List Message) : List MessageRow :=
  (messages.zipIdx (store.messages.length + 1)).map fun (message, number) => ⟨number, message⟩

/-- A batch of messages is stored. One message that cannot be stored keeps out the whole batch. -/
def saveMessages (store : Store) (messages : List Message) (injected : Option EngineError) :
    Outcome Unit :=
  match injected with
  | some error => .failed store (.engine error)
  | none =>
    match messages.mapM Message.stored? with
    | none => .failed store (.engine (.notNull "messages.time"))
    | some stored =>
      ⟨{ store with messages := store.messages ++ store.messageRows stored }, .ok (),
        [.messagesStored messages.length]⟩

def messagesSelected (store : Store) (channelId : Value)
    (conditions : Filter.Conditions Filter.MessageCondition) : List MessageRow :=
  orderedBy MessageRow.before (store.messages.filter fun row =>
    channelId.equalsText row.message.channel && conditions.all fun condition =>
      condition.holds row.message)

/-- A page of the messages on a channel that meet a query. The search is reported once the query has
been understood. -/
def readMessages (store : Store) (channelId : Value) (window : Window) (query : Value) :
    Outcome (Page Message) :=
  match Filter.Query.conditions query with
  | .error failure => .failed store failure
  | .ok conditions =>
    let answer : Except Failure (Page Message) := do
      let _ ← Cell.ofValues (channelId.comparisonParameters ++
        conditions.flatMap Filter.MessageCondition.parameters ++ window.parameters)
      pageOf (.ok (store.messagesSelected channelId conditions))
        (.ok ()) window .ok MessageRow.toMessage
    ⟨store, answer, [.messagesSought channelId (conditions.length + 1) window.offset window.limit]⟩

end Store

end DeviceRegistry
