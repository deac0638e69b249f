import DeviceRegistry.Entity.Fault
import DeviceRegistry.Metadata.Reading
import DeviceRegistry.Metadata.Writing
import DeviceRegistry.Violation

/-! Why an operation of the registry fails. Each failure names its cause, and what is said of it is
derived from the cause in one place. -/
namespace DeviceRegistry

inductive EntityKind where
  | thing
  | channel
deriving DecidableEq

def EntityKind.name : EntityKind → String
  | .thing => "thing"
  | .channel => "channel"

inductive Absentee where
  | entity (kind : EntityKind)
  | connection
  | endpoint
deriving DecidableEq

inductive Failure where
  /-- An identifier that is not valid was given to an entity. -/
  | invalidIdentifier (kind : EntityKind) (id : String)
  /-- Metadata cannot be written as text. -/
  | unwritableMetadata (fault : Metadata.WriteFault)
  /-- A filter that compares numbers was given something else. -/
  | notNumeric (key : String) (raw : Value)
  /-- A filter that compares times was given something else. -/
  | notInstant (key : String) (raw : Value)
  /-- There is no comparison of the name. -/
  | unknownComparator (name : Value)
  /-- Storage refused a text. -/
  | rejected (detail : String)
  /-- An identifier or a key is taken. -/
  | conflict (kind : EntityKind)
  /-- Nothing of the owner has the identifier. -/
  | absent (what : Absentee)
  /-- The thing is not connected to the channel. -/
  | unauthorized (thing channel : Value)
  /-- Stored metadata is no mapping. -/
  | unreadableMetadata (fault : Metadata.ReadFault)
  /-- Fields do not describe an entity. -/
  | invalidFields (faults : List FieldFault)
  /-- The storage engine reported an error that has no other meaning here. -/
  | engine (error : EngineError)
  /-- The bytes of stored metadata are no text. -/
  | undecodableMetadata
  /-- A name filter is no text. -/
  | nameFilterNotText
  /-- A metadata filter is no mapping. -/
  | metadataFilterNotMapping
  /-- A list in a metadata filter cannot be written as metadata text. -/
  | unwritableFilter (fault : Metadata.WriteFault)
  /-- An entry of a message query was asked of something that has no entries. -/
  | queryWithoutEntries
  /-- The choice of comparison was asked of something that offers none. -/
  | queryWithoutChoices
  /-- The name of a comparison is of a kind that cannot be looked up. -/
  | comparatorNotComparable
  /-- A number or a time is beyond what can be stored or computed with. -/
  | outOfRange
  /-- An integer has too many digits to be shown in a message. -/
  | oversizedInteger

namespace Failure

def message? : Failure → Option String
  | .invalidIdentifier kind id =>
      some (kind.name ++ " id " ++ (Value.text id).display ++ " is not a UUID")
  | .unwritableMetadata fault => some fault.message
  | .notNumeric key raw => some (key ++ " must be numeric, got " ++ raw.display)
  | .notInstant key raw => some (key ++ " is neither epoch seconds nor ISO-8601: " ++ raw.display)
  | .unknownComparator name => some ("unknown comparator " ++ name.display)
  | .rejected detail => some detail
  | .conflict .thing => some "thing id or key already exists"
  | .conflict .channel => some "channel id already exists"
  | .absent (.entity kind) => some (kind.name ++ " not found")
  | .absent .connection => some "connection not found"
  | .absent .endpoint => some "channel or thing not found"
  | .unauthorized thing channel =>
    some ("thing " ++ thing.plainText ++ " is not connected to channel " ++ channel.plainText)
  | .unreadableMetadata fault => some fault.message
  | .invalidFields faults => some ("; ".intercalate (faults.map FieldFault.message))
  | .engine error => some error.message
  | _ => none

/-- A failure that shows a value, unless the value cannot be shown. -/
def showing (value : Value) (failure : Failure) : Failure :=
  if value.holdsOversized then .oversizedInteger else failure

end Failure

namespace Checked

/-- What was read, or the failure that reports the faults. -/
def orFail {α : Type} : Checked α → Except Failure α
  | .valid content => .ok content
  | .faulty faults => .error (.invalidFields faults)

end Checked

end DeviceRegistry
