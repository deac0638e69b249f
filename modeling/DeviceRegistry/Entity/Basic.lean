import DeviceRegistry.Entity.Field

/-! Things, channels and messages, as callers hand them in and get them back. -/
namespace DeviceRegistry

/-- A device of an owner, with the key by which it proves who it is. -/
structure Thing where
  id : String
  owner : String
  name : String
  key : String
  metadata : Mapping

/-- A channel of an owner, on which things publish. -/
structure Channel where
  id : String
  owner : String
  name : String
  metadata : Mapping

/-- What a thing published on a channel. At most one of the four values is there. -/
structure Message where
  channel : String
  publisher : String
  protocol : String
  subtopic : String
  time : Binary64
  value : Option Binary64
  boolValue : Option Bool
  stringValue : Option String
  dataValue : Option String
  valueSum : Option Binary64
deriving DecidableEq

def Thing.ofFields (fields : Mapping) : Checked Thing :=
  (Checked.valid Thing.mk)
    |>.both (Field.withDefault fields "id" "" Field.text)
    |>.both (Field.withDefault fields "owner" "" Field.text)
    |>.both (Field.withDefault fields "name" "" Field.text)
    |>.both (Field.withDefault fields "key" "" Field.text)
    |>.both (Field.withDefault fields "metadata" [] Field.mapping)

def Channel.ofFields (fields : Mapping) : Checked Channel :=
  (Checked.valid Channel.mk)
    |>.both (Field.withDefault fields "id" "" Field.text)
    |>.both (Field.withDefault fields "owner" "" Field.text)
    |>.both (Field.withDefault fields "name" "" Field.text)
    |>.both (Field.withDefault fields "metadata" [] Field.mapping)

namespace Message

def valueCount (message : Message) : Nat :=
  message.value.isSome.toNat + message.boolValue.isSome.toNat +
    message.stringValue.isSome.toNat + message.dataValue.isSome.toNat

/-- The message that fields describe. It is refused as a whole if it carries several values. -/
def ofFields (fields : Mapping) : Checked Message :=
  let message :=
    (Checked.valid Message.mk)
      |>.both (Field.required fields "channel" Field.text)
      |>.both (Field.required fields "publisher" Field.text)
      |>.both (Field.required fields "protocol" Field.text)
      |>.both (Field.withDefault fields "subtopic" "" Field.text)
      |>.both (Field.required fields "time" Field.real)
      |>.both (Field.withDefault fields "value" none (Field.optional Field.real))
      |>.both (Field.withDefault fields "bool_value" none (Field.optional Field.bool))
      |>.both (Field.withDefault fields "string_value" none (Field.optional Field.text))
      |>.both (Field.withDefault fields "data_value" none (Field.optional Field.text))
      |>.both (Field.withDefault fields "value_sum" none (Field.optional Field.real))
  message.andThen fun message =>
    if message.valueCount ≤ 1 then .valid message else Checked.fault [""] .severalValues

end Message

end DeviceRegistry
