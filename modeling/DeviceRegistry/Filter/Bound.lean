import DeviceRegistry.Calendar.Instant
import DeviceRegistry.Failure
import DeviceRegistry.Text.Utf8

/-! The numbers and the times that messages are compared with. A number may be given as a text, and
a time as a number of seconds or as a text with a date. -/
namespace DeviceRegistry.Filter

inductive RealFault where
  | unreadable
  | outOfRange
deriving DecidableEq

/-- Bytes as characters of their own. Those outside ASCII have no meaning and are replaced. -/
def bytewise (bytes : List UInt8) : List Char :=
  bytes.map fun byte => if byte.toNat < 0x80 then Char.ofNat byte.toNat else '\ufffd'

def realOf (value : Value) : Except RealFault Binary64 :=
  let ofText (text : List Char) : Except RealFault Binary64 :=
    match Number.readLeniently? text with
    | some x => .ok x
    | none => .error .unreadable
  match value with
  | .real x => .ok x
  | .bool b => .ok (Binary64.ofInt b.toInt)
  | .int n =>
    let x := Binary64.ofInt n
    if x.isInfinite then .error .outOfRange else .ok x
  | .text s => ofText s.toList
  | .bytes _ content => ofText (bytewise content)
  | _ => .error .unreadable

/-- The characters of a value that may hold a date. A date is written in ASCII. -/
def dateText? : Value → Option (List Char)
  | .text s => if s.toList.all fun c => c.toNat < 0x80 then some s.toList else none
  | .bytes _ content => some (bytewise content)
  | _ => none

/-- The seconds of a number of microseconds, as the nearest value. -/
def secondsOf (microseconds : Int) : Binary64 :=
  Binary64.ofQuotient (decide (microseconds < 0)) microseconds.natAbs 1000000

/-- The number that messages are compared with under a key. -/
def numberBound (key : String) (raw : Value) : Except Failure Binary64 :=
  match realOf raw with
  | .ok x => .ok x
  | .error .outOfRange => .error .outOfRange
  | .error .unreadable => .error (.showing raw (.notNumeric key raw))

/-- The time that messages are compared with under a key, in seconds from the epoch. -/
def timeBound (key : String) (raw : Value) : Except Failure Binary64 :=
  match realOf raw with
  | .ok x => .ok x
  | .error .outOfRange => .error .outOfRange
  | .error .unreadable =>
    match (dateText? raw).map Calendar.readInstant with
    | some (.ok microseconds) => .ok (secondsOf microseconds)
    | some (.error .outOfRange) => .error .outOfRange
    | _ => .error (.showing raw (.notInstant key raw))

end DeviceRegistry.Filter
