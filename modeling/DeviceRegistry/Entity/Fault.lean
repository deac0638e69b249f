import DeviceRegistry.Value.Equality
import DeviceRegistry.Value.Display

/-! Faults of fields, and readings of several fields that report the faults of all of them. -/
namespace DeviceRegistry

inductive FaultKind where
  | missing
  | notText
  | undecodableText
  | notReal
  | unreadableReal
  | notBool
  | unreadableBool
  | notInteger
  | notMapping
  | severalValues
deriving DecidableEq

def FaultKind.name : FaultKind → String
  | .missing => "missing"
  | .notText => "string_type"
  | .undecodableText => "string_unicode"
  | .notReal => "float_type"
  | .unreadableReal => "float_parsing"
  | .notBool => "bool_type"
  | .unreadableBool => "bool_parsing"
  | .notInteger => "int_type"
  | .notMapping => "dict_type"
  | .severalValues => "value_error"

/-- A fault and the path of names to the place where it is. -/
structure FieldFault where
  path : List String
  kind : FaultKind
deriving DecidableEq

def FieldFault.message (fault : FieldFault) : String :=
  ".".intercalate fault.path ++ ": " ++ fault.kind.name

/-- A reading of fields: what was read, or the faults in the order of the fields. -/
inductive Checked (α : Type) where
  | valid (content : α)
  | faulty (faults : List FieldFault)

namespace Checked

variable {α β : Type}

def fault (path : List String) (kind : FaultKind) : Checked α := .faulty [⟨path, kind⟩]

def map (f : α → β) : Checked α → Checked β
  | .valid content => .valid (f content)
  | .faulty faults => .faulty faults

/-- Two readings one after the other. The second is made whatever the first one gave. -/
def both (f : Checked (α → β)) (x : Checked α) : Checked β :=
  match f, x with
  | .valid f, .valid content => .valid (f content)
  | .valid _, .faulty faults => .faulty faults
  | .faulty faults, .valid _ => .faulty faults
  | .faulty first, .faulty second => .faulty (first ++ second)

def andThen (x : Checked α) (f : α → Checked β) : Checked β :=
  match x with
  | .valid content => f content
  | .faulty faults => .faulty faults

end Checked

end DeviceRegistry
