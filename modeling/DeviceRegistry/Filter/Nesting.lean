import DeviceRegistry.Filter.Containment

/-! How large a search for a part of metadata is. Every entry of the part is a condition of its own,
and the entries of a mapping inside the part are conditions within the condition on the mapping. The
storage engine reads conditions that lie inside each other only to a certain depth, and joins
conditions only to a certain height. -/
namespace DeviceRegistry.Filter.MetadataPart

mutual

/-- How many conditions lie inside each other in the condition on a value, the value's own apart. -/
def valueNesting : Value → Nat
  | .map entries => entryNesting entries
  | _ => 0

/-- How many conditions lie inside each other in those on entries. -/
def entryNesting : List (Value × Value) → Nat
  | [] => 0
  | (_, value) :: entries => max (valueNesting value + 1) (entryNesting entries)

end

mutual

/-- The height of the condition on an entry with the value: the conditions on its key, on its kind
and, where the kind does not settle it, on its content are joined one after the other. -/
def valueHeight : Value → Nat
  | .map entries => joinedHeight 4 entries
  | .null | .bool _ => 4
  | _ => 5

/-- The height of conditions to which those on entries are joined one after the other. -/
def joinedHeight (height : Nat) : List (Value × Value) → Nat
  | [] => height
  | (_, value) :: entries => joinedHeight (max height (valueHeight value + 1) + 1) entries

end

mutual

/-- The heights of the condition on an entry with the value and of those inside it, along the path
on which they are greatest. -/
def valuePathHeight : Value → Nat
  | .map entries => valueHeight (.map entries) + entryPathHeight entries
  | value => valueHeight value

/-- The heights of the conditions on entries that lie inside each other, along the path on which
they are greatest. -/
def entryPathHeight : List (Value × Value) → Nat
  | [] => 0
  | (_, value) :: entries => max (valuePathHeight value) (entryPathHeight entries)

end

end DeviceRegistry.Filter.MetadataPart
