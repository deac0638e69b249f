/-! Conditions that all have to hold. An absent condition is passed over when it is added. -/
namespace DeviceRegistry.Filter

abbrev Conditions (α : Type) := List α

namespace Conditions

variable {α : Type}

def add (conditions : Conditions α) : Option α → Conditions α
  | some condition => conditions ++ [condition]
  | none => conditions

def ofOptions (options : List (Option α)) : Conditions α := options.foldl add []

end Conditions

end DeviceRegistry.Filter
