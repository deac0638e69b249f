/-! Sets of characters, given as closed ranges of code points. -/
namespace DeviceRegistry.Text

/-- Closed ranges of code points, ascending and apart. -/
abbrev Ranges := List (Nat × Nat)

def Ranges.covers (ranges : Ranges) (code : Nat) : Bool :=
  ranges.any fun range => range.1 ≤ code && code ≤ range.2

end DeviceRegistry.Text
