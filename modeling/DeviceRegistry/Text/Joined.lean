/-! Texts put one after the other with a separator between them. -/
namespace DeviceRegistry.Text

def joined {α : Type} (separator : List α) : List (List α) → List α
  | [] => []
  | [first] => first
  | first :: others => first ++ separator ++ joined separator others

end DeviceRegistry.Text
