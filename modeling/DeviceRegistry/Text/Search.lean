/-! Texts inside texts. -/
namespace DeviceRegistry.Text

/-- Some end of the text, the text itself included, has the property. -/
def someEnd (p : List Char → Bool) : List Char → Bool
  | [] => p []
  | c :: rest => p (c :: rest) || someEnd p rest

def occursIn (sought text : List Char) : Bool := someEnd sought.isPrefixOf text

end DeviceRegistry.Text
