/-! Letters of ASCII without regard to their case. Letters of other scripts keep theirs. -/
namespace DeviceRegistry.Text

/-- The text with the letters A to Z made small. -/
def folded (text : List Char) : List Char := text.map Char.toLower

end DeviceRegistry.Text
