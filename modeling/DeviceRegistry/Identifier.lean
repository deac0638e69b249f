import DeviceRegistry.Number.Reading
import DeviceRegistry.Text.Quoted

/-! Identifiers of things and channels. A valid identifier has thirty-six characters of
which, after the marks of an identifier are taken away, thirty-two remain that denote a
number in base sixteen. -/
namespace DeviceRegistry.Identifier

/-- The text without the places where the pattern stands, found from the left. The number counts the
characters of a place that are still to be passed over. -/
def removingFrom (pattern : List Char) : Nat → List Char → List Char
  | _, [] => []
  | skip + 1, _ :: rest => removingFrom pattern skip rest
  | 0, c :: rest =>
    if pattern.isPrefixOf (c :: rest) then removingFrom pattern (pattern.length - 1) rest
    else c :: removingFrom pattern 0 rest

def removing (pattern text : List Char) : List Char := removingFrom pattern 0 text

def isBrace (c : Char) : Bool := c == '\x7b' || c == '\x7d'

def withoutBraces (text : List Char) : List Char :=
  ((text.dropWhile isBrace).reverse.dropWhile isBrace).reverse

/-- The characters that carry the number of an identifier: marks in front, braces around it and
hyphens anywhere are taken away. -/
def core (text : List Char) : List Char :=
  (withoutBraces (removing "uuid:".toList (removing "urn:".toList text))).filter (· != '-')

def isValid (text : String) : Bool :=
  text.length = 36 && (core text.toList).length = 32 && Number.isHexInteger (core text.toList)

end DeviceRegistry.Identifier
