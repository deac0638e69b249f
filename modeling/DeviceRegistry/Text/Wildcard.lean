import DeviceRegistry.Text.Search

/-! Patterns with wildcards. A percent sign stands for any text, an underscore for any one
character, and a slash makes the character after it stand for itself. -/
namespace DeviceRegistry.Text

/-- The character before which a wildcard stands for itself. -/
def escapeChar : Char := '/'

def anyText : Char := '%'

def anyChar : Char := '_'

/-- The text as a pattern that only this text matches. -/
def escaped (text : List Char) : List Char :=
  text.flatMap fun c =>
    if c = escapeChar ∨ c = anyText ∨ c = anyChar then [escapeChar, c] else [c]

def containing (text : List Char) : List Char :=
  anyText :: (escaped text ++ [anyText])

inductive PatternItem where
  | anyText
  | anyChar
  | exactly (c : Char)
deriving DecidableEq

/-- The places of a pattern. A pattern that ends with an escape has no reading. -/
def patternItems? : List Char → Option (List PatternItem)
  | [] => some []
  | c :: rest =>
    if c = escapeChar then
      match rest with
      | [] => none
      | d :: rest => (patternItems? rest).map (.exactly d :: ·)
    else if c = anyText then (patternItems? rest).map (.anyText :: ·)
    else if c = anyChar then (patternItems? rest).map (.anyChar :: ·)
    else (patternItems? rest).map (.exactly c :: ·)

def matchesItems : List PatternItem → List Char → Bool
  | [], text => text.isEmpty
  | .anyText :: items, text => someEnd (matchesItems items) text
  | .anyChar :: _, [] => false
  | .anyChar :: items, _ :: text => matchesItems items text
  | .exactly _ :: _, [] => false
  | .exactly c :: items, d :: text => c == d && matchesItems items text

/-- The text matches the pattern. The characters U+FFFE and U+FFFF are compared as they are, where
SQLite takes both for U+FFFD. -/
def matchesPattern (pattern text : List Char) : Bool :=
  (patternItems? pattern).elim false fun items => matchesItems items text

end DeviceRegistry.Text
