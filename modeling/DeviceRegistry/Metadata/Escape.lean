import DeviceRegistry.Text.Quoted
import DeviceRegistry.Text.Utf8

/-! Texts inside metadata text. Quotes, backslashes and control characters are escaped, and every
other character stands for itself. -/
namespace DeviceRegistry.Metadata

/-- The letter that stands after a backslash for a character with a short escape. -/
def escapeLetter? (c : Char) : Option Char :=
  if c = '"' then some '"'
  else if c = '\\' then some '\\'
  else if c = '\n' then some 'n'
  else if c = '\r' then some 'r'
  else if c = '\t' then some 't'
  else if c = '\x0c' then some 'f'
  else if c = '\x08' then some 'b'
  else none

/-- The character that a letter after a backslash stands for. A slash may be escaped and is never
written so. -/
def escapedBy? (letter : Char) : Option Char :=
  if letter = '"' then some '"'
  else if letter = '\\' then some '\\'
  else if letter = '/' then some '/'
  else if letter = 'n' then some '\n'
  else if letter = 'r' then some '\r'
  else if letter = 't' then some '\t'
  else if letter = 'f' then some '\x0c'
  else if letter = 'b' then some '\x08'
  else none

/-- A control character may only be written by its number. -/
def isControl (c : Char) : Bool := decide (c.toNat < 0x20)

def escapedChar (c : Char) : List Char :=
  match escapeLetter? c with
  | some letter => ['\\', letter]
  | none => if isControl c then '\\' :: 'u' :: Text.hexDigits 4 c.toNat else [c]

def quoted (text : List Char) : List Char := '"' :: (text.flatMap escapedChar ++ ['"'])

def hexDigit? (c : Char) : Option Nat :=
  if c.isDigit then some (c.toNat - '0'.toNat)
  else if 'a' ≤ c ∧ c ≤ 'f' then some (c.toNat - 'a'.toNat + 10)
  else if 'A' ≤ c ∧ c ≤ 'F' then some (c.toNat - 'A'.toNat + 10)
  else none

def fourHexDigits? (a b c d : Char) : Option Nat := do
  let a ← hexDigit? a
  let b ← hexDigit? b
  let c ← hexDigit? c
  let d ← hexDigit? d
  return ((a * 16 + b) * 16 + c) * 16 + d

/-- A number that starts a pair of numbers for one character. -/
def isHighHalf (n : Nat) : Bool := decide (0xD800 ≤ n ∧ n < 0xDC00)

/-- A number that ends a pair of numbers for one character. -/
def isLowHalf (n : Nat) : Bool := decide (0xDC00 ≤ n ∧ n < 0xE000)

def pairedCode (high low : Nat) : Nat := 0x10000 + (high - 0xD800) * 0x400 + (low - 0xDC00)

/-- The character of a code point. Half of a pair alone is no character, and neither is a number
beyond the code points. -/
def symbolOfCode (n : Nat) : Text.Symbol :=
  if h : n.isValidChar then some (Char.ofNatAux n h) else none

/-- What numbers denote, where two halves that follow each other make one character. -/
def symbolsOfCodes : List Nat → List Text.Symbol
  | [] => []
  | [n] => [symbolOfCode n]
  | n :: m :: rest =>
    if isHighHalf n && isLowHalf m then symbolOfCode (pairedCode n m) :: symbolsOfCodes rest
    else symbolOfCode n :: symbolsOfCodes (m :: rest)

/-- The characters that numbers denote. Half of a pair alone is replaced. -/
def charsOfCodes (codes : List Nat) : List Char :=
  (symbolsOfCodes codes).map fun symbol => symbol.getD '\ufffd'

end DeviceRegistry.Metadata
