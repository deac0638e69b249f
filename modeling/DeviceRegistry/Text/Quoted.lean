import DeviceRegistry.Text.Printable

/-! Texts and bytes in quotes, as messages show them. The quote is a single one unless the text
holds single quotes and no double ones. Backslashes and the quote itself are escaped, and so is
everything that cannot be shown. -/
namespace DeviceRegistry.Text

/-- The digits of a number in base sixteen, padded with zeros to a width. -/
def hexDigits (width n : Nat) : List Char :=
  let digits := Nat.toDigits 16 n
  List.replicate (width - digits.length) '0' ++ digits

def singleQuote : Char := '\x27'

def doubleQuote : Char := '\x22'

def quoteFor (text : List Char) : Char :=
  if text.contains singleQuote && !text.contains doubleQuote then doubleQuote else singleQuote

/-- The letter after the backslash, for characters that have a short escape. -/
def shortEscape? : Char → Option Char
  | '\\' => some '\\'
  | '\n' => some 'n'
  | '\r' => some 'r'
  | '\t' => some 't'
  | _ => none

/-- The number of a character, in the shortest of the three escapes that holds it. -/
def codeEscape (code : Nat) : List Char :=
  if code < 0x100 then '\\' :: 'x' :: hexDigits 2 code
  else if code < 0x10000 then '\\' :: 'u' :: hexDigits 4 code
  else '\\' :: 'U' :: hexDigits 8 code

def quotedChar (quote : Char) (showsItself : Char → Bool) (c : Char) : List Char :=
  if c = quote then ['\\', c]
  else match shortEscape? c with
    | some letter => ['\\', letter]
    | none => if showsItself c then [c] else codeEscape c.toNat

def quoted (text : List Char) : List Char :=
  let quote := quoteFor text
  quote :: (text.flatMap (quotedChar quote isPrintable) ++ [quote])

/-- Bytes in quotes. Only the bytes of printable ASCII characters are shown as characters. -/
def quotedBytes (bytes : List UInt8) : List Char :=
  let text := bytes.map fun byte => Char.ofNat byte.toNat
  let quote := quoteFor text
  'b' :: quote :: (text.flatMap
    (quotedChar quote fun c => decide (0x20 ≤ c.toNat ∧ c.toNat < 0x7F)) ++ [quote])

end DeviceRegistry.Text
