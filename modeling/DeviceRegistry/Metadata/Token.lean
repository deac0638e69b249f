import DeviceRegistry.Metadata.Escape
import DeviceRegistry.Number.Reading

/-! The numbers of metadata text and the white space between its parts. -/
namespace DeviceRegistry.Metadata

def isSpace (c : Char) : Bool := c == ' ' || c == '\t' || c == '\n' || c == '\r'

def afterSpace (text : List Char) : List Char := text.dropWhile isSpace

structure Numeral where
  negative : Bool
  whole : List Char
  fraction : List Char
  exponent : List Char
deriving DecidableEq

namespace Numeral

/-- The numeral has neither a fraction nor an exponent. -/
def isInteger (numeral : Numeral) : Bool := numeral.fraction.isEmpty && numeral.exponent.isEmpty

def integer (numeral : Numeral) : Int :=
  let magnitude := Number.digitsValue numeral.whole
  if numeral.negative then - (magnitude : Int) else magnitude

def real (numeral : Numeral) : Binary64 :=
  Binary64.ofDecimal numeral.negative (Number.digitsValue (numeral.whole ++ numeral.fraction))
    ((Number.exponent? numeral.exponent).getD 0 - numeral.fraction.length)

def text (numeral : Numeral) : List Char :=
  (if numeral.negative then ['-'] else []) ++ numeral.whole ++
    (if numeral.fraction.isEmpty then [] else '.' :: numeral.fraction) ++ numeral.exponent

end Numeral

/-- The digits before the point: a zero alone, or digits that do not start with zero. -/
def wholeDigits? : List Char → Option (List Char × List Char)
  | [] => none
  | c :: rest =>
    if c = '0' then some ([c], rest)
    else if c.isDigit then some ((c :: rest).span Char.isDigit)
    else none

/-- The digits after a point, if there is a point with digits after it. -/
def fractionDigits (text : List Char) : List Char × List Char :=
  match text with
  | '.' :: rest =>
    let (digits, after) := rest.span Char.isDigit
    if digits.isEmpty then ([], text) else (digits, after)
  | _ => ([], text)

/-- The mark, the sign and the digits of an exponent, if digits are there. -/
def exponentText (text : List Char) : List Char × List Char :=
  match text with
  | mark :: rest =>
    if mark = 'e' ∨ mark = 'E' then
      let (sign, rest) :=
        match rest with
        | '+' :: rest => (['+'], rest)
        | '-' :: rest => (['-'], rest)
        | _ => ([], rest)
      let (digits, after) := rest.span Char.isDigit
      if digits.isEmpty then ([], text) else (mark :: (sign ++ digits), after)
    else ([], text)
  | [] => ([], text)

/-- The longest number at the start of the text, and the rest. -/
def numeral? (text : List Char) : Option (Numeral × List Char) :=
  let (negative, unsigned) :=
    match text with
    | '-' :: rest => (true, rest)
    | _ => (false, text)
  (wholeDigits? unsigned).map fun (whole, rest) =>
    let (fraction, rest) := fractionDigits rest
    let (exponent, rest) := exponentText rest
    (⟨negative, whole, fraction, exponent⟩, rest)

end DeviceRegistry.Metadata
