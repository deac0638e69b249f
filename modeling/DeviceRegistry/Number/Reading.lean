import DeviceRegistry.Number.Rounding
import DeviceRegistry.Text.Blank
import DeviceRegistry.Text.DecimalDigit
import DeviceRegistry.Text.Folding

/-! Numbers read from text. The strict form is a sign, then digits with a point and an exponent, or
the name of a value without digits. The lenient form, which callers may use, also allows white space
at the ends, digits of any script, and single underscores between digits. -/
namespace DeviceRegistry.Number

def digitsValue (digits : List Char) : Nat := Nat.ofDigitChars 10 digits 0

/-- Whether a minus sign stands in front, and the text after the sign if there is one. -/
def signAndRest : List Char → Bool × List Char
  | '-' :: rest => (true, rest)
  | '+' :: rest => (false, rest)
  | text => (false, text)

/-- The power of ten that a text after the digits denotes. No text denotes the power zero. -/
def exponent? : List Char → Option Int
  | [] => some 0
  | mark :: rest =>
    let (negative, digits) := signAndRest rest
    if (mark = 'e' ∨ mark = 'E') ∧ digits ≠ [] ∧ digits.all Char.isDigit then
      some (if negative then - (digitsValue digits : Int) else digitsValue digits)
    else none

/-- The value of digits with at most one point and at most one exponent. -/
def unsigned? (negative : Bool) (text : List Char) : Option Binary64 :=
  let (whole, rest) := text.span Char.isDigit
  let (fraction, rest) :=
    match rest with
    | '.' :: rest => rest.span Char.isDigit
    | _ => ([], rest)
  if whole = [] ∧ fraction = [] then none
  else (exponent? rest).map fun exponent =>
    Binary64.ofDecimal negative (digitsValue (whole ++ fraction)) (exponent - fraction.length)

/-- The value that a text denotes in the strict form. -/
def read? (text : List Char) : Option Binary64 :=
  let (negative, rest) := signAndRest text
  let name := Text.folded rest
  if name = "inf".toList ∨ name = "infinity".toList then some (Binary64.infinity negative)
  else if name = "nan".toList then some Binary64.nan
  else unsigned? negative rest

/-- The text without the underscores between digits. An underscore that stands elsewhere makes it no
number. The character is the one before the text. -/
def withoutSeparators? (isDigit : Char → Bool) (before : Char) : List Char → Option (List Char)
  | [] => if before = '_' then none else some []
  | c :: rest =>
    if c = '_' then
      if isDigit before then withoutSeparators? isDigit c rest else none
    else if before = '_' ∧ !isDigit c then none
    else (withoutSeparators? isDigit c rest).map (c :: ·)

/-- The value that a text denotes in the lenient form. -/
def readLeniently? (text : List Char) : Option Binary64 :=
  (withoutSeparators? Char.isDigit ' ' ((Text.trimmed text).map Text.toAsciiDigit)).bind read?

def integer? (text : List Char) : Option Int :=
  let (negative, rest) := signAndRest ((Text.trimmed text).map Text.toAsciiDigit)
  match withoutSeparators? Char.isDigit ' ' rest with
  | none => none
  | some digits =>
    if digits ≠ [] ∧ digits.all Char.isDigit then
      some (if negative then - (digitsValue digits : Int) else digitsValue digits)
    else none

def isHexDigit (c : Char) : Bool :=
  c.isDigit || ('a' ≤ c && c ≤ 'f') || ('A' ≤ c && c ≤ 'F')

/-- The text is an integer in base sixteen in the lenient form, which may start with a mark of
the base. -/
def isHexInteger (text : List Char) : Bool :=
  let (_, rest) := signAndRest ((Text.trimmed text).map Text.toAsciiDigit)
  let rest :=
    match rest with
    | '0' :: mark :: rest' =>
      if mark = 'x' ∨ mark = 'X' then
        match rest' with
        | '_' :: rest'' => rest''
        | _ => rest'
      else rest
    | _ => rest
  (withoutSeparators? isHexDigit ' ' rest).elim false fun digits => digits ≠ [] &&
    digits.all isHexDigit

end DeviceRegistry.Number
