import DeviceRegistry.Metadata.Token
import DeviceRegistry.Value.Display
import DeviceRegistry.Value.Equality

/-! Metadata text read back as a value. A repeated name keeps its first place and takes its last
value. A text that cannot be read is reported with the place at which reading stopped. -/
namespace DeviceRegistry.Metadata

inductive Stop where
  | expectingValue
  | expectingName
  | expectingColon
  | expectingComma
  | extraData
  | unterminatedText
  | controlCharacter
  | badEscape
  | badNumberedEscape
  | byteOrderMark
deriving DecidableEq

def Stop.message : Stop → String
  | .expectingValue => "Expecting value"
  | .expectingName => "Expecting property name enclosed in double quotes"
  | .expectingColon => "Expecting ':' delimiter"
  | .expectingComma => "Expecting ',' delimiter"
  | .extraData => "Extra data"
  | .unterminatedText => "Unterminated string starting at"
  | .controlCharacter => "Invalid control character at"
  | .badEscape => "Invalid \\escape"
  | .badNumberedEscape => "Invalid \\uXXXX escape"
  | .byteOrderMark => "Unexpected UTF-8 BOM (decode using utf-8-sig)"

/-- Where a text cannot be read on, given as the number of characters from there to the end. -/
inductive Interruption where
  | stopped (reason : Stop) (remaining : Nat)
  | oversizedInteger (digits : Nat)
deriving DecidableEq

/-- The rest of a text in quotes, up to its closing quote, as numbers of characters. The first
argument tells where the text was opened. -/
def textCodes (opening : Nat) : List Char → Except Interruption (List Nat × List Char)
  | [] => .error (.stopped .unterminatedText opening)
  | c :: rest =>
    if c = '"' then .ok ([], rest)
    else if c = '\\' then
      match rest with
      | [] => .error (.stopped .unterminatedText opening)
      | letter :: after =>
        if letter = 'u' then
          match after with
          | a :: b :: c :: d :: left =>
            match fourHexDigits? a b c d, left.isEmpty with
            | some n, false => (textCodes opening left).map fun (codes, left) => (n :: codes, left)
            | _, _ => .error (.stopped .badNumberedEscape (left.length + 5))
          | _ => .error (.stopped .badNumberedEscape (after.length + 1))
        else match escapedBy? letter with
          | some plain => (textCodes opening after).map fun (codes, left) =>
              (plain.toNat :: codes, left)
          | none => .error (.stopped .badEscape (after.length + 2))
    else if isControl c then .error (.stopped .controlCharacter (rest.length + 1))
    else (textCodes opening rest).map fun (codes, left) => (c.toNat :: codes, left)

def textBody (opening : Nat) (text : List Char) : Except Interruption (String × List Char) :=
  (textCodes opening text).map fun (codes, left) => (String.ofList (charsOfCodes codes), left)

def numeralValue (numeral : Numeral) : Except Interruption Value :=
  if numeral.isInteger then
    if Value.maxDigits < numeral.whole.length then .error (.oversizedInteger numeral.whole.length)
    else .ok (.int numeral.integer)
  else .ok (.real numeral.real)

def word? : List Char → Option (Value × List Char)
  | 'n' :: 'u' :: 'l' :: 'l' :: rest => some (.null, rest)
  | 't' :: 'r' :: 'u' :: 'e' :: rest => some (.bool true, rest)
  | 'f' :: 'a' :: 'l' :: 's' :: 'e' :: rest => some (.bool false, rest)
  | 'N' :: 'a' :: 'N' :: rest => some (.real Binary64.nan, rest)
  | 'I' :: 'n' :: 'f' :: 'i' :: 'n' :: 'i' :: 't' :: 'y' :: rest =>
    some (.real (Binary64.infinity false), rest)
  | '-' :: 'I' :: 'n' :: 'f' :: 'i' :: 'n' :: 'i' :: 't' :: 'y' :: rest =>
    some (.real (Binary64.infinity true), rest)
  | _ => none

mutual

/-- The value at the start of a text. The number bounds the steps that reading may take. -/
def readValue : Nat → List Char → Except Interruption (Value × List Char)
  | 0, text => .error (.stopped .expectingValue text.length)
  | fuel + 1, text =>
    match text with
    | '"' :: rest => (textBody text.length rest).map fun (s, left) => (.text s, left)
    | '[' :: rest =>
      match afterSpace rest with
      | ']' :: left => .ok (.list [], left)
      | first => (readItems fuel first).map fun (items, left) => (.list items, left)
    | '\x7b' :: rest =>
      match afterSpace rest with
      | '\x7d' :: left => .ok (.map [], left)
      | first =>
        (readEntries fuel first).map fun (entries, left) => (.map (Mapping.ofEntries entries), left)
    | _ =>
      match word? text with
      | some found => .ok found
      | none =>
        match numeral? text with
        | some (numeral, left) => (numeralValue numeral).map fun value => (value, left)
        | none => .error (.stopped .expectingValue text.length)

def readItems : Nat → List Char → Except Interruption (List Value × List Char)
  | 0, text => .error (.stopped .expectingValue text.length)
  | fuel + 1, text => do
    let (item, rest) ← readValue fuel text
    match afterSpace rest with
    | ']' :: left => return ([item], left)
    | ',' :: more =>
      let (items, left) ← readItems fuel (afterSpace more)
      return (item :: items, left)
    | other => .error (.stopped .expectingComma other.length)

def readEntries : Nat → List Char → Except Interruption (List (Value × Value) × List Char)
  | 0, text => .error (.stopped .expectingName text.length)
  | fuel + 1, text =>
    match text with
    | '"' :: rest => do
      let (name, rest) ← textBody text.length rest
      match afterSpace rest with
      | ':' :: rest =>
        let (value, rest) ← readValue fuel (afterSpace rest)
        let entry := (Value.text name, value)
        match afterSpace rest with
        | '\x7d' :: left => return ([entry], left)
        | ',' :: more =>
          let (entries, left) ← readEntries fuel (afterSpace more)
          return (entry :: entries, left)
        | other => .error (.stopped .expectingComma other.length)
      | other => .error (.stopped .expectingColon other.length)
    | _ => .error (.stopped .expectingName text.length)

end

/-- The value that a whole text denotes. Every step but one before each value takes a character, so
that twice the length bounds the steps. -/
def readWhole (text : List Char) : Except Interruption Value :=
  if text.head? = some '\ufeff' then .error (.stopped .byteOrderMark text.length)
  else do
    let (value, rest) ← readValue (2 * text.length + 2) (afterSpace text)
    match afterSpace rest with
    | [] => return value
    | other => .error (.stopped .extraData other.length)

/-- The line and the column of a place, counted from one, and the number of characters before it. -/
structure Place where
  line : Nat
  column : Nat
  offset : Nat
deriving DecidableEq

def Place.after (before : List Char) : Place where
  line := before.count '\n' + 1
  column := (before.reverse.takeWhile (· != '\n')).length + 1
  offset := before.length

inductive ReadFault where
  | stopped (reason : Stop) (place : Place)
  | oversizedInteger (digits : Nat)
  | notMapping (kind : String)
deriving DecidableEq

def ReadFault.message : ReadFault → String
  | .stopped reason place =>
    "stored metadata is not valid JSON: " ++ reason.message ++ ": line " ++ toString place.line ++
      " column " ++ toString place.column ++ " (char " ++ toString place.offset ++ ")"
  | .oversizedInteger digits =>
    "stored metadata is not valid JSON: Exceeds the limit (4300 digits) for integer string conversion: " ++
      "value has " ++ toString digits ++
      " digits; use sys.set_int_max_str_digits() to increase the limit"
  | .notMapping kind => "stored metadata is a " ++ kind ++ ", not an object"

def decodeText (text : List Char) : Except ReadFault Mapping :=
  match readWhole text with
  | .ok (.map entries) => .ok entries
  | .ok value => .error (.notMapping value.kindName)
  | .error (.oversizedInteger digits) => .error (.oversizedInteger digits)
  | .error (.stopped reason remaining) =>
    .error (.stopped reason (Place.after (text.take (text.length - remaining))))

end DeviceRegistry.Metadata
