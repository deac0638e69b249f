import DeviceRegistry.Metadata.Token
import DeviceRegistry.Number.Word
import DeviceRegistry.Text.Joined
import DeviceRegistry.Value.Equality

/-! Metadata text as the storage engine reads it when it searches. Names and texts keep their
spelling and repeated names stay apart. The form is stricter than that of metadata text: values
without digits are no numbers here. This is the grammar of SQLite before 3.42; later ones read NaN
and Infinity too. The text may be held as bytes that are not text throughout, so that inside quotes
there may be places at which no character stands. -/
namespace DeviceRegistry.Metadata

open Text (Symbol)

/-- A part of a stored document. Texts are held as they are spelled between their quotes. -/
inductive Node where
  | null
  | bool (b : Bool)
  | number (numeral : Numeral)
  | text (spelling : List Symbol)
  | list (items : List Node)
  | map (entries : List (List Symbol × Node))

def afterBlanks (text : List Symbol) : List Symbol :=
  text.dropWhile fun symbol => symbol.any isSpace

def spelling? : List Symbol → Option (List Symbol × List Symbol)
  | [] => none
  | some '"' :: rest => some ([], rest)
  | some '\\' :: rest =>
    match rest with
    | some 'u' :: some a :: some b :: some c :: some d :: left =>
      if (fourHexDigits? a b c d).isSome then
        (spelling? left).map fun (text, left) =>
          (some '\\' :: some 'u' :: some a :: some b :: some c :: some d :: text, left)
      else none
    | some letter :: left =>
      if (escapedBy? letter).isSome then
        (spelling? left).map fun (text, left) => (some '\\' :: some letter :: text, left)
      else none
    | _ => none
  | symbol :: rest =>
    if symbol.any isControl then none
    else (spelling? rest).map fun (text, left) => (symbol :: text, left)

def isNumeric (c : Char) : Bool :=
  c.isDigit || c == '-' || c == '+' || c == '.' || c == 'e' || c == 'E'

def number? (text : List Symbol) : Option (Numeral × List Symbol) :=
  (numeral? ((text.takeWhile fun symbol => symbol.any isNumeric).filterMap id)).map
    fun (numeral, _) =>
    (numeral, text.drop numeral.text.length)

mutual

/-- The part of a document at the start of a text. The number bounds the steps that reading
may take. -/
def readNode? : Nat → List Symbol → Option (Node × List Symbol)
  | 0, _ => none
  | fuel + 1, text =>
    match text with
    | some '"' :: rest => (spelling? rest).map fun (s, left) => (.text s, left)
    | some '[' :: rest =>
      match afterBlanks rest with
      | some ']' :: left => some (.list [], left)
      | first => (readNodes? fuel first).map fun (items, left) => (.list items, left)
    | some '\x7b' :: rest =>
      match afterBlanks rest with
      | some '\x7d' :: left => some (.map [], left)
      | first => (readNamed? fuel first).map fun (entries, left) => (.map entries, left)
    | some 'n' :: some 'u' :: some 'l' :: some 'l' :: rest => some (.null, rest)
    | some 't' :: some 'r' :: some 'u' :: some 'e' :: rest => some (.bool true, rest)
    | some 'f' :: some 'a' :: some 'l' :: some 's' :: some 'e' :: rest => some (.bool false, rest)
    | _ => (number? text).map fun (numeral, left) => (.number numeral, left)

def readNodes? : Nat → List Symbol → Option (List Node × List Symbol)
  | 0, _ => none
  | fuel + 1, text => do
    let (item, rest) ← readNode? fuel text
    match afterBlanks rest with
    | some ']' :: left => return ([item], left)
    | some ',' :: more =>
      let (items, left) ← readNodes? fuel (afterBlanks more)
      return (item :: items, left)
    | _ => none

def readNamed? : Nat → List Symbol → Option (List (List Symbol × Node) × List Symbol)
  | 0, _ => none
  | fuel + 1, text =>
    match text with
    | some '"' :: rest => do
      let (name, rest) ← spelling? rest
      match afterBlanks rest with
      | some ':' :: rest =>
        let (node, rest) ← readNode? fuel (afterBlanks rest)
        match afterBlanks rest with
        | some '\x7d' :: left => return ([(name, node)], left)
        | some ',' :: more =>
          let (entries, left) ← readNamed? fuel (afterBlanks more)
          return ((name, node) :: entries, left)
        | _ => none
      | _ => none
    | _ => none

end

/-- The document that a text denotes. A text ends where a NUL stands. Every step but one before each
part takes a character, so that twice the length bounds the steps. -/
def document? (text : List Symbol) : Option Node := do
  let text := text.takeWhile (· ≠ some '\x00')
  let (node, rest) ← readNode? (2 * text.length + 2) (afterBlanks text)
  if afterBlanks rest = [] then some node else none

mutual

/-- The text of a part without white space between its parts. -/
def Node.compact : Node → List Symbol
  | .null => Text.symbols "null".toList
  | .bool true => Text.symbols "true".toList
  | .bool false => Text.symbols "false".toList
  | .number numeral => Text.symbols numeral.text
  | .text spelling => some '"' :: (spelling ++ [some '"'])
  | .list items => some '[' :: (Text.joined [some ','] (allCompact items) ++ [some ']'])
  | .map entries =>
      some '\x7b' :: (Text.joined [some ','] (entriesCompact entries) ++ [some '\x7d'])

def allCompact : List Node → List (List Symbol)
  | [] => []
  | item :: items => item.compact :: allCompact items

def entriesCompact : List (List Symbol × Node) → List (List Symbol)
  | [] => []
  | (name, node) :: entries =>
    (some '"' :: (name ++ some '"' :: some ':' :: node.compact)) :: entriesCompact entries

end

def codeOfNone : Nat := 0x110000

/-- The numbers of the characters that a spelling stands for. -/
def codesOfSpelling : List Symbol → List Nat
  | [] => []
  | some '\\' :: some 'u' :: some a :: some b :: some c :: some d :: rest =>
    (fourHexDigits? a b c d).getD 0 :: codesOfSpelling rest
  | some '\\' :: some letter :: rest =>
      ((escapedBy? letter).getD letter).toNat :: codesOfSpelling rest
  | symbol :: rest => symbol.elim codeOfNone Char.toNat :: codesOfSpelling rest

/-- The text that a spelling stands for, which ends where a NUL stands. -/
def textOfSpelling (spelling : List Symbol) : List Symbol :=
  symbolsOfCodes ((codesOfSpelling spelling).takeWhile (· ≠ 0))

/-- The number that a numeral is stored as. An integer that does not fit sixty-four bits is taken as
the nearest real. -/
def storedNumber (numeral : Numeral) : Value.Numeric :=
  if numeral.isInteger && Number.fitsWord numeral.integer then
    .whole numeral.integer
  else .real numeral.real

inductive EntryKey where
  | none
  | place (index : Nat)
  | name (text : List Symbol)
deriving DecidableEq

/-- The entries of a part: those of a mapping by their names, those of a list by their places, and
any other part as its own only entry. -/
def Node.entries : Node → List (EntryKey × Node)
  | .map entries => entries.map fun (name, node) => (.name (textOfSpelling name), node)
  | .list items => items.zipIdx.map fun (node, index) => (.place index, node)
  | node => [(.none, node)]

end DeviceRegistry.Metadata
