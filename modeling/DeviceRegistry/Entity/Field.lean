import DeviceRegistry.Entity.Fault
import DeviceRegistry.Number.Reading
import DeviceRegistry.Number.Word
import DeviceRegistry.Text.Search
import DeviceRegistry.Text.Utf8

/-! Fields of entities, read from values. Text may be given as bytes, numbers as text, and truth
values as numbers or words. -/
namespace DeviceRegistry.Field

/-- The text of a value that is a text or the bytes of one. -/
def text (path : List String) : Value → Checked String
  | .text s => .valid s
  | .bytes .fixed content | .bytes .growing content =>
    match Text.decode? content with
    | some text => .valid (String.ofList text)
    | none => Checked.fault path .undecodableText
  | _ => Checked.fault path .notText

/-- The text without its underscores, if none is at an end and no two stand together. -/
def withoutUnderscores? (text : List Char) : Option (List Char) :=
  if text.head? = some '_' ∨ text.getLast? = some '_' ∨ Text.occursIn ['_', '_'] text then none
  else some (text.filter (· ≠ '_'))

/-- The number that a text denotes. White space at the ends and single underscores are allowed,
though not both. -/
def realOfText? (text : List Char) : Option Binary64 :=
  (Number.read? (Text.trimmed text)).or ((withoutUnderscores? text).bind Number.read?)

/-- The number of a value that is a number or the text of one. -/
def real (path : List String) (value : Value) : Checked Binary64 :=
  let ofText (text : Option (List Char)) : Checked Binary64 :=
    match text.bind realOfText? with
    | some x => .valid x
    | none => Checked.fault path .unreadableReal
  match value with
  | .real x => .valid x
  | .bool b => .valid (Binary64.ofInt b.toInt)
  | .int n =>
    let x := Binary64.ofInt n
    if x.isInfinite then Checked.fault path .notReal else .valid x
  | .text s => ofText (some s.toList)
  | .bytes .fixed content => ofText (Text.decode? content)
  | _ => Checked.fault path .notReal

/-- The truth value that a word denotes, whatever the case of its letters. -/
def boolOfText? (text : List Char) : Option Bool :=
  let word := String.ofList (Text.folded text)
  if word ∈ ["0", "off", "f", "false", "n", "no"] then some false
  else if word ∈ ["1", "on", "t", "true", "y", "yes"] then some true
  else none

/-- The integer that a real stands for, if it and its opposite fit sixty-four bits. -/
def integerOfReal? (x : Binary64) : Option Int :=
  x.toInt?.filter fun n => Number.fitsWord n && Number.fitsWord (-n)

/-- The truth value of a value that is one, or a number or a word for one. -/
def bool (path : List String) (value : Value) : Checked Bool :=
  let ofText (text : Option (List Char)) : Checked Bool :=
    match text.bind boolOfText? with
    | some b => .valid b
    | none => Checked.fault path .unreadableBool
  let ofInteger (n : Int) : Checked Bool :=
    if n = 0 then .valid false
    else if n = 1 then .valid true
    else if Number.fitsWord n then Checked.fault path .unreadableBool
    else Checked.fault path .notBool
  match value with
  | .bool b => .valid b
  | .int n => ofInteger n
  | .real x => (integerOfReal? x).elim (Checked.fault path .notBool) ofInteger
  | .text s => ofText (some s.toList)
  | .bytes .fixed content => ofText (Text.decode? content)
  | _ => Checked.fault path .notBool

def optional {α : Type} (read : List String → Value → Checked α) (path : List String) :
    Value → Checked (Option α)
  | .null => .valid none
  | value => (read path value).map some

/-- The name by which reports call a key that is no text. -/
def keyName : Value → String
  | .bool b => if b then "1" else "0"
  | key => if key.holdsOversized then "<unprintable " ++ key.kindName ++
      " object>" else key.plainText

/-- The entries with texts as keys. A key that comes to be the same as an earlier one replaces
its value. -/
def textKeys (path : List String) : List (Value × Value) → Checked (List (Value × Value))
  | [] => .valid []
  | (key, value) :: entries =>
    (((text (path ++ [keyName key, "[key]"]) key).map fun name rest =>
      (Value.text name, value) :: rest).both
      (textKeys path entries))

def mapping (path : List String) : Value → Checked Mapping
  | .map entries => (textKeys path entries).map Mapping.ofEntries
  | _ => Checked.fault path .notMapping

/-- The field of a name, which has to be there. -/
def required {α : Type} (fields : Mapping) (name : String)
    (read : List String → Value → Checked α) : Checked α :=
  match Mapping.value? fields (.text name) with
  | some value => read [name] value
  | none => Checked.fault [name] .missing

/-- The field of a name, or its default where the field is not there. -/
def withDefault {α : Type} (fields : Mapping) (name : String) (default : α)
    (read : List String → Value → Checked α) : Checked α :=
  match Mapping.value? fields (.text name) with
  | some value => read [name] value
  | none => .valid default

end DeviceRegistry.Field
