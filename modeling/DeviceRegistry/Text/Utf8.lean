/-! Bytes read as text. A character takes one to four bytes, in the shortest form that holds it, and
surrogates are no characters. -/
namespace DeviceRegistry.Text

/-- The payload of a byte that continues a character. -/
def continuation? (byte : UInt8) : Option Nat :=
  if 0x80 ≤ byte.toNat ∧ byte.toNat < 0xC0 then some (byte.toNat - 0x80) else none

/-- A code point that needs as many bytes as were read, as a character. -/
def charFrom? (least code : Nat) : Option Char :=
  if h : code.isValidChar then
    if least ≤ code then some (Char.ofNatAux code h) else none
  else none

/-- The first character of the bytes and the number of bytes that it takes beside the first. -/
def firstChar? : List UInt8 → Option (Char × Nat)
  | [] => none
  | lead :: rest =>
    let lead := lead.toNat
    if lead < 0x80 then some (Char.ofNat lead, 0)
    else if lead < 0xC0 then none
    else if lead < 0xE0 then
      match rest with
      | a :: _ => do
        let a ← continuation? a
        return (← charFrom? 0x80 ((lead - 0xC0) * 0x40 + a), 1)
      | _ => none
    else if lead < 0xF0 then
      match rest with
      | a :: b :: _ => do
        let a ← continuation? a
        let b ← continuation? b
        return (← charFrom? 0x800 (((lead - 0xE0) * 0x40 + a) * 0x40 + b), 2)
      | _ => none
    else if lead < 0xF8 then
      match rest with
      | a :: b :: c :: _ => do
        let a ← continuation? a
        let b ← continuation? b
        let c ← continuation? c
        return (← charFrom? 0x10000 ((((lead - 0xF0) * 0x40 + a) * 0x40 + b) * 0x40 + c), 3)
      | _ => none
    else none

/-- What stands at a place of a text that is held as bytes: a character, or nothing that is one. -/
abbrev Symbol := Option Char

/-- The characters of the bytes. Each byte that is part of none has a place of its own. -/
def symbolsOfBytes : List UInt8 → List Symbol
  | [] => []
  | byte :: rest =>
    match firstChar? (byte :: rest) with
    | some (c, further) => some c :: symbolsOfBytes (rest.drop further)
    | none => none :: symbolsOfBytes rest
termination_by bytes => bytes.length
decreasing_by
  · simp only [List.length_drop, List.length_cons]; omega
  · simp only [List.length_cons]; omega

def decode? (bytes : List UInt8) : Option (List Char) := (symbolsOfBytes bytes).mapM id

def symbols (text : List Char) : List Symbol := text.map some

end DeviceRegistry.Text
