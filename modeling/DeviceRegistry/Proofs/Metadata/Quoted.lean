import DeviceRegistry.Metadata.Reading
import Mathlib.Tactic.Common

/-! Texts in quotes are read back as they were written, whatever characters they hold. Each
character is read on its own: the numbers of characters are halves of pairs never, so that no two of
them join. -/
namespace DeviceRegistry.Metadata

/-- A letter that is written after a backslash is read as the character it stands for. -/
theorem escapedBy?_of_escapeLetter? {c letter : Char} (hLetter : escapeLetter? c = some letter) :
    escapedBy? letter = some c ∧ letter ≠ 'u' := by
  unfold escapeLetter? at hLetter
  split_ifs at hLetter
  all_goals
    subst_vars
    obtain rfl := Option.some.inj hLetter
    decide

/-- A character without a letter is neither the quote nor the backslash. -/
theorem ne_of_escapeLetter?_eq_none {c : Char} (hNone : escapeLetter? c = none) :
    c ≠ '"' ∧ c ≠ '\\' := by
  unfold escapeLetter? at hNone
  grind

/-- The number of a control character has two digits, so that two zeros stand before them. -/
theorem hexDigits_control : ∀ n < 0x20,
    Text.hexDigits 4 n = ['0', '0', (n / 16).digitChar, (n % 16).digitChar] := by
  decide

/-- Control characters are written with their numbers, which are read back. -/
theorem fourHexDigits?_control : ∀ n < 0x20,
    fourHexDigits? '0' '0' (n / 16).digitChar (n % 16).digitChar = some n := by
  decide

/-- One written character is read as its number. Something has to follow it, as a closing
quote does. -/
theorem textCodes_escapedChar (opening : Nat) (c : Char) {rest : List Char} (hRest : rest ≠ []) :
    textCodes opening (escapedChar c ++ rest) =
      (textCodes opening rest).map fun (codes, left) => (c.toNat :: codes, left) := by
  cases hLetter : escapeLetter? c with
  | some letter =>
      obtain ⟨hRead, hNotNumber⟩ := escapedBy?_of_escapeLetter? hLetter
      rw [escapedChar, hLetter, List.cons_append, List.singleton_append, textCodes.eq_def]
      simp [hNotNumber, hRead]
  | none =>
      obtain ⟨hNotQuote, hNotBackslash⟩ := ne_of_escapeLetter?_eq_none hLetter
      cases hControl : isControl c with
      | true =>
          have hSmall : c.toNat < 0x20 := of_decide_eq_true hControl
          have hRead := fourHexDigits?_control c.toNat hSmall
          have hMore : rest.isEmpty = false := by simpa using hRest
          rw [escapedChar, hLetter, hControl, if_pos rfl, hexDigits_control c.toNat hSmall,
            textCodes.eq_def]
          simp [hRead, hMore]
      | false =>
          rw [escapedChar, hLetter, hControl, if_neg Bool.false_ne_true, List.singleton_append,
            textCodes.eq_def]
          simp [hNotQuote, hNotBackslash, hControl]

/-- Escaped text is read back up to the closing quote, whatever follows. -/
theorem textCodes_escaped (opening : Nat) (text rest : List Char) :
    textCodes opening (text.flatMap escapedChar ++ '"' :: rest) =
      .ok (text.map Char.toNat, rest) := by
  induction text with
  | nil =>
      rw [List.flatMap_nil, List.nil_append, textCodes.eq_def]
      rfl
  | cons c text ih =>
      rw [List.flatMap_cons, List.append_assoc, textCodes_escapedChar opening c (by simp), ih]
      rfl

/-- No character is lost when its number is read as a code point. -/
theorem symbolOfCode_toNat (c : Char) : symbolOfCode c.toNat = some c := by
  have hValid : c.toNat.isValidChar := c.valid
  rw [symbolOfCode, dif_pos hValid]
  congr 1

/-- The number of a character is no half of a pair. -/
theorem isHighHalf_toNat (c : Char) : isHighHalf c.toNat = false := by
  have hValid : c.toNat < 0xD800 ∨ 0xDFFF < c.toNat ∧ c.toNat < 0x110000 := c.valid
  rw [isHighHalf, decide_eq_false_iff_not]
  omega

/-- Numbers of characters are read back one by one, for none of them is half of a pair. -/
theorem symbolsOfCodes_toNat (text : List Char) :
    symbolsOfCodes (text.map Char.toNat) = text.map some := by
  induction text with
  | nil => rfl
  | cons c text ih =>
      cases text with
      | nil => rw [List.map_singleton, symbolsOfCodes, symbolOfCode_toNat, List.map_singleton]
      | cons d text =>
          rw [List.map_cons, List.map_cons] at ih ⊢
          rw [symbolsOfCodes, isHighHalf_toNat, Bool.false_and, if_neg Bool.false_ne_true, ih,
            symbolOfCode_toNat]
          rfl

/-- The characters of a text are found again from their numbers. -/
theorem charsOfCodes_toNat (text : List Char) : charsOfCodes (text.map Char.toNat) = text := by
  rw [charsOfCodes, symbolsOfCodes_toNat, List.map_map]
  exact List.map_id text

/-- A text in quotes is read back, and reading goes on behind it. -/
theorem textBody_quoted (opening : Nat) (text rest : List Char) :
    textBody opening (text.flatMap escapedChar ++ '"' :: rest) =
      .ok (String.ofList text, rest) := by
  rw [textBody, textCodes_escaped]
  simp [Except.map, charsOfCodes_toNat]

end DeviceRegistry.Metadata
