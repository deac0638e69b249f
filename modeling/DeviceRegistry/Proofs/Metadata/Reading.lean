import DeviceRegistry.Proofs.Metadata.Number
import DeviceRegistry.Proofs.Metadata.Quoted

/-! How reading goes on once it is known how a text starts. Written text holds no white space
between its parts, and here none of it has to be passed over. -/
namespace DeviceRegistry.Metadata

variable {fuel : Nat} {text rest more name : List Char} {item value : Value}

/-- A value may begin here: neither white space nor the end of a list or of a mapping
comes first. -/
def Starts (text : List Char) : Prop :=
  ∃ c after, text = c :: after ∧ isSpace c = false ∧ c ≠ ']' ∧ c ≠ '\x7d'

theorem Starts.append (hStarts : Starts text) (rest : List Char) : Starts (text ++ rest) := by
  obtain ⟨c, after, rfl, hForm⟩ := hStarts
  exact ⟨c, after ++ rest, rfl, hForm⟩

/-- Nothing is skipped where a value may begin. -/
theorem Starts.afterSpace_eq (hStarts : Starts text) : afterSpace text = text := by
  obtain ⟨c, after, rfl, hSpace, -⟩ := hStarts
  simp [afterSpace, hSpace]

theorem readValue_quote :
    readValue (fuel + 1) ('"' :: rest) =
      (textBody (rest.length + 1) rest).map fun (s, left) => (.text s, left) := rfl

theorem readValue_list (hStarts : Starts text) :
    readValue (fuel + 1) ('[' :: text) =
      (readItems fuel text).map fun (items, left) => (.list items, left) := by
  have hSpace := hStarts.afterSpace_eq
  obtain ⟨c, after, rfl, -, hBracket, -⟩ := hStarts
  rw [readValue]
  simp only [hSpace]
  split
  · rename_i hClosed
    cases hClosed
    exact absurd rfl hBracket
  · rfl

/-- A mapping is read with its entries put in one after the other. -/
theorem readValue_map (hStarts : Starts text) :
    readValue (fuel + 1) ('\x7b' :: text) =
      (readEntries fuel text).map fun (entries, left) =>
        (.map (Mapping.ofEntries entries), left) := by
  have hSpace := hStarts.afterSpace_eq
  obtain ⟨c, after, rfl, -, -, hBrace⟩ := hStarts
  rw [readValue]
  simp only [hSpace]
  split
  · rename_i hClosed
    cases hClosed
    exact absurd rfl hBrace
  · rfl

/-- A numeral starts with a digit, or with a minus sign and a digit. -/
theorem Numeral.WellFormed.text_head {numeral : Numeral} (hForm : numeral.WellFormed)
    (rest : List Char) :
    ∃ c after, c.isDigit = true ∧
      (numeral.text ++ rest = c :: after ∨ numeral.text ++ rest = '-' :: c :: after) := by
  obtain ⟨c, digits, hWhole⟩ : ∃ c digits, numeral.whole = c :: digits := by
    rcases hForm.wholeStart with hZero | ⟨c, digits, hWhole, -⟩
    · exact ⟨'0', [], hZero⟩
    · exact ⟨c, digits, hWhole⟩
  have hDigit : c.isDigit = true := hForm.wholeDigits c (by rw [hWhole]; exact List.mem_cons_self)
  let fraction := if numeral.fraction.isEmpty then [] else '.' :: numeral.fraction
  refine ⟨c, digits ++ (fraction ++ (numeral.exponent ++ rest)), hDigit, ?_⟩
  cases hNegative : numeral.negative with
  | false => simp [text, hNegative, hWhole, fraction]
  | true => simp [text, hNegative, hWhole, fraction]

/-- No word starts with a digit, and none with a minus sign and a digit. -/
theorem Numeral.WellFormed.word?_eq_none {numeral : Numeral} (hForm : numeral.WellFormed)
    (rest : List Char) : word? (numeral.text ++ rest) = none := by
  obtain ⟨c, after, hDigit, hHead⟩ := hForm.text_head rest
  have hNoLetter : c ≠ 'n' ∧ c ≠ 't' ∧ c ≠ 'f' ∧ c ≠ 'N' ∧ c ≠ 'I' ∧ c ≠ '-' := by
    refine ⟨?_, ?_, ?_, ?_, ?_, ?_⟩ <;> rintro rfl <;> revert hDigit <;> decide
  rcases hHead with hHead | hHead <;> rw [hHead] <;> unfold word? <;> split <;> simp_all

/-- Where no text, list or mapping begins, a word or a number is read. -/
theorem readValue_other (hHead : ∀ c ∈ text.head?, c ≠ '"' ∧ c ≠ '[' ∧ c ≠ '{') :
    readValue (fuel + 1) text =
      match word? text with
      | some found => .ok found
      | none =>
        match numeral? text with
        | some (numeral, left) => (numeralValue numeral).map fun value => (value, left)
        | none => .error (.stopped .expectingValue text.length) := by
  cases text with
  | nil => rfl
  | cons c after =>
      obtain ⟨hQuote, hBracket, hBrace⟩ := hHead c rfl
      rw [readValue.eq_def]
      dsimp only
      split
      · rename_i hText
        cases hText
        exact absurd rfl hQuote
      · rename_i hText
        cases hText
        exact absurd rfl hBracket
      · rename_i hText
        cases hText
        exact absurd rfl hBrace
      · rfl

/-- A numeral is read up to what ends it. -/
theorem readValue_numeral {numeral : Numeral} (hForm : numeral.WellFormed) (hEnds : Ends rest) :
    readValue (fuel + 1) (numeral.text ++ rest) =
      (numeralValue numeral).map fun value => (value, rest) := by
  rw [readValue_other, hForm.word?_eq_none, hForm.numeral?_text hEnds]
  intro c hc
  obtain ⟨digit, after, hDigit, hHead | hHead⟩ := hForm.text_head rest
  · rw [hHead] at hc
    obtain rfl : digit = c := Option.some.inj hc
    refine ⟨?_, ?_, ?_⟩ <;> rintro rfl <;> revert hDigit <;> decide
  · rw [hHead] at hc
    obtain rfl : '-' = c := Option.some.inj hc
    decide

theorem readValue_integer {n : Int} (hShort : Value.isOversized n = false) (hEnds : Ends rest) :
    readValue (fuel + 1) (integerText n ++ rest) = .ok (.int n, rest) := by
  have hLength : ¬ Value.maxDigits < (integerNumeral n).whole.length := of_decide_eq_false hShort
  have hInteger : (integerNumeral n).isInteger = true := rfl
  rw [← integerNumeral_text, readValue_numeral (integerNumeral_wellFormed n) hEnds,
    numeralValue, hInteger, if_pos rfl, if_neg hLength, integerNumeral_integer]
  rfl

theorem readItems_last (hItem : readValue fuel text = .ok (item, ']' :: rest)) :
    readItems (fuel + 1) text = .ok ([item], rest) := by
  rw [readItems, hItem]
  rfl

theorem readItems_more (hItem : readValue fuel text = .ok (item, ',' :: more))
    (hMore : Starts more) :
    readItems (fuel + 1) text = (readItems fuel more).map fun (items, left) =>
      (item :: items, left) := by
  rw [readItems, hItem]
  change (readItems fuel (afterSpace more) >>= fun found => pure (item :: found.1, found.2)) = _
  rw [hMore.afterSpace_eq]
  cases readItems fuel more <;> rfl

theorem readEntries_last (hText : Starts text)
    (hValue : readValue fuel text = .ok (value, '\x7d' :: rest)) :
    readEntries (fuel + 1) (quoted name ++ ':' :: text) =
      .ok ([(.text (String.ofList name), value)], rest) := by
  have hQuoted : quoted name ++ ':' :: text =
      '"' :: (name.flatMap escapedChar ++ '"' :: ':' :: text) := by
    simp [quoted]
  have hColon : afterSpace (':' :: text) = ':' :: text := rfl
  rw [hQuoted, readEntries]
  simp only [textBody_quoted, bind, Except.bind, hColon, hText.afterSpace_eq, hValue]
  rfl

theorem readEntries_more (hText : Starts text)
    (hValue : readValue fuel text = .ok (value, ',' :: more)) (hMore : Starts more) :
    readEntries (fuel + 1) (quoted name ++ ':' :: text) =
      (readEntries fuel more).map fun (entries, left) =>
        ((.text (String.ofList name), value) :: entries, left) := by
  have hQuoted : quoted name ++ ':' :: text =
      '"' :: (name.flatMap escapedChar ++ '"' :: ':' :: text) := by
    simp [quoted]
  have hColon : afterSpace (':' :: text) = ':' :: text := rfl
  have hComma : afterSpace (',' :: more) = ',' :: more := rfl
  rw [hQuoted, readEntries]
  simp only [textBody_quoted, bind, Except.bind, hColon, hText.afterSpace_eq, hValue, hComma,
    hMore.afterSpace_eq]
  cases readEntries fuel more <;> rfl

end DeviceRegistry.Metadata
