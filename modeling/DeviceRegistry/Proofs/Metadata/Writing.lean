import DeviceRegistry.Proofs.Metadata.Reading

/-! The parts of written text: what was written of a value that has parts was written of
each of them. -/
namespace DeviceRegistry.Metadata

/-- A list or a tuple is written as the texts of its items in brackets. -/
theorem written_items {value : Value} {items : List Value}
    (hValue : value = .list items ∨ value = .tuple items) {text : List Char}
    (hWritten : written value = .ok text) :
    ∃ texts, allWritten items = .ok texts ∧ text = '[' :: (Text.joined [','] texts ++ [']']) := by
  rcases hValue with rfl | rfl
  all_goals
    rw [written] at hWritten
    cases hAll : allWritten items with
    | error fault =>
        rw [hAll] at hWritten
        cases hWritten
    | ok texts =>
        rw [hAll] at hWritten
        cases hWritten
        exact ⟨texts, rfl, rfl⟩

/-- A mapping is written in braces, its entries with commas between them. -/
theorem written_map {entries : Mapping} {text : List Char}
    (hWritten : written (.map entries) = .ok text) :
    ∃ texts, entriesWritten entries = .ok texts ∧
    text = '\x7b' :: (Text.joined [','] texts ++ ['\x7d']) := by
  rw [written] at hWritten
  cases hAll : entriesWritten entries with
  | error fault =>
      rw [hAll] at hWritten
      cases hWritten
  | ok texts =>
      rw [hAll] at hWritten
      cases hWritten
      exact ⟨texts, rfl, rfl⟩

theorem integerWritten_eq_ok {n : Int} {text : List Char} (hWritten : integerWritten n = .ok text) :
    Value.isOversized n = false ∧ text = integerText n := by
  unfold integerWritten at hWritten
  split at hWritten
  · cases hWritten
  · rename_i hShort
    cases hWritten
    exact ⟨by simpa using hShort, rfl⟩

theorem allWritten_cons {item : Value} {items : List Value} {texts : List (List Char)}
    (hWritten : allWritten (item :: items) = .ok texts) :
    ∃ first others, written item = .ok first ∧ allWritten items = .ok others ∧
    texts = first :: others := by
  rw [allWritten] at hWritten
  cases hFirst : written item with
  | error fault =>
      rw [hFirst] at hWritten
      cases hWritten
  | ok first =>
      cases hOthers : allWritten items with
      | error fault =>
          rw [hFirst, hOthers] at hWritten
          cases hWritten
      | ok others =>
          rw [hFirst, hOthers] at hWritten
          cases hWritten
          exact ⟨first, others, rfl, rfl, rfl⟩

/-- The text of an entry is its quoted name, a colon and the text of its value. -/
theorem entriesWritten_cons {key value : Value} {entries : Mapping} {texts : List (List Char)}
    (hWritten : entriesWritten ((key, value) :: entries) = .ok texts) :
    ∃ name first others, keyText key = .ok name ∧ written value = .ok first ∧
      entriesWritten entries = .ok others ∧ texts = (quoted name ++ ':' :: first) :: others := by
  rw [entriesWritten] at hWritten
  cases hName : keyText key with
  | error fault =>
      rw [hName] at hWritten
      cases hWritten
  | ok name =>
      cases hFirst : written value with
      | error fault =>
          rw [hName, hFirst] at hWritten
          cases hWritten
      | ok first =>
          cases hOthers : entriesWritten entries with
          | error fault =>
              rw [hName, hFirst, hOthers] at hWritten
              cases hWritten
          | ok others =>
              rw [hName, hFirst, hOthers] at hWritten
              cases hWritten
              exact ⟨name, first, others, rfl, rfl, rfl, rfl⟩

/-- Items that are written alike are together written alike. -/
theorem allWritten_map {items : List Value} {change : Value → Value}
    (hSame : ∀ item ∈ items, written (change item) = written item) :
    allWritten (items.map change) = allWritten items := by
  induction items with
  | nil => rfl
  | cons item items ih =>
      rw [List.forall_mem_cons] at hSame
      rw [List.map_cons, allWritten, allWritten, hSame.1, ih hSame.2]

/-- Entries that are changed into ones with the same texts are written alike. -/
theorem entriesWritten_map {entries : Mapping} {change : Value × Value → Value × Value}
    (hSame : ∀ entry ∈ entries, keyText (change entry).1 = keyText entry.1 ∧
      written (change entry).2 = written entry.2) :
    entriesWritten (entries.map change) = entriesWritten entries := by
  induction entries with
  | nil => rfl
  | cons entry entries ih =>
      rw [List.forall_mem_cons] at hSame
      rw [List.map_cons, entriesWritten, entriesWritten, hSame.1.1, hSame.1.2, ih hSame.2]

/-- Metadata is stored as the text that is written of it. An empty mapping is written as it
is stored. -/
theorem written_of_encode {entries : Mapping} {text : String}
    (hEncoded : encode (.map entries) = .ok text) :
    written (.map entries) = .ok text.toList := by
  rw [encode] at hEncoded
  split at hEncoded
  · rename_i hBlank
    obtain rfl : entries = [] := List.isEmpty_iff.mp hBlank
    cases hEncoded
    rfl
  · cases hWritten : written (.map entries) with
    | error fault =>
        simp only [hWritten] at hEncoded
        cases hEncoded
    | ok chars =>
        simp only [hWritten, Except.map, Except.ok.injEq] at hEncoded
        rw [← hEncoded, String.toList_ofList]

theorem starts_of_isDigit {c : Char} (hDigit : c.isDigit = true) (after : List Char) :
    Starts (c :: after) := by
  have hNoMark : c ≠ ' ' ∧ c ≠ '\t' ∧ c ≠ '\n' ∧ c ≠ '\r' ∧ c ≠ ']' ∧ c ≠ '\x7d' := by
    refine ⟨?_, ?_, ?_, ?_, ?_, ?_⟩ <;> rintro rfl <;> revert hDigit <;> decide
  obtain ⟨hBlank, hTab, hLine, hReturn, hClosing⟩ := hNoMark
  exact ⟨c, after, rfl, by simp [isSpace, hBlank, hTab, hLine, hReturn], hClosing⟩

theorem Numeral.WellFormed.starts {numeral : Numeral} (hForm : numeral.WellFormed) :
    Starts numeral.text := by
  obtain ⟨c, after, hDigit, hHead⟩ := hForm.text_head []
  rw [List.append_nil] at hHead
  rcases hHead with hHead | hHead
  · rw [hHead]
    exact starts_of_isDigit hDigit after
  · exact ⟨'-', c :: after, hHead, by decide⟩

theorem starts_real (x : Binary64) : Starts (Layout.metadata.text x) := by
  cases hNumber : x.isNaN with
  | true =>
      rw [Layout.text, hNumber]
      exact ⟨'N', _, rfl, by decide⟩
  | false =>
      cases hFinite : x.isInfinite with
      | true =>
          rw [Layout.text, hNumber, hFinite]
          cases x.negative
          · exact ⟨'I', _, rfl, by decide⟩
          · exact ⟨'-', _, rfl, by decide⟩
      | false =>
          obtain ⟨numeral, hForm, -, hText⟩ := exists_numeral_text hNumber hFinite
          rw [← hText]
          exact hForm.starts

/-- The text of a value starts as a value may. -/
theorem starts_written {value : Value} {text : List Char} (hWritten : written value = .ok text) :
    Starts text := by
  cases value with
  | null =>
      cases hWritten
      exact ⟨'n', _, rfl, by decide⟩
  | bool b =>
      cases b
      · cases hWritten
        exact ⟨'f', _, rfl, by decide⟩
      · cases hWritten
        exact ⟨'t', _, rfl, by decide⟩
  | int n =>
      obtain ⟨-, rfl⟩ := integerWritten_eq_ok hWritten
      rw [← integerNumeral_text]
      exact (integerNumeral_wellFormed n).starts
  | real x =>
      cases hWritten
      exact starts_real x
  | text s =>
      cases hWritten
      exact ⟨'"', _, rfl, by decide⟩
  | list items =>
      obtain ⟨texts, -, rfl⟩ := written_items (Or.inl rfl) hWritten
      exact ⟨'[', _, rfl, by decide⟩
  | tuple items =>
      obtain ⟨texts, -, rfl⟩ := written_items (Or.inr rfl) hWritten
      exact ⟨'[', _, rfl, by decide⟩
  | map entries =>
      obtain ⟨texts, -, rfl⟩ := written_map hWritten
      exact ⟨'\x7b', _, rfl, by decide⟩
  | _ => cases hWritten

end DeviceRegistry.Metadata
