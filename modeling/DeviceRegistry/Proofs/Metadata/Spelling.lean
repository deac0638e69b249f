import DeviceRegistry.Metadata.Document
import DeviceRegistry.Proofs.Metadata.Parts
import Mathlib.Data.List.Basic
import Mathlib.Data.List.TakeWhile

/-! Written texts and numbers as the storage engine reads them. Whatever is written holds no NUL, at
which reading would end. A text is held as it was written, and stands for its own characters up to
its first NUL. -/
namespace DeviceRegistry

namespace Text

@[simp] theorem symbols_nil : symbols [] = [] := rfl

@[simp] theorem symbols_cons (c : Char) (text : List Char) :
    symbols (c :: text) = some c :: symbols text := rfl

@[simp] theorem symbols_append (first second : List Char) :
    symbols (first ++ second) = symbols first ++ symbols second := List.map_append

/-- No two texts have the same symbols. -/
theorem symbols_injective {first second : List Char} (hSame : symbols first = symbols second) :
    first = second :=
  List.map_injective_iff.mpr (fun _ _ => Option.some.inj) hSame

theorem filterMap_symbols (text : List Char) : (symbols text).filterMap id = text := by
  rw [symbols, List.filterMap_map]
  exact List.filterMap_some

/-- A test of what stands at each place comes to a test of the characters. -/
theorem takeWhile_symbols (test : Symbol → Bool) (text : List Char) :
    (symbols text).takeWhile test = symbols (text.takeWhile fun c => test (some c)) :=
  List.takeWhile_map

theorem dropWhile_symbols (test : Symbol → Bool) (text : List Char) :
    (symbols text).dropWhile test = symbols (text.dropWhile fun c => test (some c)) :=
  List.dropWhile_map

end Text

namespace Metadata

open Text (symbols)

/-- White space is skipped alike in texts and in their symbols. -/
theorem afterBlanks_symbols (text : List Char) :
    afterBlanks (symbols text) = symbols (afterSpace text) :=
  Text.dropWhile_symbols _ text

section Quoted

/-- One written character is taken as it is spelled. -/
theorem spelling?_escapedChar (c : Char) (rest : List Text.Symbol) :
    spelling? (symbols (escapedChar c) ++ rest) =
      (spelling? rest).map fun (text, left) => (symbols (escapedChar c) ++ text, left) := by
  cases hLetter : escapeLetter? c with
  | some letter =>
      obtain ⟨hRead, hNotNumber⟩ := escapedBy?_of_escapeLetter? hLetter
      rw [escapedChar, hLetter, spelling?.eq_def]
      simp [hNotNumber, hRead]
  | none =>
      obtain ⟨hNotQuote, hNotBackslash⟩ := ne_of_escapeLetter?_eq_none hLetter
      cases hControl : isControl c with
      | true =>
          have hSmall : c.toNat < 0x20 := of_decide_eq_true hControl
          have hRead := fourHexDigits?_control c.toNat hSmall
          rw [escapedChar, hLetter, hControl, if_pos rfl, hexDigits_control c.toNat hSmall,
            spelling?.eq_def]
          simp [hRead]
      | false =>
          rw [escapedChar, hLetter, hControl, if_neg Bool.false_ne_true, spelling?.eq_def]
          simp [hNotQuote, hNotBackslash, hControl]

/-- A text is taken as it is spelled, up to its closing quote. -/
theorem spelling?_escaped (text rest : List Char) :
    spelling? (symbols (text.flatMap escapedChar ++ '"' :: rest)) =
      some (symbols (text.flatMap escapedChar), symbols rest) := by
  induction text with
  | nil => rfl
  | cons c text ih =>
      rw [List.flatMap_cons, List.append_assoc, Text.symbols_append, spelling?_escapedChar, ih,
        Text.symbols_append]
      rfl

/-- One written character stands for its number. -/
theorem codesOfSpelling_escapedChar (c : Char) (rest : List Text.Symbol) :
    codesOfSpelling (symbols (escapedChar c) ++ rest) = c.toNat :: codesOfSpelling rest := by
  cases hLetter : escapeLetter? c with
  | some letter =>
      obtain ⟨hRead, hNotNumber⟩ := escapedBy?_of_escapeLetter? hLetter
      rw [escapedChar, hLetter, codesOfSpelling.eq_def]
      simp [hNotNumber, hRead]
  | none =>
      obtain ⟨-, hNotBackslash⟩ := ne_of_escapeLetter?_eq_none hLetter
      cases hControl : isControl c with
      | true =>
          have hSmall : c.toNat < 0x20 := of_decide_eq_true hControl
          have hRead := fourHexDigits?_control c.toNat hSmall
          rw [escapedChar, hLetter, hControl, if_pos rfl, hexDigits_control c.toNat hSmall,
            codesOfSpelling.eq_def]
          simp [hRead]
      | false =>
          rw [escapedChar, hLetter, hControl, if_neg Bool.false_ne_true, codesOfSpelling.eq_def]
          simp [hNotBackslash]

/-- What was escaped stands for the characters that it was escaped from. -/
theorem codesOfSpelling_escaped (text : List Char) :
    codesOfSpelling (symbols (text.flatMap escapedChar)) = text.map Char.toNat := by
  induction text with
  | nil => rfl
  | cons c text ih =>
      rw [List.flatMap_cons, Text.symbols_append, codesOfSpelling_escapedChar, ih, List.map_cons]

theorem toNat_ne_zero {c : Char} (hc : c ≠ '\x00') : c.toNat ≠ 0 := by
  intro hZero
  exact hc (Char.toNat_inj.mp hZero)

/-- A spelled text without NUL stands for its own characters. -/
theorem textOfSpelling_escaped {text : List Char} (hNul : '\x00' ∉ text) :
    textOfSpelling (symbols (text.flatMap escapedChar)) = symbols text := by
  have hAll : (text.map Char.toNat).takeWhile (· ≠ 0) = text.map Char.toNat := by
    rw [List.takeWhile_eq_self_iff]
    intro code hCode
    obtain ⟨c, hMem, rfl⟩ := List.mem_map.mp hCode
    exact decide_eq_true (toNat_ne_zero fun hSame => hNul (hSame ▸ hMem))
  rw [textOfSpelling, codesOfSpelling_escaped, hAll, symbolsOfCodes_toNat, symbols]

end Quoted

section Numbers

variable {numeral : Numeral} {rest : List Char}

/-- A numeral is made of characters that numbers may have. -/
theorem Numeral.WellFormed.isNumeric (hForm : numeral.WellFormed) :
    ∀ c ∈ numeral.text, isNumeric c = true := by
  have hDigit {digits : List Char} (hDigits : ∀ c ∈ digits, c.isDigit = true) :
      ∀ c ∈ digits, Metadata.isNumeric c = true := by
    intro c hc
    simp [Metadata.isNumeric, hDigits c hc]
  have hSign : ∀ c ∈ (if numeral.negative then ['-'] else []), Metadata.isNumeric c = true := by
    cases numeral.negative <;> simp [Metadata.isNumeric]
  have hFraction : ∀ c ∈ (if numeral.fraction.isEmpty then [] else '.' :: numeral.fraction),
      Metadata.isNumeric c = true := by
    split
    · simp
    · exact List.forall_mem_cons.mpr ⟨rfl, hDigit hForm.fractionDigits⟩
  have hExponent : ∀ c ∈ numeral.exponent, Metadata.isNumeric c = true := by
    rcases hForm.exponentForm with hNone | ⟨sign, digits, hExponent, hSign, -, hDigits⟩
    · simp [hNone]
    · rw [hExponent]
      refine List.forall_mem_cons.mpr ⟨rfl, List.forall_mem_cons.mpr ⟨?_, hDigit hDigits⟩⟩
      rcases hSign with rfl | rfl <;> rfl
  simp only [text, List.forall_mem_append]
  exact ⟨⟨⟨hSign, hDigit hForm.wholeDigits⟩, hFraction⟩, hExponent⟩

/-- A numeral is read up to what ends a value. -/
theorem number?_text (hForm : numeral.WellFormed) (hEnds : Ends rest) :
    number? (symbols (numeral.text ++ rest)) = some (numeral, symbols rest) := by
  have hStop : rest.takeWhile isNumeric = [] := by
    cases rest with
    | nil => rfl
    | cons c rest => rcases hEnds c rfl with rfl | rfl | rfl <;> rfl
  have hTaken : (numeral.text ++ rest).takeWhile isNumeric = numeral.text := by
    rw [List.takeWhile_append_of_pos hForm.isNumeric, hStop, List.append_nil]
  have hRead := hForm.numeral?_text ends_nil
  rw [List.append_nil] at hRead
  have hNumeric : (symbols (numeral.text ++ rest)).takeWhile (fun symbol => symbol.any isNumeric) =
      symbols numeral.text := by
    rw [Text.takeWhile_symbols]
    exact congrArg symbols hTaken
  rw [number?, hNumeric, Text.filterMap_symbols, hRead, Option.map_some]
  dsimp only
  rw [symbols, ← List.map_drop, List.drop_left, symbols]

end Numbers

section Nul

theorem nul_not_mem_escapedChar (c : Char) : '\x00' ∉ escapedChar c := by
  cases hLetter : escapeLetter? c with
  | some letter =>
      obtain ⟨hRead, -⟩ := escapedBy?_of_escapeLetter? hLetter
      rw [escapedChar, hLetter]
      intro hMem
      rcases List.mem_cons.mp hMem with hBackslash | hMem
      · cases hBackslash
      · rw [← List.mem_singleton.mp hMem] at hRead
        cases hRead
  | none =>
      cases hControl : isControl c with
      | true =>
          have hDigits : ∀ n < 0x20, '\x00' ∉ Text.hexDigits 4 n := by decide
          rw [escapedChar, hLetter, hControl, if_pos rfl]
          simpa using hDigits c.toNat (of_decide_eq_true hControl)
      | false =>
          rw [escapedChar, hLetter, hControl, if_neg Bool.false_ne_true, List.mem_singleton]
          rintro rfl
          cases hControl

/-- Quotes protect against NUL, so that no text in quotes ends early. -/
theorem nul_not_mem_quoted (text : List Char) : '\x00' ∉ quoted text := by
  simp only [quoted, List.mem_cons, List.mem_append, List.mem_flatMap, List.not_mem_nil, or_false]
  rintro (hQuote | ⟨c, -, hMem⟩ | hQuote)
  · cases hQuote
  · exact nul_not_mem_escapedChar c hMem
  · cases hQuote

theorem nul_not_mem_joined {texts : List (List Char)} (hTexts : ∀ text ∈ texts, '\x00' ∉ text) :
    '\x00' ∉ Text.joined [','] texts := by
  induction texts with
  | nil => simp [Text.joined]
  | cons first others ih =>
      rw [List.forall_mem_cons] at hTexts
      cases others with
      | nil => exact hTexts.1
      | cons second others =>
          rw [Text.joined]
          · simpa [hTexts.1] using ih hTexts.2
          · simp

/-- Numerals hold digits and marks only. -/
theorem nul_not_mem_numeral {numeral : Numeral} (hForm : numeral.WellFormed) :
    '\x00' ∉ numeral.text :=
  fun hMem => nomatch hForm.isNumeric _ hMem

/-- The texts of items are the texts of some of them. -/
theorem exists_of_mem_allWritten {items : List Value} {texts : List (List Char)}
    (hWritten : allWritten items = .ok texts) :
    ∀ text ∈ texts, ∃ item ∈ items, written item = .ok text := by
  induction items generalizing texts with
  | nil => cases hWritten; simp
  | cons item items ih =>
      obtain ⟨first, others, hFirst, hOthers, rfl⟩ := allWritten_cons hWritten
      rw [List.forall_mem_cons]
      refine ⟨⟨item, List.mem_cons_self, hFirst⟩, fun text hText => ?_⟩
      obtain ⟨other, hOther, hOtherText⟩ := ih hOthers text hText
      exact ⟨other, List.mem_cons_of_mem _ hOther, hOtherText⟩

theorem exists_of_mem_entriesWritten {entries : Mapping} {texts : List (List Char)}
    (hWritten : entriesWritten entries = .ok texts) :
    ∀ text ∈ texts, ∃ entry ∈ entries, ∃ name content, written entry.2 = .ok content ∧
      text = quoted name ++ ':' :: content := by
  induction entries generalizing texts with
  | nil => cases hWritten; simp
  | cons entry entries ih =>
      obtain ⟨key, value⟩ := entry
      obtain ⟨name, first, others, -, hFirst, hOthers, rfl⟩ := entriesWritten_cons hWritten
      rw [List.forall_mem_cons]
      refine ⟨⟨_, List.mem_cons_self, name, first, hFirst, rfl⟩, fun text hText => ?_⟩
      obtain ⟨other, hOther, hOtherText⟩ := ih hOthers text hText
      exact ⟨other, List.mem_cons_of_mem _ hOther, hOtherText⟩

/-- Reals are written without NUL. -/
theorem nul_not_mem_real (x : Binary64) : '\x00' ∉ Layout.metadata.text x := by
  cases hNumber : x.isNaN with
  | true =>
      rw [Layout.text, hNumber, if_pos rfl]
      decide
  | false =>
      cases hFinite : x.isInfinite with
      | true =>
          rw [Layout.text, hNumber, hFinite, if_neg Bool.false_ne_true, if_pos rfl]
          cases x.negative <;> dsimp only <;> decide
      | false =>
          obtain ⟨numeral, hForm, -, hText⟩ := exists_numeral_text hNumber hFinite
          rw [← hText]
          exact nul_not_mem_numeral hForm

theorem nul_not_mem_items {value : Value} {items : List Value}
    (hValue : value = .list items ∨ value = .tuple items)
    (hItems : ∀ item ∈ items, ∀ text, written item = .ok text → '\x00' ∉ text) {text : List Char}
    (hWritten : written value = .ok text) : '\x00' ∉ text := by
  obtain ⟨texts, hTexts, rfl⟩ := written_items hValue hWritten
  have hNone : ∀ text ∈ texts, '\x00' ∉ text := by
    intro text hText
    obtain ⟨item, hItem, hItemText⟩ := exists_of_mem_allWritten hTexts text hText
    exact hItems item hItem text hItemText
  simpa using nul_not_mem_joined hNone

/-- No written text holds a NUL. -/
theorem nul_not_mem_written (value : Value) : ∀ text, written value = .ok text → '\x00' ∉ text := by
  induction value using Value.parts_induction with
  | plain value hPlain =>
      intro text hWritten
      cases value with
      | null => cases hWritten; decide
      | bool b => cases b <;> cases hWritten <;> decide
      | int n =>
          obtain ⟨-, rfl⟩ := integerWritten_eq_ok hWritten
          rw [← integerNumeral_text]
          exact nul_not_mem_numeral (integerNumeral_wellFormed n)
      | real x => cases hWritten; exact nul_not_mem_real x
      | text s => cases hWritten; exact nul_not_mem_quoted s.toList
      | list _ | tuple _ | map _ => cases hPlain
      | _ => cases hWritten
  | list items ih => exact fun text hWritten => nul_not_mem_items (Or.inl rfl) ih hWritten
  | tuple items ih => exact fun text hWritten => nul_not_mem_items (Or.inr rfl) ih hWritten
  | map entries ih =>
      intro text hWritten
      obtain ⟨texts, hTexts, rfl⟩ := written_map hWritten
      have hNone : ∀ text ∈ texts, '\x00' ∉ text := by
        intro text hText
        obtain ⟨entry, hEntry, name, content, hContent, rfl⟩ :=
          exists_of_mem_entriesWritten hTexts text hText
        simpa [nul_not_mem_quoted name] using ih entry hEntry content hContent
      simpa using nul_not_mem_joined hNone

end Nul

end Metadata

end DeviceRegistry
