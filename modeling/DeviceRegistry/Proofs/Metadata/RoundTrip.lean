import DeviceRegistry.Metadata.Column
import DeviceRegistry.Proofs.Metadata.Writing

/-! Written metadata is read back. A value comes back in its normal form, in which tuples are lists,
keys are texts and reals are those that their text denotes. -/
namespace DeviceRegistry

def Binary64.reread (x : Binary64) : Binary64 :=
  if x.isNaN then nan
  else if x.isInfinite then infinity x.negative
  else (Metadata.numeral? (Layout.metadata.text x)).elim x fun found => found.1.real

namespace Binary64

variable {x : Binary64}

/-- A real that is a number is the one that its text denotes. -/
theorem reread_eq (hNumber : x.isNaN = false) : x.reread = x := by
  rw [reread, hNumber, if_neg Bool.false_ne_true]
  cases hFinite : x.isInfinite with
  | true =>
      rw [if_pos rfl, infinity]
      exact ofRank_eq (of_decide_eq_true hFinite).symm le_rfl
  | false =>
      obtain ⟨numeral, hForm, -, hText, hReal⟩ := Metadata.exists_numeral_of_finite hNumber hFinite
      have hAlone := hForm.numeral?_text Metadata.ends_nil
      rw [List.append_nil] at hAlone
      rw [if_neg Bool.false_ne_true, ← hText, hAlone, Option.elim_some, hReal]

/-- A real that is read back from its text has the same text again. -/
theorem text_reread (x : Binary64) : Layout.metadata.text x.reread = Layout.metadata.text x := by
  cases hNumber : x.isNaN with
  | true =>
      have hNaN : nan.isNaN = true := rfl
      rw [reread, hNumber, if_pos rfl, Layout.text, Layout.text, hNaN, hNumber,
        if_pos rfl, if_pos rfl]
  | false => rw [reread_eq hNumber]

/-- What was reread once stays as it is. -/
theorem reread_reread (x : Binary64) : x.reread.reread = x.reread := by
  cases hNumber : x.isNaN with
  | true =>
      have hSame : x.reread = nan := by rw [reread, hNumber, if_pos rfl]
      have hNaN : nan.isNaN = true := rfl
      rw [hSame, reread, hNaN, if_pos rfl]
  | false => rw [reread_eq hNumber, reread_eq hNumber]

end Binary64

namespace Metadata

def nameOfKey (key : Value) : String := String.ofList ((keyText key).toOption.getD [])

mutual

def normal : Value → Value
  | .real x => .real x.reread
  | .list items | .tuple items => .list (allNormal items)
  | .map entries => .map (Mapping.ofEntries (entriesNormal entries))
  | value => value

def allNormal : List Value → List Value
  | [] => []
  | item :: items => normal item :: allNormal items

def entriesNormal : List (Value × Value) → List (Value × Value)
  | [] => []
  | (key, value) :: entries => (.text (nameOfKey key), normal value) :: entriesNormal entries

end

/-- A real is read back as the real that its text denotes. -/
theorem readValue_real (x : Binary64) {fuel : Nat} {rest : List Char} (hEnds : Ends rest) :
    readValue (fuel + 1) (Layout.metadata.text x ++ rest) = .ok (.real x.reread, rest) := by
  cases hNumber : x.isNaN with
  | true =>
      rw [Binary64.reread, hNumber, Layout.text, hNumber]
      rfl
  | false =>
      cases hFinite : x.isInfinite with
      | true =>
          rw [Binary64.reread, Layout.text, hNumber, hFinite]
          cases x.negative <;> rfl
      | false =>
          obtain ⟨numeral, hForm, hReal, hText⟩ := exists_numeral_text hNumber hFinite
          have hAlone := hForm.numeral?_text ends_nil
          rw [List.append_nil] at hAlone
          rw [Binary64.reread, hNumber, hFinite, ← hText, readValue_numeral hForm hEnds,
            hAlone, numeralValue, hReal]
          rfl

/-- The value is read back from its text, in its normal form, wherever something that ends a value
follows. As many steps as the text has characters are enough. -/
def ReadsBack (value : Value) : Prop :=
  ∀ text, written value = .ok text → ∀ fuel rest, text.length ≤ fuel → Ends rest →
    readValue fuel (text ++ rest) = .ok (normal value, rest)

def ItemsReadBack (items : List Value) : Prop :=
  ∀ texts, allWritten items = .ok texts → items ≠ [] → ∀ fuel rest,
    (Text.joined [','] texts).length < fuel →
    readItems fuel (Text.joined [','] texts ++ ']' :: rest) = .ok (allNormal items, rest)

def EntriesReadBack (entries : Mapping) : Prop :=
  ∀ texts, entriesWritten entries = .ok texts → entries ≠ [] → ∀ fuel rest,
    (Text.joined [','] texts).length < fuel →
    readEntries fuel (Text.joined [','] texts ++ '\x7d' :: rest) = .ok (entriesNormal entries, rest)

theorem joined_cons_cons (first second : List Char) (others : List (List Char)) :
    Text.joined [','] (first :: second :: others) = first ++ ',' :: Text.joined [',']
      (second :: others) := by
  simp [Text.joined]

theorem starts_joined {first : List Char} (hFirst : Starts first) (others : List (List Char)) :
    Starts (Text.joined [','] (first :: others)) := by
  cases others with
  | nil => exact hFirst
  | cons second others =>
      rw [joined_cons_cons]
      exact hFirst.append _

theorem ItemsReadBack.cons {item : Value} {items : List Value} (hItem : ReadsBack item)
    (hItems : ItemsReadBack items) : ItemsReadBack (item :: items) := by
  intro texts hWritten _ fuel rest hFuel
  obtain ⟨first, others, hFirst, hOthers, rfl⟩ := allWritten_cons hWritten
  obtain ⟨fuel, rfl⟩ : ∃ less, fuel = less + 1 := ⟨fuel - 1, by omega⟩
  cases items with
  | nil =>
      cases hOthers
      rw [Text.joined] at hFuel ⊢
      rw [readItems_last (hItem first hFirst fuel _ (by omega) (ends_bracket rest))]
      rfl
  | cons next items =>
      obtain ⟨second, others, hSecond, -, rfl⟩ := allWritten_cons hOthers
      rw [joined_cons_cons, List.length_append, List.length_cons] at hFuel
      have hMore := (starts_joined (starts_written hSecond) others).append (']' :: rest)
      have hRead :=
        hItem first hFirst fuel (',' :: (Text.joined [','] (second :: others) ++ ']' :: rest))
        (by omega) (ends_comma _)
      rw [joined_cons_cons, List.append_assoc, List.cons_append, readItems_more hRead hMore,
        hItems _ hOthers (List.cons_ne_nil _ _) fuel rest (by omega)]
      rfl

theorem EntriesReadBack.cons {key value : Value} {entries : Mapping} (hValue : ReadsBack value)
    (hEntries : EntriesReadBack entries) : EntriesReadBack ((key, value) :: entries) := by
  intro texts hWritten _ fuel rest hFuel
  obtain ⟨name, first, others, hName, hFirst, hOthers, rfl⟩ := entriesWritten_cons hWritten
  obtain ⟨fuel, rfl⟩ : ∃ less, fuel = less + 1 := ⟨fuel - 1, by omega⟩
  have hNameOfKey : nameOfKey key = String.ofList name := by rw [nameOfKey, hName]; rfl
  cases entries with
  | nil =>
      cases hOthers
      rw [Text.joined, List.length_append, List.length_cons] at hFuel
      rw [Text.joined, List.append_assoc, List.cons_append,
        readEntries_last ((starts_written hFirst).append _)
          (hValue first hFirst fuel _ (by omega) (ends_brace rest)), entriesNormal, hNameOfKey]
      rfl
  | cons next entries =>
      obtain ⟨nextKey, nextValue⟩ := next
      obtain ⟨nextName, second, others, -, -, -, rfl⟩ := entriesWritten_cons hOthers
      have hQuote : Starts (quoted nextName ++ ':' :: second) := ⟨'"', _, rfl, by decide⟩
      have hMore := (starts_joined hQuote others).append ('\x7d' :: rest)
      have hRest := fun h => hEntries _ hOthers (List.cons_ne_nil _ _) fuel rest h
      generalize hSecondText : quoted nextName ++ ':' :: second = secondText at hMore hRest hFuel ⊢
      rw [joined_cons_cons, List.length_append, List.length_append, List.length_cons,
        List.length_cons] at hFuel
      have hRead := hValue first hFirst fuel
        (',' :: (Text.joined [','] (secondText :: others) ++ '\x7d' :: rest))
        (by omega) (ends_comma _)
      rw [joined_cons_cons, List.append_assoc, List.append_assoc, List.cons_append,
        List.cons_append,
        readEntries_more ((starts_written hFirst).append _) hRead hMore,
        hRest (by omega), ← hNameOfKey]
      rfl

/-- A list and a tuple are read back where their items are. -/
theorem ReadsBack.items {value : Value} {items : List Value}
    (hValue : value = .list items ∨ value = .tuple items) (hItems : ItemsReadBack items) :
    ReadsBack value := by
  intro text hWritten fuel rest hFuel _
  obtain ⟨texts, hTexts, rfl⟩ := written_items hValue hWritten
  have hNormal : normal value = .list (allNormal items) := by rcases hValue with rfl | rfl <;> rfl
  rw [List.length_cons, List.length_append] at hFuel
  obtain ⟨fuel, rfl⟩ : ∃ less, fuel = less + 1 := ⟨fuel - 1, by omega⟩
  cases items with
  | nil =>
      cases hTexts
      rw [hNormal]
      rfl
  | cons item items =>
      obtain ⟨first, others, hFirst, -, rfl⟩ := allWritten_cons hTexts
      have hStarts := (starts_joined (starts_written hFirst) others).append (']' :: rest)
      rw [List.cons_append, List.append_assoc, List.singleton_append, readValue_list hStarts,
        hItems _ hTexts (List.cons_ne_nil _ _) fuel rest (by simp at hFuel; omega), hNormal]
      rfl

/-- A mapping is read back where its entries are. -/
theorem ReadsBack.map {entries : Mapping} (hEntries : EntriesReadBack entries) :
    ReadsBack (.map entries) := by
  intro text hWritten fuel rest hFuel _
  obtain ⟨texts, hTexts, rfl⟩ := written_map hWritten
  rw [List.length_cons, List.length_append] at hFuel
  obtain ⟨fuel, rfl⟩ : ∃ less, fuel = less + 1 := ⟨fuel - 1, by omega⟩
  cases entries with
  | nil =>
      cases hTexts
      rfl
  | cons entry entries =>
      obtain ⟨key, value⟩ := entry
      obtain ⟨name, first, others, -, -, -, rfl⟩ := entriesWritten_cons hTexts
      have hQuote : Starts (quoted name ++ ':' :: first) := ⟨'"', _, rfl, by decide⟩
      have hStarts := (starts_joined hQuote others).append ('\x7d' :: rest)
      rw [List.cons_append, List.append_assoc, List.singleton_append, readValue_map hStarts,
        hEntries _ hTexts (List.cons_ne_nil _ _) fuel rest (by simp at hFuel; omega)]
      rfl

/-- A value without parts is read back in one step. -/
theorem ReadsBack.of_step {value : Value}
    (hStep : ∀ text, written value = .ok text → ∀ fuel rest, Ends rest →
      readValue (fuel + 1) (text ++ rest) = .ok (normal value, rest)) : ReadsBack value := by
  intro text hWritten fuel rest hFuel hEnds
  obtain ⟨c, after, rfl, -⟩ := starts_written hWritten
  rw [List.length_cons] at hFuel
  obtain ⟨fuel, rfl⟩ : ∃ less, fuel = less + 1 := ⟨fuel - 1, by omega⟩
  exact hStep _ hWritten fuel rest hEnds

theorem ReadsBack.bool (b : Bool) : ReadsBack (.bool b) := by
  apply of_step
  intro text hWritten fuel rest _
  cases b <;> cases hWritten <;> rfl

theorem ReadsBack.int (n : Int) : ReadsBack (.int n) := by
  apply of_step
  intro text hWritten fuel rest hEnds
  obtain ⟨hShort, rfl⟩ := integerWritten_eq_ok hWritten
  exact readValue_integer hShort hEnds

/-- A real is read back as the one that its text denotes. -/
theorem ReadsBack.real (x : Binary64) : ReadsBack (.real x) := by
  apply of_step
  intro text hWritten fuel rest hEnds
  cases hWritten
  exact readValue_real x hEnds

theorem ReadsBack.text (s : String) : ReadsBack (.text s) := by
  apply of_step
  intro text hWritten fuel rest _
  cases hWritten
  have hQuoted : quoted s.toList ++ rest =
      '"' :: (s.toList.flatMap escapedChar ++ '"' :: rest) := by
    simp [quoted]
  rw [hQuoted, readValue_quote, textBody_quoted, String.ofList_toList]
  rfl

mutual

/-- Every value that can be written is read back. -/
theorem readsBack : (value : Value) → ReadsBack value
  | .null => .of_step fun _ hWritten _ _ _ => by cases hWritten; rfl
  | .bool b => .bool b
  | .int n => .int n
  | .real x => .real x
  | .text s => .text s
  | .list items => .items (Or.inl rfl) (itemsReadBack items)
  | .tuple items => .items (Or.inr rfl) (itemsReadBack items)
  | .map entries => .map (entriesReadBack entries)
  | .bytes _ _ | .set _ | .foreign => .of_step fun _ hWritten => by cases hWritten

theorem itemsReadBack : (items : List Value) → ItemsReadBack items
  | [] => fun _ _ hSome => absurd rfl hSome
  | item :: items => .cons (readsBack item) (itemsReadBack items)

theorem entriesReadBack : (entries : List (Value × Value)) → EntriesReadBack entries
  | [] => fun _ _ hSome => absurd rfl hSome
  | (_, value) :: entries => .cons (readsBack value) (entriesReadBack entries)

end

/-- A whole text that a value was written as is read back. -/
theorem readWhole_written {value : Value} {text : List Char} (hWritten : written value = .ok text)
    (hMark : text.head? ≠ some '\ufeff') : readWhole text = .ok (normal value) := by
  have hRead := readsBack value text hWritten (2 * text.length + 2) [] (by omega) ends_nil
  rw [List.append_nil] at hRead
  rw [readWhole, if_neg hMark, (starts_written hWritten).afterSpace_eq, hRead]
  rfl

/-- Metadata that can be written is read back from its text, in its normal form. -/
theorem decode_encode {entries : Mapping} {text : String}
    (hEncoded : encode (.map entries) = .ok text) :
    decode (.text text) = .ok (Mapping.ofEntries (entriesNormal entries)) := by
  have hWritten := written_of_encode hEncoded
  have hMark : text.toList.head? ≠ some '\ufeff' := by
    obtain ⟨texts, -, hText⟩ := written_map hWritten
    simp [hText]
  rw [decode, decodeText, readWhole_written hWritten hMark]
  rfl

end Metadata

end DeviceRegistry
