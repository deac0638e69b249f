import DeviceRegistry.Proofs.Metadata.RoundTrip
import DeviceRegistry.Proofs.Metadata.Spelling

/-! The storage engine reads written metadata as the document that was written: the same kinds of
parts in the same order, texts as they are spelled, numbers as they are written. Its compact text is
the written text again. The engine reads no real that is called by a name: reading stops there, and
then nothing of the text is found. -/
namespace DeviceRegistry

def Value.HasDigits (part : Value) : Prop :=
  ∀ x, part = .real x → x.isNaN = false ∧ x.isInfinite = false

namespace Metadata

open Text (symbols)

def keySpelling (key : Value) : List Text.Symbol :=
  symbols (((keyText key).toOption.getD []).flatMap escapedChar)

def realNumeral (x : Binary64) : Numeral :=
  (numeral? (Layout.metadata.text x)).elim (integerNumeral 0) Prod.fst

mutual

def nodeOf : Value → Node
  | .null => .null
  | .bool b => .bool b
  | .int n => .number (integerNumeral n)
  | .real x => .number (realNumeral x)
  | .text s => .text (symbols (s.toList.flatMap escapedChar))
  | .list items | .tuple items => .list (nodesOf items)
  | .map entries => .map (namedNodesOf entries)
  | .bytes _ _ | .set _ | .foreign => .null

def nodesOf : List Value → List Node
  | [] => []
  | item :: items => nodeOf item :: nodesOf items

def namedNodesOf : List (Value × Value) → List (List Text.Symbol × Node)
  | [] => []
  | (key, value) :: entries => (keySpelling key, nodeOf value) :: namedNodesOf entries

end

mutual

/-- What the engine finds where a value is written: the document that was written, and nothing where
a real in it has no digits. -/
def found? : Value → Option Node
  | .real x => if x.isNaN || x.isInfinite then none else some (.number (realNumeral x))
  | .list items | .tuple items => (allFound? items).map .list
  | .map entries => (namedFound? entries).map .map
  | value => some (nodeOf value)

def allFound? : List Value → Option (List Node)
  | [] => some []
  | item :: items => (found? item).bind fun node => (allFound? items).map (node :: ·)

def namedFound? : List (Value × Value) → Option (List (List Text.Symbol × Node))
  | [] => some []
  | (key, value) :: entries =>
      (found? value).bind fun node => (namedFound? entries).map ((keySpelling key, node) :: ·)

end

section Found

variable {value : Value} {items : List Value} {entries : Mapping}

/-- Nothing but the document that was written is found, and it is found exactly where all reals
have digits. -/
def IsFoundExactly (value : Value) : Prop :=
  ∀ node, found? value = some node ↔ value.Throughout Value.HasDigits ∧ nodeOf value = node

theorem allFound?_eq_some_iff (hItems : ∀ item ∈ items, IsFoundExactly item) (nodes : List Node) :
    allFound? items = some nodes ↔
      (∀ item ∈ items, item.Throughout Value.HasDigits) ∧ nodesOf items = nodes := by
  induction items generalizing nodes with
  | nil => simp [allFound?, nodesOf]
  | cons item items ih =>
      rw [List.forall_mem_cons] at hItems ⊢
      rw [allFound?, nodesOf, Option.bind_eq_some_iff]
      constructor
      · rintro ⟨node, hNode, hRest⟩
        obtain ⟨others, hOthers, rfl⟩ := Option.map_eq_some_iff.mp hRest
        obtain ⟨hDigits, rfl⟩ := (hItems.1 node).mp hNode
        obtain ⟨hAll, rfl⟩ := (ih hItems.2 others).mp hOthers
        exact ⟨⟨hDigits, hAll⟩, rfl⟩
      · rintro ⟨⟨hDigits, hAll⟩, rfl⟩
        exact ⟨_, (hItems.1 _).mpr ⟨hDigits, rfl⟩,
          Option.map_eq_some_iff.mpr ⟨_, (ih hItems.2 _).mpr ⟨hAll, rfl⟩, rfl⟩⟩

/-- Entries are found exactly where their values have digits throughout. -/
theorem namedFound?_eq_some_iff (hEntries : ∀ entry ∈ entries, IsFoundExactly entry.2)
    (nodes : List (List Text.Symbol × Node)) :
    namedFound? entries = some nodes ↔
      (∀ entry ∈ entries, entry.2.Throughout Value.HasDigits) ∧ namedNodesOf entries = nodes := by
  induction entries generalizing nodes with
  | nil => simp [namedFound?, namedNodesOf]
  | cons entry entries ih =>
      obtain ⟨key, value⟩ := entry
      rw [List.forall_mem_cons] at hEntries ⊢
      rw [namedFound?, namedNodesOf, Option.bind_eq_some_iff]
      constructor
      · rintro ⟨node, hNode, hRest⟩
        obtain ⟨others, hOthers, rfl⟩ := Option.map_eq_some_iff.mp hRest
        obtain ⟨hDigits, rfl⟩ := (hEntries.1 node).mp hNode
        obtain ⟨hAll, rfl⟩ := (ih hEntries.2 others).mp hOthers
        exact ⟨⟨hDigits, hAll⟩, rfl⟩
      · rintro ⟨⟨hDigits, hAll⟩, rfl⟩
        exact ⟨_, (hEntries.1 _).mpr ⟨hDigits, rfl⟩,
          Option.map_eq_some_iff.mpr ⟨_, (ih hEntries.2 _).mpr ⟨hAll, rfl⟩, rfl⟩⟩

theorem hasDigits_of_ne_real (hOther : ∀ x, value ≠ .real x) : value.HasDigits :=
  fun x hReal => absurd hReal (hOther x)

theorem hasDigits_real_iff (x : Binary64) :
    (Value.real x).HasDigits ↔ ¬ (x.isNaN || x.isInfinite) = true := by
  rw [Bool.or_eq_true, not_or, Bool.not_eq_true, Bool.not_eq_true]
  constructor
  · exact fun hDigits => hDigits x rfl
  · rintro hDigits y hSame
    cases hSame
    exact hDigits

theorem IsFoundExactly.ofItems (hValue : value = .list items ∨ value = .tuple items)
    (hItems : ∀ item ∈ items, IsFoundExactly item) : IsFoundExactly value := by
  intro node
  have hAll : value.Throughout Value.HasDigits ↔
      ∀ item ∈ items, item.Throughout Value.HasDigits := by
    rcases hValue with rfl | rfl
    · rw [Value.throughout_list, and_iff_right (hasDigits_of_ne_real (by simp))]
    · rw [Value.throughout_tuple, and_iff_right (hasDigits_of_ne_real (by simp))]
  have hFound : found? value = (allFound? items).map .list := by
    rcases hValue with rfl | rfl <;> rfl
  have hNode : nodeOf value = .list (nodesOf items) := by rcases hValue with rfl | rfl <;> rfl
  rw [hAll, hFound, hNode, Option.map_eq_some_iff]
  simp only [allFound?_eq_some_iff hItems, and_assoc, exists_and_left, exists_eq_left']

/-- A mapping is found exactly where its values are. -/
theorem IsFoundExactly.ofEntries (hEntries : ∀ entry ∈ entries, IsFoundExactly entry.2) :
    IsFoundExactly (.map entries) := by
  intro node
  rw [Value.throughout_map, and_iff_right (hasDigits_of_ne_real (by simp)), found?, nodeOf,
    Option.map_eq_some_iff]
  simp only [namedFound?_eq_some_iff hEntries, and_assoc, exists_and_left, exists_eq_left']

/-- The engine finds a value exactly where each of its reals has digits, and finds the document that
was written. -/
theorem found?_eq_some_iff (value : Value) : IsFoundExactly value := by
  induction value using Value.parts_induction with
  | plain value hPlain =>
      intro node
      rw [Value.throughout_of_plain hPlain]
      cases value with
      | real x =>
          rw [hasDigits_real_iff, found?, nodeOf]
          split <;> simp [*]
      | list _ | tuple _ | map _ => cases hPlain
      | _ => simp [found?, hasDigits_of_ne_real]
  | list items ih => exact .ofItems (Or.inl rfl) ih
  | tuple items ih => exact .ofItems (Or.inr rfl) ih
  | map entries ih => exact .ofEntries ih

end Found

section Reading

variable {fuel : Nat} {text rest more name : List Char} {found : Option Node}

/-- A list is found with the items that are found in it. -/
theorem readNode?_list (hStarts : Starts text) :
    readNode? (fuel + 1) (symbols ('[' :: text)) =
      (readNodes? fuel (symbols text)).map fun (items, left) => (.list items, left) := by
  have hBlank : afterBlanks (symbols text) =
      symbols text := by rw [afterBlanks_symbols, hStarts.afterSpace_eq]
  obtain ⟨c, after, rfl, -, hBracket, -⟩ := hStarts
  rw [Text.symbols_cons, readNode?]
  simp only [hBlank]
  rw [Text.symbols_cons]
  split
  · rename_i hClosed
    cases hClosed
    exact absurd rfl hBracket
  · rfl

theorem readNode?_map (hStarts : Starts text) :
    readNode? (fuel + 1) (symbols ('\x7b' :: text)) =
      (readNamed? fuel (symbols text)).map fun (entries, left) => (.map entries, left) := by
  have hBlank : afterBlanks (symbols text) =
      symbols text := by rw [afterBlanks_symbols, hStarts.afterSpace_eq]
  obtain ⟨c, after, rfl, -, -, hBrace⟩ := hStarts
  rw [Text.symbols_cons, readNode?]
  simp only [hBlank]
  rw [Text.symbols_cons]
  split
  · rename_i hClosed
    cases hClosed
    exact absurd rfl hBrace
  · rfl

/-- A text in quotes is found as it was spelled. -/
theorem readNode?_quoted :
    readNode? (fuel + 1) (symbols (quoted name ++ rest)) =
      some (.text (symbols (name.flatMap escapedChar)), symbols rest) := by
  have hQuoted : quoted name ++ rest =
      '"' :: (name.flatMap escapedChar ++ '"' :: rest) := by simp [quoted]
  rw [hQuoted, Text.symbols_cons, readNode?, spelling?_escaped]
  rfl

/-- A numeral starts neither a text nor a list nor a mapping nor a word. -/
theorem readNode?_numeral {numeral : Numeral} (hForm : numeral.WellFormed) (hEnds : Ends rest) :
    readNode? (fuel + 1) (symbols (numeral.text ++ rest)) =
      some (.number numeral, symbols rest) := by
  have hRead := number?_text hForm hEnds
  obtain ⟨c, after, hDigit, hHead⟩ := hForm.text_head rest
  have hOther : c ≠ '"' ∧ c ≠ '[' ∧ c ≠ '\x7b' ∧ c ≠ 'n' ∧ c ≠ 't' ∧ c ≠ 'f' := by
    refine ⟨?_, ?_, ?_, ?_, ?_, ?_⟩ <;> rintro rfl <;> revert hDigit <;> decide
  rcases hHead with hHead | hHead
  · rw [hHead] at hRead ⊢
    rw [Text.symbols_cons] at hRead ⊢
    rw [readNode?.eq_def]
    simp [hOther, hRead]
  · rw [hHead] at hRead ⊢
    rw [Text.symbols_cons, Text.symbols_cons] at hRead ⊢
    rw [readNode?.eq_def]
    simp [hRead]

/-- Neither of the two names by which reals are written starts a value. -/
theorem readNode?_name {x : Binary64} (hName : (x.isNaN || x.isInfinite) = true) :
    readNode? (fuel + 1) (symbols (Layout.metadata.text x ++ rest)) = none := by
  cases hNumber : x.isNaN with
  | true =>
      rw [Layout.text, hNumber, if_pos rfl]
      rfl
  | false =>
      rw [hNumber, Bool.false_or] at hName
      rw [Layout.text, hNumber, hName, if_neg Bool.false_ne_true, if_pos rfl]
      cases x.negative <;> rfl

theorem readNodes?_last
    (hItem : readNode? fuel (symbols text) = found.map (·, symbols (']' :: rest))) :
    readNodes? (fuel + 1) (symbols text) = found.map fun item => ([item], symbols rest) := by
  rw [readNodes?, hItem]
  cases found <;> rfl

theorem readNodes?_more
    (hItem : readNode? fuel (symbols text) = found.map (·, symbols (',' :: more)))
    (hMore : Starts more) :
    readNodes? (fuel + 1) (symbols text) =
      found.bind fun item => (readNodes? fuel (symbols more)).map fun (items, left) =>
        (item :: items, left) := by
  have hBlank : afterBlanks (symbols more) =
      symbols more := by rw [afterBlanks_symbols, hMore.afterSpace_eq]
  rw [readNodes?, hItem]
  cases found with
  | none => rfl
  | some item =>
      change (readNodes? fuel (afterBlanks (symbols more)) >>= fun found => pure
        (item :: found.1, found.2)) = _
      rw [hBlank]
      cases readNodes? fuel (symbols more) <;> rfl

/-- The name of an entry is read first, and then its value. -/
theorem readNamed?_quoted (hText : Starts text) :
    readNamed? (fuel + 1) (symbols (quoted name ++ ':' :: text)) =
      (readNode? fuel (symbols text)).bind fun (node, rest) =>
        match afterBlanks rest with
        | some '\x7d' :: left => some ([(symbols (name.flatMap escapedChar), node)], left)
        | some ',' :: more => (readNamed? fuel (afterBlanks more)).bind fun (entries, left) =>
            some ((symbols (name.flatMap escapedChar), node) :: entries, left)
        | _ => none := by
  have hQuoted : quoted name ++ ':' :: text =
      '"' :: (name.flatMap escapedChar ++ '"' :: ':' :: text) := by
    simp [quoted]
  have hBlank : afterBlanks (symbols text) =
      symbols text := by rw [afterBlanks_symbols, hText.afterSpace_eq]
  have hColon : afterBlanks (symbols (':' :: text)) = some ':' :: symbols text := rfl
  rw [hQuoted, Text.symbols_cons, readNamed?]
  simp only [spelling?_escaped, Option.bind_eq_bind, Option.bind_some, hColon, hBlank]
  rfl

theorem readNamed?_last (hText : Starts text)
    (hValue : readNode? fuel (symbols text) = found.map (·, symbols ('\x7d' :: rest))) :
    readNamed? (fuel + 1) (symbols (quoted name ++ ':' :: text)) =
      found.map fun node => ([(symbols (name.flatMap escapedChar), node)], symbols rest) := by
  rw [readNamed?_quoted hText, hValue]
  cases found <;> rfl

theorem readNamed?_more (hText : Starts text)
    (hValue : readNode? fuel (symbols text) = found.map (·, symbols (',' :: more)))
    (hMore : Starts more) :
    readNamed? (fuel + 1) (symbols (quoted name ++ ':' :: text)) =
      found.bind fun node => (readNamed? fuel (symbols more)).map fun (entries, left) =>
        ((symbols (name.flatMap escapedChar), node) :: entries, left) := by
  have hBlank : afterBlanks (symbols more) =
      symbols more := by rw [afterBlanks_symbols, hMore.afterSpace_eq]
  have hComma : afterBlanks (symbols (',' :: more)) = some ',' :: symbols more := rfl
  rw [readNamed?_quoted hText, hValue]
  cases found with
  | none => rfl
  | some node =>
      simp only [Option.map_some, Option.bind_some, hComma, hBlank]
      cases readNamed? fuel (symbols more) <;> rfl

end Reading

section Compact

variable {value : Value} {items : List Value} {entries : Mapping}

theorem joined_symbols (texts : List (List Char)) :
    Text.joined [some ','] (texts.map symbols) = symbols (Text.joined [','] texts) := by
  induction texts with
  | nil => rfl
  | cons first others ih =>
      cases others with
      | nil => rfl
      | cons second others =>
          rw [joined_cons_cons, Text.symbols_append, Text.symbols_cons, ← ih]
          simp [Text.joined]

theorem realNumeral_text {x : Binary64} (hNumber : x.isNaN = false)
    (hFinite : x.isInfinite = false) :
    (realNumeral x).WellFormed ∧ (realNumeral x).text = Layout.metadata.text x := by
  obtain ⟨numeral, hForm, -, hText⟩ := exists_numeral_text hNumber hFinite
  have hRead := hForm.numeral?_text ends_nil
  rw [List.append_nil] at hRead
  rw [realNumeral, ← hText, hRead]
  exact ⟨hForm, rfl⟩

theorem keySpelling_of_ok {key : Value} {name : List Char} (hName : keyText key = .ok name) :
    keySpelling key = symbols (name.flatMap escapedChar) := by
  rw [keySpelling, hName]
  rfl

/-- The compact text of the document of a value is the text of the value. -/
def IsCompact (value : Value) : Prop :=
  ∀ text, written value = .ok text → (nodeOf value).compact = symbols text

/-- The compact texts of items are the texts that were written. -/
theorem allCompact_nodesOf (hItems : ∀ item ∈ items, IsCompact item) {texts : List (List Char)}
    (hWritten : allWritten items = .ok texts) : allCompact (nodesOf items) = texts.map symbols := by
  induction items generalizing texts with
  | nil => cases hWritten; rfl
  | cons item items ih =>
      obtain ⟨first, others, hFirst, hOthers, rfl⟩ := allWritten_cons hWritten
      rw [List.forall_mem_cons] at hItems
      rw [nodesOf, allCompact, hItems.1 first hFirst, ih hItems.2 hOthers, List.map_cons]

theorem entriesCompact_namedNodesOf (hEntries : ∀ entry ∈ entries, IsCompact entry.2)
    {texts : List (List Char)} (hWritten : entriesWritten entries = .ok texts) :
    entriesCompact (namedNodesOf entries) = texts.map symbols := by
  induction entries generalizing texts with
  | nil => cases hWritten; rfl
  | cons entry entries ih =>
      obtain ⟨key, value⟩ := entry
      obtain ⟨name, first, others, hName, hFirst, hOthers, rfl⟩ := entriesWritten_cons hWritten
      rw [List.forall_mem_cons] at hEntries
      rw [namedNodesOf, entriesCompact, keySpelling_of_ok hName, hEntries.1 first hFirst,
        ih hEntries.2 hOthers, List.map_cons]
      simp [quoted]

theorem IsCompact.ofItems (hValue : value = .list items ∨ value = .tuple items)
    (hItems : ∀ item ∈ items, IsCompact item) : IsCompact value := by
  intro text hWritten
  obtain ⟨texts, hTexts, rfl⟩ := written_items hValue hWritten
  have hNode : nodeOf value = .list (nodesOf items) := by rcases hValue with rfl | rfl <;> rfl
  rw [hNode, Node.compact, allCompact_nodesOf hItems hTexts, joined_symbols]
  simp

/-- Whatever is stored is stored without white space between its parts. -/
theorem compact_nodeOf (hDigits : value.Throughout Value.HasDigits) : IsCompact value := by
  induction value using Value.parts_induction with
  | plain value hPlain =>
      intro text hWritten
      cases value with
      | null => cases hWritten; rfl
      | bool b => cases b <;> cases hWritten <;> rfl
      | int n =>
          obtain ⟨-, rfl⟩ := integerWritten_eq_ok hWritten
          rw [nodeOf, Node.compact, integerNumeral_text]
      | real x =>
          obtain ⟨hNumber, hFinite⟩ := hDigits.here x rfl
          cases hWritten
          rw [nodeOf, Node.compact, (realNumeral_text hNumber hFinite).2]
      | text s =>
          cases hWritten
          simp [nodeOf, Node.compact, quoted]
      | list _ | tuple _ | map _ => cases hPlain
      | _ => cases hWritten
  | list items ih =>
      rw [Value.throughout_list] at hDigits
      exact .ofItems (Or.inl rfl) fun item hItem => ih item hItem (hDigits.2 item hItem)
  | tuple items ih =>
      rw [Value.throughout_tuple] at hDigits
      exact .ofItems (Or.inr rfl) fun item hItem => ih item hItem (hDigits.2 item hItem)
  | map entries ih =>
      rw [Value.throughout_map] at hDigits
      intro text hWritten
      obtain ⟨texts, hTexts, rfl⟩ := written_map hWritten
      have hEntries := entriesCompact_namedNodesOf
        (fun entry hEntry => ih entry hEntry (hDigits.2 entry hEntry)) hTexts
      rw [nodeOf, Node.compact, hEntries, joined_symbols]
      simp

end Compact

section Whole

variable {value : Value} {items : List Value} {entries : Mapping}

/-- Reading at the text of the value comes to what is found of the value, wherever something that
ends a value follows. As many steps as the text has characters are enough. -/
def IsRead (value : Value) : Prop :=
  ∀ text, written value = .ok text → ∀ fuel rest, text.length ≤ fuel → Ends rest →
    readNode? fuel (symbols (text ++ rest)) = (found? value).map (·, symbols rest)

theorem readNodes?_written (hItems : ∀ item ∈ items, IsRead item) {texts : List (List Char)}
    (hWritten : allWritten items = .ok texts) (hSome : items ≠ []) (fuel : Nat) (rest : List Char)
    (hFuel : (Text.joined [','] texts).length < fuel) :
    readNodes? fuel (symbols (Text.joined [','] texts ++ ']' :: rest)) =
      (allFound? items).map (·, symbols rest) := by
  induction items generalizing texts fuel with
  | nil => exact absurd rfl hSome
  | cons item items ih =>
      rw [List.forall_mem_cons] at hItems
      obtain ⟨first, others, hFirst, hOthers, rfl⟩ := allWritten_cons hWritten
      obtain ⟨fuel, rfl⟩ : ∃ less, fuel = less + 1 := ⟨fuel - 1, by omega⟩
      cases items with
      | nil =>
          cases hOthers
          rw [Text.joined] at hFuel ⊢
          rw [readNodes?_last (hItems.1 first hFirst fuel _ (by omega) (ends_bracket rest)),
            allFound?]
          cases found? item <;> rfl
      | cons next items =>
          obtain ⟨second, others, hSecond, -, rfl⟩ := allWritten_cons hOthers
          rw [joined_cons_cons, List.length_append, List.length_cons] at hFuel
          have hMore := (starts_joined (starts_written hSecond) others).append (']' :: rest)
          have hRead :=
            hItems.1 first hFirst fuel
              (',' :: (Text.joined [','] (second :: others) ++ ']' :: rest))
            (by omega) (ends_comma _)
          rw [allFound?, joined_cons_cons, List.append_assoc, List.cons_append,
            readNodes?_more hRead hMore,
            ih hItems.2 hOthers (List.cons_ne_nil _ _) fuel (by omega)]
          simp [Option.map_bind, Function.comp_def]

/-- Entries that were written are found up to the brace behind them. -/
theorem readNamed?_written (hEntries : ∀ entry ∈ entries, IsRead entry.2) {texts : List (List Char)}
    (hWritten : entriesWritten entries = .ok texts) (hSome : entries ≠ []) (fuel : Nat)
    (rest : List Char) (hFuel : (Text.joined [','] texts).length < fuel) :
    readNamed? fuel (symbols (Text.joined [','] texts ++ '\x7d' :: rest)) =
      (namedFound? entries).map (·, symbols rest) := by
  induction entries generalizing texts fuel with
  | nil => exact absurd rfl hSome
  | cons entry entries ih =>
      obtain ⟨key, value⟩ := entry
      rw [List.forall_mem_cons] at hEntries
      obtain ⟨name, first, others, hName, hFirst, hOthers, rfl⟩ := entriesWritten_cons hWritten
      obtain ⟨fuel, rfl⟩ : ∃ less, fuel = less + 1 := ⟨fuel - 1, by omega⟩
      rw [namedFound?, keySpelling_of_ok hName]
      cases entries with
      | nil =>
          cases hOthers
          rw [Text.joined, List.length_append, List.length_cons] at hFuel
          rw [Text.joined, List.append_assoc, List.cons_append]
          rw [readNamed?_last ((starts_written hFirst).append _)
            (hEntries.1 first hFirst fuel _ (by omega) (ends_brace rest))]
          cases found? value <;> rfl
      | cons next entries =>
          obtain ⟨nextKey, nextValue⟩ := next
          obtain ⟨nextName, second, others, -, -, -, rfl⟩ := entriesWritten_cons hOthers
          have hQuote : Starts (quoted nextName ++ ':' :: second) := ⟨'"', _, rfl, by decide⟩
          have hMore := (starts_joined hQuote others).append ('\x7d' :: rest)
          have hRest := fun h => ih hEntries.2 hOthers (List.cons_ne_nil _ _) fuel h
          generalize hSecondText :
            quoted nextName ++ ':' :: second = secondText at hMore hRest hFuel ⊢
          rw [joined_cons_cons, List.length_append, List.length_append, List.length_cons,
            List.length_cons]
            at hFuel
          have hRead := hEntries.1 first hFirst fuel
            (',' :: (Text.joined [','] (secondText :: others) ++ '\x7d' :: rest))
            (by omega) (ends_comma _)
          rw [joined_cons_cons, List.append_assoc, List.append_assoc, List.cons_append,
            List.cons_append,
            readNamed?_more ((starts_written hFirst).append _) hRead hMore, hRest (by omega)]
          simp [Option.map_bind, Function.comp_def]

theorem IsRead.ofItems (hValue : value = .list items ∨ value = .tuple items)
    (hItems : ∀ item ∈ items, IsRead item) : IsRead value := by
  intro text hWritten fuel rest hFuel _
  obtain ⟨texts, hTexts, rfl⟩ := written_items hValue hWritten
  have hFound : found? value = (allFound? items).map .list := by
    rcases hValue with rfl | rfl <;> rfl
  rw [List.length_cons, List.length_append] at hFuel
  obtain ⟨fuel, rfl⟩ : ∃ less, fuel = less + 1 := ⟨fuel - 1, by omega⟩
  cases items with
  | nil =>
      cases hTexts
      rw [hFound]
      rfl
  | cons item items =>
      obtain ⟨first, others, hFirst, -, rfl⟩ := allWritten_cons hTexts
      have hStarts := (starts_joined (starts_written hFirst) others).append (']' :: rest)
      rw [List.cons_append, List.append_assoc, List.singleton_append, readNode?_list hStarts,
        readNodes?_written hItems hTexts (List.cons_ne_nil _ _) fuel rest
          (by simp at hFuel; omega), hFound]
      simp [Function.comp_def]

/-- A mapping is read where its entries are. -/
theorem IsRead.ofEntries (hEntries : ∀ entry ∈ entries, IsRead entry.2) :
    IsRead (.map entries) := by
  intro text hWritten fuel rest hFuel _
  obtain ⟨texts, hTexts, rfl⟩ := written_map hWritten
  rw [List.length_cons, List.length_append] at hFuel
  obtain ⟨fuel, rfl⟩ : ∃ less, fuel = less + 1 := ⟨fuel - 1, by omega⟩
  cases entries with
  | nil =>
      cases hTexts
      rfl
  | cons entry entries =>
      obtain ⟨key, value⟩ := entry
      obtain ⟨name, first, others, -, -, -, rfl⟩ := entriesWritten_cons hTexts
      have hQuote : Starts (quoted name ++ ':' :: first) := ⟨'"', _, rfl, by decide⟩
      have hStarts := (starts_joined hQuote others).append ('\x7d' :: rest)
      rw [List.cons_append, List.append_assoc, List.singleton_append, readNode?_map hStarts,
        readNamed?_written hEntries hTexts (List.cons_ne_nil _ _) fuel rest
          (by simp at hFuel; omega), found?]
      simp [Function.comp_def]

/-- A value without parts is read in one step. -/
theorem IsRead.of_step
    (hStep : ∀ text, written value = .ok text → ∀ fuel rest, Ends rest →
      readNode? (fuel + 1) (symbols (text ++ rest)) = (found? value).map (·, symbols rest)) :
        IsRead value := by
  intro text hWritten fuel rest hFuel hEnds
  obtain ⟨c, after, rfl, -⟩ := starts_written hWritten
  rw [List.length_cons] at hFuel
  obtain ⟨fuel, rfl⟩ : ∃ less, fuel = less + 1 := ⟨fuel - 1, by omega⟩
  exact hStep _ hWritten fuel rest hEnds

/-- Whatever was written is found when the engine reads it. -/
theorem isRead (value : Value) : IsRead value := by
  induction value using Value.parts_induction with
  | plain value hPlain =>
      apply IsRead.of_step
      intro text hWritten fuel rest hEnds
      cases value with
      | null => cases hWritten; rfl
      | bool b => cases b <;> cases hWritten <;> rfl
      | int n =>
          obtain ⟨-, rfl⟩ := integerWritten_eq_ok hWritten
          rw [← integerNumeral_text, readNode?_numeral (integerNumeral_wellFormed n) hEnds]
          rfl
      | real x =>
          cases hWritten
          rw [found?]
          split
          · rename_i hName
            rw [readNode?_name hName]
            rfl
          · rename_i hName
            obtain ⟨hNumber, hFinite⟩ := (hasDigits_real_iff x).mpr hName x rfl
            obtain ⟨hForm, hText⟩ := realNumeral_text hNumber hFinite
            rw [← hText, readNode?_numeral hForm hEnds]
            rfl
      | text s =>
          cases hWritten
          rw [readNode?_quoted]
          rfl
      | list _ | tuple _ | map _ => cases hPlain
      | _ => cases hWritten
  | list items ih => exact .ofItems (Or.inl rfl) ih
  | tuple items ih => exact .ofItems (Or.inr rfl) ih
  | map entries ih => exact .ofEntries ih

/-- The engine reads the whole of a written text, for it neither starts with white space nor
holds a NUL. -/
theorem document?_eq_found? {text : List Char} (hWritten : written value = .ok text) :
    document? (symbols text) = found? value := by
  have hNoNul : (symbols text).takeWhile (· ≠ some '\x00') = symbols text := by
    rw [List.takeWhile_eq_self_iff]
    intro symbol hSymbol
    obtain ⟨c, hMem, rfl⟩ := List.mem_map.mp hSymbol
    exact decide_eq_true fun hSame => nul_not_mem_written value text hWritten
      (Option.some.inj hSame ▸ hMem)
  have hLength : (symbols text).length = text.length := List.length_map _
  have hRead := isRead value text hWritten (2 * text.length + 2) [] (by omega) ends_nil
  rw [List.append_nil] at hRead
  rw [document?, hNoNul, hLength, afterBlanks_symbols,
    (starts_written hWritten).afterSpace_eq, hRead]
  cases found? value <;> rfl

/-- The engine reads a stored text as the document that was written. -/
theorem document?_written (hDigits : value.Throughout Value.HasDigits) {text : List Char}
    (hWritten : written value = .ok text) : document? (symbols text) = some (nodeOf value) := by
  rw [document?_eq_found? hWritten, found?_eq_some_iff]
  exact ⟨hDigits, rfl⟩

/-- The engine reads a written text exactly where none of its reals lacks digits. -/
theorem document?_isSome_iff {text : List Char} (hWritten : written value = .ok text) :
    (document? (symbols text)).isSome = true ↔ value.Throughout Value.HasDigits := by
  rw [document?_eq_found? hWritten, Option.isSome_iff_exists]
  constructor
  · rintro ⟨node, hFound⟩
    exact ((found?_eq_some_iff value node).mp hFound).1
  · exact fun hDigits => ⟨_, (found?_eq_some_iff value _).mpr ⟨hDigits, rfl⟩⟩

end Whole

end Metadata

end DeviceRegistry
