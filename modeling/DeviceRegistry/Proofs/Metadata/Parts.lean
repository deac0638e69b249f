import DeviceRegistry.Proofs.Metadata.Writing

/-! The parts of a value, and which values can be written as metadata. A value is refused exactly
for a part of it that has no text: one of a foreign kind, an integer with too many digits, or a
mapping with a key of such a kind. -/
namespace DeviceRegistry

namespace Value

/-- The first value stands somewhere in the second one, which may be that value itself. -/
inductive Occurs (part : Value) : Value → Prop where
  | here : Occurs part part
  | inList {items : List Value} {item : Value} (hItem : item ∈ items) (hInside : Occurs part item) :
      Occurs part (.list items)
  | inTuple {items : List Value} {item : Value} (hItem : item ∈ items)
      (hInside : Occurs part item) :
      Occurs part (.tuple items)
  | inMap {entries : Mapping} {entry : Value × Value} (hEntry : entry ∈ entries)
      (hInside : Occurs part entry.2) : Occurs part (.map entries)

def keys : Value → List Value
  | .map entries => entries.map Prod.fst
  | _ => []

/-- The value is made of other ones. The items of a set count as no parts, for no set is
ever written. -/
def hasParts : Value → Bool
  | .list _ | .tuple _ | .map _ => true
  | _ => false

def Throughout (holds : Value → Prop) (whole : Value) : Prop :=
  ∀ part, part.Occurs whole → holds part

section Throughout

variable {holds : Value → Prop} {whole : Value} {items : List Value} {entries : Mapping}

/-- What holds of all parts holds of the whole. -/
theorem Throughout.here (hAll : whole.Throughout holds) : holds whole := hAll whole .here

theorem Throughout.imp {other : Value → Prop} (hImp : ∀ part, holds part → other part)
    (hAll : whole.Throughout holds) : whole.Throughout other :=
  fun part hOccurs => hImp part (hAll part hOccurs)

/-- A list has a property throughout if it has it itself and all its items have it throughout. -/
theorem throughout_list :
    (Value.list items).Throughout holds ↔
      holds (.list items) ∧ ∀ item ∈ items, item.Throughout holds := by
  constructor
  · intro hAll
    exact ⟨hAll.here, fun item hItem part hInside => hAll part (.inList hItem hInside)⟩
  · rintro ⟨hHere, hItems⟩ part hOccurs
    cases hOccurs with
    | here => exact hHere
    | inList hItem hInside => exact hItems _ hItem part hInside

theorem throughout_tuple :
    (Value.tuple items).Throughout holds ↔
      holds (.tuple items) ∧ ∀ item ∈ items, item.Throughout holds := by
  constructor
  · intro hAll
    exact ⟨hAll.here, fun item hItem part hInside => hAll part (.inTuple hItem hInside)⟩
  · rintro ⟨hHere, hItems⟩ part hOccurs
    cases hOccurs with
    | here => exact hHere
    | inTuple hItem hInside => exact hItems _ hItem part hInside

theorem throughout_map :
    (Value.map entries).Throughout holds ↔
      holds (.map entries) ∧ ∀ entry ∈ entries, entry.2.Throughout holds := by
  constructor
  · intro hAll
    exact ⟨hAll.here, fun entry hEntry part hInside => hAll part (.inMap hEntry hInside)⟩
  · rintro ⟨hHere, hEntries⟩ part hOccurs
    cases hOccurs with
    | here => exact hHere
    | inMap hEntry hInside => exact hEntries _ hEntry part hInside

/-- A value without other parts has a property throughout if it has it. -/
theorem throughout_of_plain (hPlain : whole.hasParts = false) :
    whole.Throughout holds ↔ holds whole := by
  constructor
  · exact Throughout.here
  · intro hHere part hOccurs
    cases hOccurs with
    | here => exact hHere
    | _ => cases hPlain

end Throughout

/-- What holds of a value whenever it holds of its parts holds of all values. -/
theorem parts_induction {motive : Value → Prop}
    (plain : ∀ value, value.hasParts = false → motive value)
    (list : ∀ items, (∀ item ∈ items, motive item) → motive (.list items))
    (tuple : ∀ items, (∀ item ∈ items, motive item) → motive (.tuple items))
    (map : ∀ entries : Mapping, (∀ entry ∈ entries, motive entry.2) → motive (.map entries)) :
    ∀ value, motive value
  | .list items => list items fun item _ => parts_induction plain list tuple map item
  | .tuple items => tuple items fun item _ => parts_induction plain list tuple map item
  | .map entries => map entries fun entry _ => parts_induction plain list tuple map entry.2
  | .null | .bool _ | .int _ | .real _ | .text _ | .bytes _ _ | .set _ | .foreign => plain _ rfl
termination_by value => sizeOf value
decreasing_by
  all_goals rename_i hMem
  · have := List.sizeOf_lt_of_mem hMem
    simp only [Value.list.sizeOf_spec]
    omega
  · have := List.sizeOf_lt_of_mem hMem
    simp only [Value.tuple.sizeOf_spec]
    omega
  · have := List.sizeOf_lt_of_mem hMem
    obtain ⟨key, value⟩ := entry
    simp only [Value.map.sizeOf_spec, Prod.mk.sizeOf_spec] at this ⊢
    omega

end Value

namespace Metadata

def isShort (n : Int) : Bool := decide ((Nat.toDigits 10 n.natAbs).length ≤ 4300)

def hasText : Value → Bool
  | .null | .bool _ | .real _ | .text _ | .list _ | .tuple _ | .map _ => true
  | .int n => isShort n
  | .bytes _ _ | .set _ | .foreign => false

def isKey : Value → Bool
  | .null | .bool _ | .real _ | .text _ => true
  | .int n => isShort n
  | .list _ | .tuple _ | .map _ | .bytes _ _ | .set _ | .foreign => false

/-- The value and its keys have texts, its parts apart. -/
def IsWritten (part : Value) : Prop := hasText part = true ∧ ∀ key ∈ part.keys, isKey key = true

theorem integerWritten_of_isShort {n : Int} (hShort : isShort n = true) :
    integerWritten n = .ok (integerText n) := by
  have hFits : ¬ Value.maxDigits < (Nat.toDigits 10 n.natAbs).length :=
    Nat.not_lt.mpr (of_decide_eq_true hShort)
  rw [integerWritten, Value.isOversized, decide_eq_false hFits]
  rfl

/-- Exactly the short integers have a text. -/
theorem integerWritten_isOk_iff (n : Int) :
    (∃ text, integerWritten n = .ok text) ↔ isShort n = true := by
  constructor
  · rintro ⟨text, hWritten⟩
    have hFits := of_decide_eq_false (integerWritten_eq_ok hWritten).1
    exact decide_eq_true (Nat.not_lt.mp hFits)
  · exact fun hShort => ⟨_, integerWritten_of_isShort hShort⟩

/-- Exactly the keys have a text. -/
theorem keyText_isOk_iff (key : Value) : (∃ text, keyText key = .ok text) ↔ isKey key = true := by
  cases key with
  | int n => exact integerWritten_isOk_iff n
  | null => exact iff_of_true ⟨_, rfl⟩ rfl
  | bool b => cases b <;> exact iff_of_true ⟨_, rfl⟩ rfl
  | real x => exact iff_of_true ⟨_, rfl⟩ rfl
  | text s => exact iff_of_true ⟨_, rfl⟩ rfl
  | _ => exact iff_of_false (fun ⟨_, hText⟩ => nomatch hText) Bool.false_ne_true

theorem allWritten_isOk_iff (items : List Value) :
    (∃ texts, allWritten items = .ok texts) ↔ ∀ item ∈ items, ∃ text, written item = .ok text := by
  induction items with
  | nil => exact iff_of_true ⟨[], rfl⟩ (by simp)
  | cons item items ih =>
      rw [List.forall_mem_cons, ← ih]
      constructor
      · rintro ⟨texts, hWritten⟩
        obtain ⟨first, others, hFirst, hOthers, -⟩ := allWritten_cons hWritten
        exact ⟨⟨first, hFirst⟩, ⟨others, hOthers⟩⟩
      · rintro ⟨⟨first, hFirst⟩, ⟨others, hOthers⟩⟩
        exact ⟨first :: others, by rw [allWritten, hFirst, hOthers]; rfl⟩

theorem entriesWritten_isOk_iff (entries : Mapping) :
    (∃ texts, entriesWritten entries = .ok texts) ↔
      ∀ entry ∈ entries, isKey entry.1 = true ∧ ∃ text, written entry.2 = .ok text := by
  induction entries with
  | nil => exact iff_of_true ⟨[], rfl⟩ (by simp)
  | cons entry entries ih =>
      obtain ⟨key, value⟩ := entry
      rw [List.forall_mem_cons, ← ih, ← keyText_isOk_iff]
      constructor
      · rintro ⟨texts, hWritten⟩
        obtain ⟨name, first, others, hName, hFirst, hOthers, -⟩ := entriesWritten_cons hWritten
        exact ⟨⟨⟨name, hName⟩, ⟨first, hFirst⟩⟩, ⟨others, hOthers⟩⟩
      · rintro ⟨⟨⟨name, hName⟩, ⟨first, hFirst⟩⟩, ⟨others, hOthers⟩⟩
        exact ⟨_, by rw [entriesWritten, hName, hFirst, hOthers]; rfl⟩

/-- A list or a tuple has a text exactly when its items have texts. -/
theorem written_items_isOk_iff {value : Value} {items : List Value}
    (hValue : value = .list items ∨ value = .tuple items) :
    (∃ text, written value = .ok text) ↔ ∀ item ∈ items, ∃ text, written item = .ok text := by
  rw [← allWritten_isOk_iff]
  constructor
  · rintro ⟨text, hWritten⟩
    obtain ⟨texts, hTexts, -⟩ := written_items hValue hWritten
    exact ⟨texts, hTexts⟩
  · rintro ⟨texts, hTexts⟩
    refine ⟨'[' :: (Text.joined [','] texts ++ [']']), ?_⟩
    rcases hValue with rfl | rfl <;> rw [written, hTexts] <;> rfl

/-- A mapping has a text exactly if its keys can be keys and its values have texts. -/
theorem written_map_isOk_iff (entries : Mapping) :
    (∃ text, written (.map entries) = .ok text) ↔
      ∀ entry ∈ entries, isKey entry.1 = true ∧ ∃ text, written entry.2 = .ok text := by
  rw [← entriesWritten_isOk_iff]
  constructor
  · rintro ⟨text, hWritten⟩
    obtain ⟨texts, hTexts, -⟩ := written_map hWritten
    exact ⟨texts, hTexts⟩
  · rintro ⟨texts, hTexts⟩
    exact ⟨_, by rw [written, hTexts]; rfl⟩

theorem isWritten_of_keys_nil {value : Value} (hText : hasText value = true)
    (hKeys : value.keys = []) :
    IsWritten value :=
  ⟨hText, by simp [hKeys]⟩

/-- A value has a text exactly when all of its parts have one. -/
theorem written_isOk_iff (value : Value) :
    (∃ text, written value = .ok text) ↔ value.Throughout IsWritten := by
  induction value using Value.parts_induction with
  | plain value hPlain =>
      rw [Value.throughout_of_plain hPlain]
      cases value with
      | int n =>
          exact (integerWritten_isOk_iff n).trans
            ⟨fun hShort => isWritten_of_keys_nil hShort rfl, And.left⟩
      | bool b => cases b <;> exact iff_of_true ⟨_, rfl⟩ (isWritten_of_keys_nil rfl rfl)
      | null => exact iff_of_true ⟨_, rfl⟩ (isWritten_of_keys_nil rfl rfl)
      | real x => exact iff_of_true ⟨_, rfl⟩ (isWritten_of_keys_nil rfl rfl)
      | text s => exact iff_of_true ⟨_, rfl⟩ (isWritten_of_keys_nil rfl rfl)
      | list _ | tuple _ | map _ => cases hPlain
      | _ => exact iff_of_false (fun ⟨_, hText⟩ => nomatch hText) fun hWritten => nomatch hWritten.1
  | list items ih =>
      rw [written_items_isOk_iff (Or.inl rfl), Value.throughout_list]
      have hHere : IsWritten (.list items) := isWritten_of_keys_nil rfl rfl
      exact ⟨fun hAll => ⟨hHere, fun item hItem => (ih item hItem).mp (hAll item hItem)⟩,
        fun hAll item hItem => (ih item hItem).mpr (hAll.2 item hItem)⟩
  | tuple items ih =>
      rw [written_items_isOk_iff (Or.inr rfl), Value.throughout_tuple]
      have hHere : IsWritten (.tuple items) := isWritten_of_keys_nil rfl rfl
      exact ⟨fun hAll => ⟨hHere, fun item hItem => (ih item hItem).mp (hAll item hItem)⟩,
        fun hAll item hItem => (ih item hItem).mpr (hAll.2 item hItem)⟩
  | map entries ih =>
      rw [written_map_isOk_iff, Value.throughout_map]
      constructor
      · intro hAll
        refine ⟨⟨rfl, ?_⟩, fun entry hEntry => (ih entry hEntry).mp (hAll entry hEntry).2⟩
        exact List.forall_mem_map.mpr fun entry hEntry => (hAll entry hEntry).1
      · rintro ⟨⟨-, hKeys⟩, hAll⟩ entry hEntry
        exact ⟨hKeys entry.1 (List.mem_map_of_mem hEntry),
          (ih entry hEntry).mpr (hAll entry hEntry)⟩

/-- Metadata is stored exactly when all of its parts have texts. -/
theorem encode_isOk_iff (entries : Mapping) :
    (∃ text, encode (.map entries) = .ok text) ↔ (Value.map entries).Throughout IsWritten := by
  rw [← written_isOk_iff]
  constructor
  · rintro ⟨text, hEncoded⟩
    exact ⟨_, written_of_encode hEncoded⟩
  · rintro ⟨text, hWritten⟩
    rw [encode]
    split
    · exact ⟨_, rfl⟩
    · exact ⟨String.ofList text, by rw [hWritten]; rfl⟩

end Metadata

end DeviceRegistry
