import DeviceRegistry.Proofs.Metadata.NormalForm
import DeviceRegistry.Proofs.Metadata.Searched

/-! Values that can be searched for. Every such value can be written, is read back as itself, and is
found by the storage engine as the document that was written, so that different values have
different texts. -/
namespace DeviceRegistry

/-- A part that can be searched for: null, a truth value, an integer of sixty-four bits, a text
without NUL, a list, or a mapping whose keys are different texts without NUL. -/
def Value.IsSearchable : Value → Prop
  | .null | .bool _ | .list _ => True
  | .int n => Number.fitsWord n = true
  | .text s => '\x00' ∉ s.toList
  | .map entries => (∀ key ∈ entries.map Prod.fst, ∃ s, key = .text s ∧ '\x00' ∉ s.toList) ∧
      (entries.map Prod.fst).Nodup
  | .real _ | .bytes _ _ | .tuple _ | .set _ | .foreign => False

def Value.isAskableKey : Value → Bool
  | .null | .bool _ | .text _ => true
  | .int n => Number.fitsWord n
  | _ => false

/-- A part that can be asked for: null, a truth value, an integer of sixty-four bits, a text, a
list, a tuple, or a mapping whose keys are null, truth values, such integers or texts. -/
def Value.IsAskable : Value → Prop
  | .null | .bool _ | .text _ | .list _ | .tuple _ => True
  | .int n => Number.fitsWord n = true
  | .map entries => ∀ key ∈ entries.map Prod.fst, key.isAskableKey = true
  | .real _ | .bytes _ _ | .set _ | .foreign => False

namespace Metadata

open Text (symbols)

/-- Nineteen digits are enough for an integer of sixty-four bits. -/
theorem isShort_of_fitsWord {n : Int} (hFits : Number.fitsWord n = true) : isShort n = true := by
  have hBounds := of_decide_eq_true hFits
  have hWord : n.natAbs < 10 ^ 19 := by omega
  have hDigits : (Nat.toDigits 10 n.natAbs).length ≤ 19 :=
    (Nat.length_toDigits_le_iff (by decide) (by decide)).mpr hWord
  exact decide_eq_true (hDigits.trans (by decide))

section Askable

variable {part key : Value}

/-- What may stand as a key in a filter may be written as one. -/
theorem isKey_of_isAskableKey (hKey : key.isAskableKey = true) : isKey key = true := by
  cases key with
  | null | bool _ | text _ => rfl
  | int n => exact isShort_of_fitsWord hKey
  | _ => cases hKey

theorem isWritten_of_isAskable (hAskable : part.IsAskable) : IsWritten part := by
  cases part with
  | null | bool _ | list _ | tuple _ | text _ => exact isWritten_of_keys_nil rfl rfl
  | int n => exact isWritten_of_keys_nil (isShort_of_fitsWord hAskable) rfl
  | map entries => exact ⟨rfl, fun key hKey => isKey_of_isAskableKey (hAskable key hKey)⟩
  | _ => cases hAskable

theorem hasDigits_of_isAskable (hAskable : part.IsAskable) : part.HasDigits := by
  rintro x rfl
  cases hAskable

/-- What can be searched for can be asked for. -/
theorem isAskable_of_isSearchable (hSearchable : part.IsSearchable) : part.IsAskable := by
  cases part with
  | null | bool _ | list _ | text _ => trivial
  | int n => exact hSearchable
  | map entries =>
      intro key hKey
      obtain ⟨s, rfl, -⟩ := hSearchable.1 key hKey
      rfl
  | _ => cases hSearchable

end Askable

section Searchable

variable {part value : Value}

theorem isWritten_of_isSearchable (hSearchable : part.IsSearchable) : IsWritten part :=
  isWritten_of_isAskable (isAskable_of_isSearchable hSearchable)

theorem isRealFree_of_isSearchable (hSearchable : part.IsSearchable) : part.IsRealFree := by
  cases part with
  | null | bool _ | list _ | text _ | int _ => exact ⟨rfl, by simp [Value.keys]⟩
  | map entries =>
      refine ⟨rfl, fun key hKey => ?_⟩
      obtain ⟨s, rfl, -⟩ := hSearchable.1 key hKey
      rfl
  | _ => cases hSearchable

theorem isPlain_of_isSearchable (hSearchable : part.IsSearchable) : part.IsPlain := by
  cases part with
  | null | bool _ | list _ | text _ | int _ => exact ⟨rfl, by simp [Value.keys], List.nodup_nil⟩
  | map entries =>
      refine ⟨rfl, fun key hKey => ?_, hSearchable.2⟩
      obtain ⟨s, hText, -⟩ := hSearchable.1 key hKey
      exact ⟨s, hText⟩
  | _ => cases hSearchable

theorem hasDigits_of_isSearchable (hSearchable : part.IsSearchable) : part.HasDigits :=
  hasDigits_of_isAskable (isAskable_of_isSearchable hSearchable)

/-- All that can be asked for can be written. -/
theorem exists_written (hAskable : value.Throughout Value.IsAskable) :
    ∃ text, written value = .ok text :=
  (written_isOk_iff value).mpr (hAskable.imp fun _ => isWritten_of_isAskable)

/-- A value that can be searched for is read back as itself. -/
theorem normal_of_isSearchable (hSearchable : value.Throughout Value.IsSearchable) :
    normal value = value := by
  calc
    normal value = normalForm value :=
      normal_eq_normalForm (hSearchable.imp fun _ => isWritten_of_isSearchable)
        (hSearchable.imp fun _ => isRealFree_of_isSearchable)
    _ = value := normalForm_eq_self (hSearchable.imp fun _ => isPlain_of_isSearchable)

/-- Values that can be searched for have different texts. -/
theorem written_injective {other : Value} (hSearchable : value.Throughout Value.IsSearchable)
    (hOther : other.Throughout Value.IsSearchable) {text : List Char}
    (hWritten : written value = .ok text) (hSame : written other = .ok text) : value = other := by
  have hValue := readsBack value text hWritten text.length [] (Nat.le_refl _) ends_nil
  have hRead := readsBack other text hSame text.length [] (Nat.le_refl _) ends_nil
  rw [hValue, normal_of_isSearchable hSearchable, normal_of_isSearchable hOther] at hRead
  cases hRead
  rfl

theorem namedNodesOf_eq_map (entries : Mapping) :
    namedNodesOf entries = entries.map fun entry => (keySpelling entry.1, nodeOf entry.2) := by
  induction entries with
  | nil => rfl
  | cons entry entries ih => rw [namedNodesOf, ih, List.map_cons]

/-- A key without NUL stands for its own characters. -/
theorem textOfSpelling_keySpelling {s : String} (hNul : '\x00' ∉ s.toList) :
    textOfSpelling (keySpelling (.text s)) = symbols s.toList := by
  rw [keySpelling_of_ok rfl]
  exact textOfSpelling_escaped hNul

/-- The engine finds the values of a mapping under its keys. -/
theorem entries_nodeOf_map {entries : Mapping} (hSearchable : (Value.map entries).IsSearchable) :
    (nodeOf (.map entries)).entries =
      entries.map fun entry => (.name (symbols (keyName entry.1).toList), nodeOf entry.2) := by
  rw [nodeOf, namedNodesOf_eq_map, Node.entries, List.map_map]
  apply List.map_congr_left
  intro entry hEntry
  obtain ⟨s, hText, hNul⟩ := hSearchable.1 entry.1 (List.mem_map_of_mem hEntry)
  rw [Function.comp, hText, keyName]
  dsimp only
  rw [textOfSpelling_keySpelling hNul]

/-- The engine takes an integer of sixty-four bits as it is. -/
theorem storedNumber_integerNumeral {n : Int} (hFits : Number.fitsWord n = true) :
    storedNumber (integerNumeral n) = .whole n := by
  have hInteger : (integerNumeral n).isInteger = true := rfl
  rw [storedNumber, integerNumeral_integer, hInteger, hFits, Bool.and_self, if_pos rfl]

end Searchable

end Metadata

end DeviceRegistry
