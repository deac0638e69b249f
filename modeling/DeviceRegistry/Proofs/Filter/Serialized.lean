import DeviceRegistry.Proofs.Filter.Alike
import DeviceRegistry.Proofs.Filter.Containment

/-! A filter and the form in which it would be stored. Metadata is stored with all of its keys
turned into texts, and a filter is compared as it is given. The two come to the same where the keys
that a filter looks for are texts, and a filter with any other key finds nothing at all, not even
metadata that was saved with that key. -/
namespace DeviceRegistry

namespace Value

mutual

/-- The keys of a mapping, and of the mappings inside it, are texts. Mappings in lists do
not count. -/
def hasTextKeys : Value → Bool
  | .map entries => entriesHaveTextKeys entries
  | _ => true

def entriesHaveTextKeys : List (Value × Value) → Bool
  | [] => true
  | (key, value) :: entries => key.isText && hasTextKeys value && entriesHaveTextKeys entries

end

def NamesDiffer (part : Value) : Prop := (part.keys.map Metadata.keyName).Nodup

/-- No NUL stands in the text, nor in a key that is a text. -/
def IsNulFree (part : Value) : Prop :=
  (∀ s, part = .text s → '\x00' ∉ s.toList) ∧ ∀ s, .text s ∈ part.keys → '\x00' ∉ s.toList

/-- Text keys are asked of a mapping and of all mappings in it. -/
theorem hasTextKeys_map_iff (entries : Mapping) :
    (Value.map entries).hasTextKeys = true ↔
      ∀ entry ∈ entries, (∃ s, entry.1 = .text s) ∧ entry.2.hasTextKeys = true := by
  rw [hasTextKeys]
  induction entries with
  | nil => exact iff_of_true rfl (by simp)
  | cons entry entries ih =>
      obtain ⟨key, value⟩ := entry
      rw [entriesHaveTextKeys, Bool.and_eq_true, Bool.and_eq_true, ih, List.forall_mem_cons]
      refine and_congr_left fun _ => and_congr_left fun _ => ⟨eq_text_of_isText, ?_⟩
      rintro ⟨s, hText⟩
      rw [show key = .text s from hText]
      rfl

end Value

namespace Metadata

section NormalForm

variable {value : Value} {entries : Mapping}

theorem isRealFree_of_isAskable (hAskable : value.IsAskable) : value.IsRealFree := by
  cases value with
  | null | bool _ | int _ | text _ | list _ | tuple _ => exact ⟨rfl, by simp [Value.keys]⟩
  | map entries =>
      refine ⟨rfl, fun key hKey => ?_⟩
      have hAskableKey := hAskable key hKey
      cases key with
      | real x => cases hAskableKey
      | _ => rfl
  | _ => cases hAskable

/-- A key that can be asked for is written under its own name. -/
theorem keyText_keyName {key : Value} (hKey : key.isAskableKey = true) :
    keyText key = .ok (keyName key).toList := by
  cases key with
  | null => rfl
  | bool b => cases b <;> rfl
  | int n =>
      rw [keyText, integerWritten_of_isShort (isShort_of_fitsWord hKey), keyName,
        ← ofList_integerText, String.toList_ofList]
  | text s => rfl
  | _ => cases hKey

/-- Nothing collapses in a mapping whose keys are stored under different names. -/
theorem collapsed_namedNormalForm (hNames : (Value.map entries).NamesDiffer) :
    collapsed (namedNormalForm entries) =
      entries.map fun entry => (.text (keyName entry.1), normalForm entry.2) := by
  have hNodup : ((namedNormalForm entries).map Prod.fst).Nodup := by
    rw [Value.NamesDiffer, Value.keys, List.map_map] at hNames
    rw [namedNormalForm_eq_map, List.map_map]
    exact hNames
  rw [collapsed_of_nodup hNodup, namedNormalForm_eq_map, List.map_map]
  rfl

/-- A value and the form in which it comes back are written alike. -/
theorem written_normalForm (hAskable : value.Throughout Value.IsAskable)
    (hNames : value.Throughout Value.NamesDiffer) :
    written (normalForm value) = written value := by
  induction value using Value.parts_induction with
  | plain value hPlain =>
      cases value with
      | list _ | tuple _ | map _ => cases hPlain
      | _ => rfl
  | list items ih =>
      rw [Value.throughout_list] at hAskable hNames
      rw [normalForm, allNormalForm_eq_map, written, written,
        allWritten_map fun item hItem => ih item hItem (hAskable.2 item hItem)
          (hNames.2 item hItem)]
  | tuple items ih =>
      rw [Value.throughout_tuple] at hAskable hNames
      rw [normalForm, allNormalForm_eq_map, written, written,
        allWritten_map fun item hItem => ih item hItem (hAskable.2 item hItem)
          (hNames.2 item hItem)]
  | map entries ih =>
      rw [Value.throughout_map] at hAskable hNames
      rw [normalForm, collapsed_namedNormalForm hNames.1, written, written,
        entriesWritten_map fun entry hEntry => ?_]
      have hKey := keyText_keyName (hAskable.1 entry.1 (List.mem_map_of_mem hEntry))
      exact ⟨hKey.symm, ih entry hEntry (hAskable.2 entry hEntry) (hNames.2 entry hEntry)⟩

end NormalForm

end Metadata

namespace Filter

open Metadata (nodeOf written normalForm)
open Text (symbols)

namespace MetadataPart

section Serialized

variable {value : Value} {entries : Mapping}

/-- Lists are asked for by their texts. -/
theorem AreAlike.of_written {first second : Value} {items others : List Value}
    (hFirst : first = .list items ∨ first = .tuple items)
    (hSecond : second = .list others ∨ second = .tuple others)
    (hSame : written first = written second) : AreAlike first second := by
  constructor
  · rcases hFirst with rfl | rfl <;> rcases hSecond with rfl | rfl <;>
      simp only [valueParameters, valueParameters.listParameters, hSame]
  · intro node
    cases node with
    | list nodes =>
        rcases hFirst with rfl | rfl <;> rcases hSecond with rfl | rfl <;>
          simp only [agrees, agrees.sameText, hSame]
    | _ => rcases hFirst with rfl | rfl <;> rcases hSecond with rfl | rfl <;> rfl
  all_goals rcases hFirst with rfl | rfl <;> rcases hSecond with rfl | rfl <;> rfl

/-- A filter whose keys are texts is alike the form in which it is stored. -/
theorem entriesAlike_normalForm (hKeys : ∀ entry ∈ entries, ∃ s, entry.1 = .text s)
    (hValues : ∀ entry ∈ entries, AreAlike entry.2 (normalForm entry.2)) :
    EntriesAlike entries
      (entries.map fun entry => (.text (Metadata.keyName entry.1), normalForm entry.2)) := by
  refine List.forall₂_map_right_iff.mpr
    (List.forall₂_same.mpr fun entry hEntry => ⟨?_, hValues entry hEntry⟩)
  obtain ⟨s, hText⟩ := hKeys entry hEntry
  rw [hText, Metadata.keyName]

/-- A value with texts for its keys and the form in which it would be stored ask for the same. -/
theorem areAlike_normalForm (hAskable : value.Throughout Value.IsAskable)
    (hNames : value.Throughout Value.NamesDiffer) (hKeys : value.hasTextKeys = true) :
    AreAlike value (normalForm value) := by
  induction value using Value.parts_induction with
  | plain value hPlain =>
      cases value with
      | list _ | tuple _ | map _ => cases hPlain
      | _ => exact .refl _
  | list items ih =>
      exact .of_written (Or.inl rfl) (Or.inl rfl) (Metadata.written_normalForm hAskable hNames).symm
  | tuple items ih =>
      exact .of_written (Or.inr rfl) (Or.inl rfl) (Metadata.written_normalForm hAskable hNames).symm
  | map entries ih =>
      rw [Value.hasTextKeys_map_iff] at hKeys
      rw [Value.throughout_map] at hAskable hNames
      rw [normalForm, Metadata.collapsed_namedNormalForm hNames.1]
      refine (entriesAlike_normalForm (fun entry hEntry => (hKeys entry hEntry).1)
        fun entry hEntry => ?_).map
      exact ih entry hEntry (hAskable.2 entry hEntry) (hNames.2 entry hEntry) (hKeys entry hEntry).2

/-- The entries of a filter with texts for its keys ask for the same as those of the form in which
it would be stored. -/
theorem entriesAlike_collapsed (hAskable : (Value.map entries).Throughout Value.IsAskable)
    (hNames : (Value.map entries).Throughout Value.NamesDiffer)
    (hKeys : (Value.map entries).hasTextKeys = true) :
    EntriesAlike entries (Metadata.collapsed (Metadata.namedNormalForm entries)) := by
  rw [Value.hasTextKeys_map_iff] at hKeys
  rw [Value.throughout_map] at hAskable hNames
  rw [Metadata.collapsed_namedNormalForm hNames.1]
  refine entriesAlike_normalForm (fun entry hEntry => (hKeys entry hEntry).1) fun entry hEntry => ?_
  exact areAlike_normalForm (hAskable.2 entry hEntry) (hNames.2 entry hEntry) (hKeys entry hEntry).2

end Serialized

section Found

variable {value : Value} {entries : Mapping} {node : Metadata.Node}

/-- An entry of a filter is contained if some entry of the document agrees with it. -/
theorem contained_iff (entries : Mapping) (node : Metadata.Node) :
    contained entries node = true ↔ ∀ entry ∈ entries, ∃ found ∈ node.entries,
      findsKey entry.1 found.1 = true ∧ agrees entry.2 found.2 = true := by
  induction entries with
  | nil => exact iff_of_true rfl (by simp)
  | cons entry entries ih =>
      obtain ⟨key, value⟩ := entry
      rw [contained, Bool.and_eq_true, ih, List.forall_mem_cons, List.any_eq_true]
      simp only [Bool.and_eq_true]

/-- No key but a text finds an entry of a mapping. -/
theorem exists_text_of_findsKey {key : Value} {name : List Text.Symbol}
    (hFinds : findsKey key (.name name) = true) :
    ∃ s, key = .text s := by
  cases key with
  | text s => exact ⟨s, rfl⟩
  | _ => cases hFinds

/-- Only texts are found among the names of a document. -/
theorem exists_text_of_contained {named : List (List Text.Symbol × Metadata.Node)}
    (hContained : contained entries (.map named) = true) :
    ∀ entry ∈ entries, ∃ s, entry.1 = .text s := by
  intro entry hEntry
  obtain ⟨found, hFound, hFinds, -⟩ := (contained_iff entries _).mp hContained entry hEntry
  obtain ⟨⟨name, node⟩, -, rfl⟩ := List.mem_map.mp hFound
  exact exists_text_of_findsKey hFinds

/-- Whatever agrees with some document has texts for its keys. -/
theorem hasTextKeys_of_agrees (hAgrees : agrees value node = true) : value.hasTextKeys = true := by
  induction value using Value.parts_induction generalizing node with
  | plain value hPlain =>
      cases value with
      | map _ => cases hPlain
      | _ => rfl
  | list items ih => rfl
  | tuple items ih => rfl
  | map entries ih =>
      cases node with
      | map named =>
          rw [agrees] at hAgrees
          refine (Value.hasTextKeys_map_iff entries).mpr fun entry hEntry =>
            ⟨exists_text_of_contained hAgrees entry hEntry, ?_⟩
          obtain ⟨found, -, -, hFound⟩ := (contained_iff entries _).mp hAgrees entry hEntry
          exact ih entry hEntry hFound
      | _ => cases hAgrees

/-- The entries of a written mapping, each under its key as it is spelled. -/
theorem mem_entries_nodeOf {entry : Value × Value} (hEntry : entry ∈ entries) :
    (Metadata.EntryKey.name (Metadata.textOfSpelling (Metadata.keySpelling entry.1)),
      nodeOf entry.2) ∈
      (nodeOf (.map entries)).entries := by
  rw [nodeOf, Metadata.namedNodesOf_eq_map, Metadata.Node.entries, List.map_map]
  exact List.mem_map_of_mem hEntry

/-- A list is found by its text. -/
theorem agrees_self_items {items : List Value} (hValue : value = .list items ∨ value = .tuple items)
    (hAskable : value.Throughout Value.IsAskable) : agrees value (nodeOf value) = true := by
  obtain ⟨text, hWritten⟩ := Metadata.exists_written hAskable
  have hCompact :=
    Metadata.compact_nodeOf (hAskable.imp fun _ => Metadata.hasDigits_of_isAskable) text hWritten
  rcases hValue with rfl | rfl <;> rw [nodeOf] at hCompact ⊢ <;>
    rw [agrees, agrees.sameText, hWritten, hCompact, decide_eq_true_eq]

/-- What was written is found by itself if its keys are texts. -/
theorem agrees_self (hAskable : value.Throughout Value.IsAskable)
    (hNul : value.Throughout Value.IsNulFree) (hKeys : value.hasTextKeys = true) :
    agrees value (nodeOf value) = true := by
  induction value using Value.parts_induction with
  | plain value hPlain =>
      cases value with
      | null => rfl
      | bool b => exact beq_self_eq_true b
      | int n =>
          rw [nodeOf, agrees, Metadata.storedNumber_integerNumeral hAskable.here]
          exact beq_self_eq_true n
      | text s =>
          rw [nodeOf, agrees, Metadata.textOfSpelling_escaped (hNul.here.1 s rfl)]
          exact Bool.and_eq_true_iff.mpr ⟨rfl, decide_eq_true rfl⟩
      | list _ | tuple _ | map _ => cases hPlain
      | _ => cases hAskable.here
  | list items ih => exact agrees_self_items (Or.inl rfl) hAskable
  | tuple items ih => exact agrees_self_items (Or.inr rfl) hAskable
  | map entries ih =>
      have hSame : agrees (.map entries) (nodeOf (.map entries)) =
          contained entries (nodeOf (.map entries)) := by
        rw [nodeOf, agrees]
      rw [hSame, contained_iff]
      rw [Value.hasTextKeys_map_iff] at hKeys
      rw [Value.throughout_map] at hAskable hNul
      intro entry hEntry
      obtain ⟨⟨s, hText⟩, hTextKeys⟩ := hKeys entry hEntry
      refine ⟨_, mem_entries_nodeOf hEntry, ?_, ih entry hEntry (hAskable.2 entry hEntry)
        (hNul.2 entry hEntry)
        hTextKeys⟩
      rw [hText, Metadata.textOfSpelling_keySpelling
        (hNul.1.2 s (hText ▸ List.mem_map_of_mem hEntry))]
      exact decide_eq_true rfl

end Found

end MetadataPart

/-- Metadata is found by itself exactly if its keys are texts. -/
theorem selectsMetadata_self {filter : Mapping} {cell : Cell} (hStored : IsStored filter cell)
    (hAskable : (Value.map filter).Throughout Value.IsAskable)
    (hNul : (Value.map filter).Throughout Value.IsNulFree) :
    EntityFilter.selectsMetadata ⟨none, partOf filter⟩ cell =
      .ok (Value.map filter).hasTextKeys := by
  have hSame : MetadataPart.agrees (.map filter) (nodeOf (.map filter)) =
      MetadataPart.contained filter (nodeOf (.map filter)) := by
    rw [nodeOf, MetadataPart.agrees]
  rw [selectsMetadata_partOf hStored.isHeld (hAskable.imp fun _ => Metadata.hasDigits_of_isAskable),
    ← hSame]
  congr 1
  rw [Bool.eq_iff_iff]
  exact ⟨MetadataPart.hasTextKeys_of_agrees, MetadataPart.agrees_self hAskable hNul⟩

end Filter

end DeviceRegistry
