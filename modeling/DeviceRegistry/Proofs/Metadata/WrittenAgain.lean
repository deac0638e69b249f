import DeviceRegistry.Proofs.Metadata.NormalForm
import Mathlib.Algebra.Order.BigOperators.Group.List
import Mathlib.Data.List.Perm.Subperm

/-! Metadata that was read back is written again. Its text is the one that it was read from exactly
if no keys, at any depth, are stored under one name. Where some are, all of them stand in the text
and one of them is read back, so that the text becomes shorter. -/
namespace DeviceRegistry

def Value.NamesApart (part : Value) : Prop := (part.keys.map Metadata.nameOfKey).Nodup

namespace Metadata

/-- The entries of a mapping under the names and with the values that they are read back with. -/
def namedNormal (entries : Mapping) : List (String × Value) :=
  entries.map fun entry => (nameOfKey entry.1, normal entry.2)

def lastEntries (named : List (String × Value)) : List (String × Value) :=
  (named.map Prod.fst).eraseDups.map fun name => (name, lastNamed named name)

section Names

variable {value : Value} {entries : Mapping}

theorem nameOfKey_text (s : String) : nameOfKey (.text s) = s := String.ofList_toList

/-- The name of a key is its text. -/
theorem keyText_nameOfKey {key : Value} (hKey : isKey key = true) :
    keyText key = .ok (nameOfKey key).toList := by
  obtain ⟨text, hText⟩ := (keyText_isOk_iff key).mpr hKey
  rw [nameOfKey, hText]
  exact congrArg Except.ok String.toList_ofList.symm

theorem normal_map (entries : Mapping) :
    normal (.map entries) = .map (collapsed (namedNormal entries)) := by
  rw [normal, entriesNormal_eq_map, ← ofEntries_texts, namedNormal, List.map_map]
  rfl

/-- A value that comes last under a name is one of those under the name. -/
theorem lastNamed_mem {named : List (String × Value)} {name : String}
    (hMem : name ∈ named.map Prod.fst) :
    (name, lastNamed named name) ∈ named := by
  induction named using List.reverseRecOn with
  | nil => cases hMem
  | append_singleton named entry ih =>
      rw [lastNamed_concat, List.mem_append, List.mem_singleton]
      by_cases hSame : name = entry.1
      · rw [if_pos hSame, hSame]
        exact Or.inr rfl
      · rw [if_neg hSame]
        rw [List.map_append, List.map_singleton, List.mem_append, List.mem_singleton] at hMem
        exact Or.inl (ih (hMem.resolve_right hSame))

/-- What is collapsed are the last entries under each name. -/
theorem collapsed_eq (named : List (String × Value)) :
    collapsed named = (lastEntries named).map fun entry => (.text entry.1, entry.2) := by
  rw [collapsed, lastEntries, List.map_map]
  rfl

/-- The entries that are left are among those that were there. -/
theorem lastEntries_subset (named : List (String × Value)) : lastEntries named ⊆ named := by
  intro entry hEntry
  obtain ⟨name, hName, rfl⟩ := List.mem_map.mp hEntry
  exact lastNamed_mem (List.mem_eraseDups.mp hName)

/-- The names that are left are those that there were, each once. -/
theorem names_lastEntries (named : List (String × Value)) :
    (lastEntries named).map Prod.fst = (named.map Prod.fst).eraseDups := by
  rw [lastEntries, List.map_map]
  exact List.map_id _

theorem nodup_eraseDups (names : List String) : names.eraseDups.Nodup := by
  induction names using List.reverseRecOn with
  | nil => exact List.nodup_nil
  | append_singleton names name ih =>
      rw [eraseDups_concat]
      split
      · exact ih
      · rename_i hNew
        rw [List.nodup_append_comm, List.singleton_append, List.nodup_cons]
        exact ⟨fun hMem => hNew (List.mem_eraseDups.mp hMem), ih⟩

/-- No name is left twice. -/
theorem nodup_names_lastEntries (named : List (String × Value)) :
    ((lastEntries named).map Prod.fst).Nodup := by
  rw [names_lastEntries]
  exact nodup_eraseDups _

/-- An entry that is read back has a text as its key, and the value of some entry that
was written. -/
theorem of_mem_collapsed {entry : Value × Value}
    (hEntry : entry ∈ collapsed (namedNormal entries)) :
    (∃ name, entry.1 = .text name) ∧ ∃ source ∈ entries, entry.2 = normal source.2 := by
  rw [collapsed_eq] at hEntry
  obtain ⟨left, hLeft, rfl⟩ := List.mem_map.mp hEntry
  obtain ⟨source, hSource, rfl⟩ := List.mem_map.mp (lastEntries_subset _ hLeft)
  exact ⟨⟨_, rfl⟩, source, hSource, rfl⟩

/-- What was read back can be written. -/
theorem isWritten_normal (hWritten : value.Throughout IsWritten) :
    (normal value).Throughout IsWritten := by
  induction value using Value.parts_induction with
  | plain value hPlain =>
      cases value with
      | real x => exact (Value.throughout_of_plain rfl).mpr (isWritten_of_keys_nil rfl rfl)
      | list _ | tuple _ | map _ => cases hPlain
      | _ => exact hWritten
  | list items ih =>
      rw [Value.throughout_list] at hWritten
      rw [normal, allNormal_eq_map, Value.throughout_list, List.forall_mem_map]
      exact ⟨isWritten_of_keys_nil rfl rfl, fun item hItem => ih item hItem (hWritten.2 item hItem)⟩
  | tuple items ih =>
      rw [Value.throughout_tuple] at hWritten
      rw [normal, allNormal_eq_map, Value.throughout_list, List.forall_mem_map]
      exact ⟨isWritten_of_keys_nil rfl rfl, fun item hItem => ih item hItem (hWritten.2 item hItem)⟩
  | map entries ih =>
      rw [Value.throughout_map] at hWritten
      rw [normal_map, Value.throughout_map]
      refine ⟨⟨rfl, List.forall_mem_map.mpr fun entry hEntry => ?_⟩, fun entry hEntry => ?_⟩
      · obtain ⟨⟨name, hName⟩, -⟩ := of_mem_collapsed hEntry
        rw [hName]
        rfl
      · obtain ⟨-, source, hSource, hSame⟩ := of_mem_collapsed hEntry
        rw [hSame]
        exact ih source hSource (hWritten.2 source hSource)

/-- What was read back has its keys under different names. -/
theorem namesApart_normal (value : Value) : (normal value).Throughout Value.NamesApart := by
  induction value using Value.parts_induction with
  | plain value hPlain =>
      cases value with
      | list _ | tuple _ | map _ => cases hPlain
      | _ => exact (Value.throughout_of_plain rfl).mpr List.nodup_nil
  | list items ih =>
      rw [normal, allNormal_eq_map, Value.throughout_list, List.forall_mem_map]
      exact ⟨List.nodup_nil, ih⟩
  | tuple items ih =>
      rw [normal, allNormal_eq_map, Value.throughout_list, List.forall_mem_map]
      exact ⟨List.nodup_nil, ih⟩
  | map entries ih =>
      rw [normal_map, Value.throughout_map]
      refine ⟨?_, fun entry hEntry => ?_⟩
      · rw [Value.NamesApart, Value.keys, collapsed_eq, List.map_map, List.map_map]
        simpa only [Function.comp_def, nameOfKey_text] using nodup_names_lastEntries
          (namedNormal entries)
      · obtain ⟨-, source, hSource, hSame⟩ := of_mem_collapsed hEntry
        rw [hSame]
        exact ih source hSource

/-- Nothing collapses where names are apart. -/
theorem collapsed_namedNormal (hApart : (Value.map entries).NamesApart) :
    collapsed (namedNormal entries) =
      entries.map fun entry => (.text (nameOfKey entry.1), normal entry.2) := by
  have hNodup : ((namedNormal entries).map Prod.fst).Nodup := by
    rw [Value.NamesApart, Value.keys, List.map_map] at hApart
    rw [namedNormal, List.map_map]
    exact hApart
  rw [collapsed_of_nodup hNodup, namedNormal, List.map_map]
  rfl

/-- A value whose names are apart has the same text once it was read back. -/
theorem written_normal (hWritten : value.Throughout IsWritten)
    (hApart : value.Throughout Value.NamesApart) :
    written (normal value) = written value := by
  induction value using Value.parts_induction with
  | plain value hPlain =>
      cases value with
      | real x =>
          rw [normal, written, written, x.text_reread]
      | list _ | tuple _ | map _ => cases hPlain
      | _ => rfl
  | list items ih =>
      rw [Value.throughout_list] at hWritten hApart
      rw [normal, allNormal_eq_map, written, written,
        allWritten_map fun item hItem => ih item hItem (hWritten.2 item hItem)
          (hApart.2 item hItem)]
  | tuple items ih =>
      rw [Value.throughout_tuple] at hWritten hApart
      rw [normal, allNormal_eq_map, written, written,
        allWritten_map fun item hItem => ih item hItem (hWritten.2 item hItem)
          (hApart.2 item hItem)]
  | map entries ih =>
      rw [Value.throughout_map] at hWritten hApart
      rw [normal_map, collapsed_namedNormal hApart.1, written, written,
        entriesWritten_map fun entry hEntry => ?_]
      have hKey := keyText_nameOfKey (hWritten.1.2 entry.1 (List.mem_map_of_mem hEntry))
      exact ⟨hKey.symm, ih entry hEntry (hWritten.2 entry hEntry) (hApart.2 entry hEntry)⟩

/-- What was read back is read back as it is. -/
theorem normal_normal (value : Value) : normal (normal value) = normal value := by
  induction value using Value.parts_induction with
  | plain value hPlain =>
      cases value with
      | real x => rw [normal, normal, x.reread_reread]
      | list _ | tuple _ | map _ => cases hPlain
      | _ => rfl
  | list items ih =>
      rw [normal, normal, allNormal_eq_map, allNormal_eq_map, List.map_map]
      congr 1
      exact List.map_congr_left ih
  | tuple items ih =>
      rw [normal, normal, allNormal_eq_map, allNormal_eq_map, List.map_map]
      congr 1
      exact List.map_congr_left ih
  | map entries ih =>
      have hApart := (namesApart_normal (.map entries)).here
      rw [normal_map] at hApart ⊢
      rw [normal_map, collapsed_namedNormal hApart]
      congr 1
      refine (List.map_congr_left fun entry hEntry => ?_).trans (List.map_id _)
      obtain ⟨⟨name, hName⟩, source, hSource, hSame⟩ := of_mem_collapsed hEntry
      rw [hName, nameOfKey_text, hSame, ih source hSource, ← hName, ← hSame]
      rfl

end Names

def writtenLength (value : Value) : Nat := ((written value).toOption.getD []).length

/-- How much a named value adds to the text of a mapping: the quoted name, the value
and two marks. -/
def entryLength (entry : String × Value) : Nat :=
  (quoted entry.1.toList).length + writtenLength entry.2 + 2

/-- The text becomes no longer when the value was read back, and it becomes shorter unless the names
are apart. -/
def NoLonger (value : Value) : Prop :=
  writtenLength (normal value) ≤ writtenLength value ∧
    (writtenLength value ≤ writtenLength (normal value) → value.Throughout Value.NamesApart)

section Length

variable {value : Value} {items : List Value} {entries : Mapping}

theorem two_le_entryLength (entry : String × Value) : 2 ≤ entryLength entry := Nat.le_add_left _ _

/-- Texts are joined with one comma less than there are texts. -/
theorem length_joined (texts : List (List Char)) :
    (Text.joined [','] texts).length = (texts.map fun text => text.length + 1).sum - 1 := by
  induction texts with
  | nil => rfl
  | cons first others ih =>
      cases others with
      | nil => rfl
      | cons second others =>
          rw [Text.joined, List.length_append, List.length_append, ih]
          · simp only [List.map_cons, List.sum_cons, List.length_singleton]
            omega
          · rintro ⟨⟩

/-- Each item is written in its length. -/
theorem allWritten_lengths {texts : List (List Char)} (hTexts : allWritten items = .ok texts) :
    texts.map (fun text => text.length + 1) = items.map fun item => writtenLength item + 1 := by
  induction items generalizing texts with
  | nil =>
      cases hTexts
      rfl
  | cons item items ih =>
      obtain ⟨first, others, hFirst, hOthers, rfl⟩ := allWritten_cons hTexts
      rw [List.map_cons, List.map_cons, ih hOthers, writtenLength, hFirst]
      rfl

theorem entriesWritten_lengths {texts : List (List Char)}
    (hTexts : entriesWritten entries = .ok texts) :
    texts.map (fun text => text.length + 1) =
      entries.map fun entry => entryLength (nameOfKey entry.1, entry.2) := by
  induction entries generalizing texts with
  | nil =>
      cases hTexts
      rfl
  | cons entry entries ih =>
      obtain ⟨name, first, others, hName, hFirst, hOthers, rfl⟩ := entriesWritten_cons hTexts
      rw [List.map_cons, List.map_cons, ih hOthers, entryLength, writtenLength, hFirst,
        nameOfKey, hName, List.length_append, List.length_cons]
      simp only [Except.toOption, Option.getD_some, String.toList_ofList]
      rfl

/-- The text of a list or a tuple is as long as its items with a mark each, and one more. -/
theorem writtenLength_items (hValue : value = .list items ∨ value = .tuple items)
    (hWritten : value.Throughout IsWritten) :
    writtenLength value = (items.map fun item => writtenLength item + 1).sum - 1 + 2 := by
  obtain ⟨text, hText⟩ := (written_isOk_iff value).mpr hWritten
  obtain ⟨texts, hTexts, rfl⟩ := written_items hValue hText
  rw [writtenLength, hText, ← allWritten_lengths hTexts, ← length_joined]
  simp [Except.toOption]

/-- A mapping is as long as its entries, the marks between them and the braces. -/
theorem writtenLength_map (hWritten : (Value.map entries).Throughout IsWritten) :
    writtenLength (.map entries) =
      (entries.map fun entry => entryLength (nameOfKey entry.1, entry.2)).sum - 1 + 2 := by
  obtain ⟨text, hText⟩ := (written_isOk_iff _).mpr hWritten
  obtain ⟨texts, hTexts, rfl⟩ := written_map hText
  rw [writtenLength, hText, ← entriesWritten_lengths hTexts, ← length_joined]
  simp [Except.toOption]

/-- Members that are together no smaller than some of them are no more than those. -/
theorem eq_of_sublist_of_sum_le {α : Type} {weight : α → Nat} (hWeight : ∀ a, 2 ≤ weight a)
    {kept all : List α} (hKept : kept.Sublist all)
    (hSum : (all.map weight).sum - 1 ≤ (kept.map weight).sum - 1) : kept = all := by
  induction hKept with
  | slnil => rfl
  | cons a hRest ih =>
      -- A member that is missing weighs two at least, and so it shows even where the difference is
      -- cut off at zero.
      have hLess := (hRest.map weight).sum_le_sum fun n _ => Nat.zero_le n
      have hPositive := hWeight a
      rw [List.map_cons, List.sum_cons] at hSum
      omega
  | cons_cons a hRest ih =>
      rw [List.map_cons, List.map_cons, List.sum_cons, List.sum_cons] at hSum
      rw [ih (by omega)]

/-- Members that are together no smaller than lower bounds of theirs are equal to these. -/
theorem le_of_sum_le {α : Type} {below above : α → Nat} (hBelow : ∀ a, 0 < below a) {all : List α}
    (hBounds : ∀ a ∈ all, below a ≤ above a)
    (hSum : (all.map above).sum - 1 ≤ (all.map below).sum - 1) : ∀ a ∈ all, above a ≤ below a := by
  induction all with
  | nil => exact fun a hMem => nomatch hMem
  | cons a all ih =>
      rw [List.forall_mem_cons] at hBounds ⊢
      have hLess := List.sum_le_sum hBounds.2
      have hPositive := hBelow a
      rw [List.map_cons, List.map_cons, List.sum_cons, List.sum_cons] at hSum
      exact ⟨by omega, ih hBounds.2 (by omega)⟩

/-- The last entries are some of all entries. -/
theorem lastEntries_subperm (named : List (String × Value)) : (lastEntries named).Subperm named :=
  List.subperm_of_subset (nodup_names_lastEntries named).of_map (lastEntries_subset named)

/-- Collapsing makes nothing longer. -/
theorem lastEntries_length_le (named : List (String × Value)) :
    ((lastEntries named).map entryLength).sum ≤ (named.map entryLength).sum := by
  obtain ⟨kept, hPerm, hKept⟩ := lastEntries_subperm named
  rw [← (hPerm.map entryLength).sum_eq]
  exact (hKept.map entryLength).sum_le_sum fun n _ => Nat.zero_le n

/-- Where no entry is lost the names differ. -/
theorem nodup_of_lastEntries_length {named : List (String × Value)}
    (hLength : (named.map entryLength).sum - 1 ≤ ((lastEntries named).map entryLength).sum - 1) :
    (named.map Prod.fst).Nodup := by
  obtain ⟨kept, hPerm, hKept⟩ := lastEntries_subperm named
  rw [← (hPerm.map entryLength).sum_eq] at hLength
  have hAll := eq_of_sublist_of_sum_le two_le_entryLength hKept hLength
  rw [hAll] at hPerm
  exact (hPerm.map Prod.fst).nodup_iff.mpr (nodup_names_lastEntries named)

theorem noLonger_items (hValue : value = .list items ∨ value = .tuple items)
    (hWritten : value.Throughout IsWritten) (hItems : ∀ item ∈ items, NoLonger item) :
    NoLonger value := by
  have hNormal : normal value = .list (items.map normal) := by
    rcases hValue with rfl | rfl <;> rw [normal, allNormal_eq_map]
  have hAgain := isWritten_normal hWritten
  rw [hNormal] at hAgain
  rw [NoLonger, hNormal, writtenLength_items (Or.inl rfl) hAgain,
    writtenLength_items hValue hWritten, List.map_map]
  have hBounds : ∀ item ∈ items, writtenLength (normal item) + 1 ≤ writtenLength item + 1 :=
    fun item hItem => Nat.succ_le_succ (hItems item hItem).1
  refine ⟨?_, fun hLength => ?_⟩
  · exact Nat.add_le_add_right (Nat.sub_le_sub_right (List.sum_le_sum hBounds) 1) 2
  · have hEach :=
      le_of_sum_le (fun _ => Nat.succ_pos _) hBounds (Nat.le_of_add_le_add_right hLength)
    have hApart : ∀ item ∈ items, item.Throughout Value.NamesApart :=
      fun item hItem => (hItems item hItem).2 (Nat.le_of_succ_le_succ (hEach item hItem))
    rcases hValue with rfl | rfl
    · exact Value.throughout_list.mpr ⟨List.nodup_nil, hApart⟩
    · exact Value.throughout_tuple.mpr ⟨List.nodup_nil, hApart⟩

/-- Of a mapping that is read back only one entry is left for each name. -/
theorem writtenLength_normal_map (hWritten : (Value.map entries).Throughout IsWritten) :
    writtenLength (normal (.map entries)) =
      ((lastEntries (namedNormal entries)).map entryLength).sum - 1 + 2 := by
  have hAgain := isWritten_normal hWritten
  rw [normal_map] at hAgain ⊢
  rw [writtenLength_map hAgain, collapsed_eq, List.map_map]
  simp only [Function.comp_def, nameOfKey_text]

/-- A mapping becomes no longer, and shorter where two of its names are the same. -/
theorem noLonger_map (hWritten : (Value.map entries).Throughout IsWritten)
    (hEntries : ∀ entry ∈ entries, NoLonger entry.2) : NoLonger (.map entries) := by
  have hBounds : ∀ entry ∈ entries, entryLength (nameOfKey entry.1, normal entry.2) ≤
      entryLength (nameOfKey entry.1, entry.2) :=
    fun entry hEntry => Nat.add_le_add_right (Nat.add_le_add_left (hEntries entry hEntry).1 _) 2
  have hNamed : (namedNormal entries).map entryLength =
      entries.map fun entry => entryLength (nameOfKey entry.1, normal entry.2) := List.map_map
  -- The text shrinks in two steps: values are read back, and then entries under one name are left
  -- out.
  have hShorter := List.sum_le_sum hBounds
  have hFewer := lastEntries_length_le (namedNormal entries)
  rw [hNamed] at hFewer
  rw [NoLonger, writtenLength_normal_map hWritten, writtenLength_map hWritten]
  refine ⟨by omega, fun hLength => Value.throughout_map.mpr ⟨?_, fun entry hEntry => ?_⟩⟩
  · have hNames : ((namedNormal entries).map Prod.fst).Nodup :=
      nodup_of_lastEntries_length (by rw [hNamed]; omega)
    rw [namedNormal, List.map_map] at hNames
    rw [Value.NamesApart, Value.keys, List.map_map]
    exact hNames
  · have hEach :=
      le_of_sum_le (fun entry => Nat.lt_of_succ_lt (two_le_entryLength _)) hBounds
        (by omega) entry hEntry
    exact (hEntries entry hEntry).2 (Nat.le_of_add_le_add_left (Nat.le_of_add_le_add_right hEach))

/-- Metadata that was read back has no longer text, and a shorter one if any keys are stored under
one name. -/
theorem noLonger (hWritten : value.Throughout IsWritten) : NoLonger value := by
  induction value using Value.parts_induction with
  | plain value hPlain =>
      have hApart : value.Throughout Value.NamesApart :=
        (Value.throughout_of_plain hPlain).mpr
          (by cases value <;> first | exact List.nodup_nil | cases hPlain)
      exact ⟨by rw [writtenLength, writtenLength, written_normal hWritten hApart], fun _ => hApart⟩
  | list items ih =>
      exact noLonger_items (Or.inl rfl) hWritten fun item hItem =>
        ih item hItem ((Value.throughout_list.mp hWritten).2 item hItem)
  | tuple items ih =>
      exact noLonger_items (Or.inr rfl) hWritten fun item hItem =>
        ih item hItem ((Value.throughout_tuple.mp hWritten).2 item hItem)
  | map entries ih =>
      exact noLonger_map hWritten fun entry hEntry =>
        ih entry hEntry ((Value.throughout_map.mp hWritten).2 entry hEntry)

/-- What is read back of metadata is its normal form. -/
theorem normal_of_decode {text : String} {metadata : Mapping}
    (hEncoded : encode (.map entries) = .ok text) (hRead : decode (.text text) = .ok metadata) :
    normal (.map entries) = .map metadata := by
  rw [decode_encode hEncoded, Except.ok.injEq] at hRead
  rw [normal, hRead]

/-- Metadata that was read back is written again, and it comes back as it was. -/
theorem encode_again {text : String} {metadata : Mapping}
    (hEncoded : encode (.map entries) = .ok text) (hRead : decode (.text text) = .ok metadata) :
    ∃ again, encode (.map metadata) = .ok again ∧ decode (.text again) = .ok metadata := by
  have hNormal := normal_of_decode hEncoded hRead
  have hStays := normal_normal (.map entries)
  have hAgain := isWritten_normal ((encode_isOk_iff entries).mp ⟨text, hEncoded⟩)
  rw [hNormal] at hStays hAgain
  obtain ⟨again, hEncodedAgain⟩ := (encode_isOk_iff metadata).mpr hAgain
  rw [normal, Value.map.injEq] at hStays
  exact ⟨again, hEncodedAgain, by rw [decode_encode hEncodedAgain, hStays]⟩

/-- It has the text that it was read from exactly if the names are apart. -/
theorem encode_again_eq_iff {text again : String} {metadata : Mapping}
    (hEncoded : encode (.map entries) = .ok text) (hRead : decode (.text text) = .ok metadata)
    (hAgain : encode (.map metadata) = .ok again) :
    again = text ↔ (Value.map entries).Throughout Value.NamesApart := by
  have hNormal := normal_of_decode hEncoded hRead
  have hWritten := (encode_isOk_iff entries).mp ⟨text, hEncoded⟩
  constructor
  · intro hSame
    refine (noLonger hWritten).2 (Nat.le_of_eq ?_)
    rw [hNormal, writtenLength, writtenLength, written_of_encode hEncoded,
      written_of_encode hAgain, hSame]
  · intro hApart
    have hTexts := written_normal hWritten hApart
    rw [hNormal, written_of_encode hEncoded, written_of_encode hAgain, Except.ok.injEq] at hTexts
    exact String.toList_injective hTexts

end Length

end Metadata

end DeviceRegistry
