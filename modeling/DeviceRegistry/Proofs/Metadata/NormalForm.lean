import DeviceRegistry.Proofs.Metadata.Parts
import DeviceRegistry.Proofs.Metadata.RoundTrip
import Mathlib.Data.List.Induction
import Mathlib.Data.List.Nodup

/-! The contract of stored metadata: which metadata is accepted, and in which form it comes back.
Tuples come back as lists and keys as their texts. Keys that thereby come to be the same keep the
place of the first and the value of the last of them. -/
namespace DeviceRegistry

namespace Value

def isReal : Value → Bool
  | .real _ => true
  | _ => false

def isTuple : Value → Bool
  | .tuple _ => true
  | _ => false

/-- Neither the value nor a key of it is a real number. -/
def IsRealFree (part : Value) : Prop := part.isReal = false ∧ ∀ key ∈ part.keys, key.isReal = false

/-- The value is no tuple, and its keys are different texts. -/
def IsPlain (part : Value) : Prop :=
  part.isTuple = false ∧ (∀ key ∈ part.keys, ∃ s, key = .text s) ∧ part.keys.Nodup

end Value

namespace Metadata

def keyName : Value → String
  | .null => "null"
  | .bool b => if b then "true" else "false"
  | .int n => toString n
  | .text s => s
  | _ => ""

/-- The value that came last under a name. -/
def lastNamed (named : List (String × Value)) (name : String) : Value :=
  (named.reverse.lookup name).getD .null

/-- One entry for each name, in the order in which the names came first, with the value that
came last. -/
def collapsed (named : List (String × Value)) : Mapping :=
  (named.map Prod.fst).eraseDups.map fun name => (.text name, lastNamed named name)

mutual

def normalForm : Value → Value
  | .list items | .tuple items => .list (allNormalForm items)
  | .map entries => .map (collapsed (namedNormalForm entries))
  | value => value

def allNormalForm : List Value → List Value
  | [] => []
  | item :: items => normalForm item :: allNormalForm items

def namedNormalForm : List (Value × Value) → List (String × Value)
  | [] => []
  | (key, value) :: entries => (keyName key, normalForm value) :: namedNormalForm entries

end

section Collapsed

variable (named : List (String × Value)) (name : String) (value : Value)

theorem lastNamed_concat (sought : String) :
    lastNamed (named ++ [(name, value)]) sought = if sought =
      name then value else lastNamed named sought := by
  rw [lastNamed, List.reverse_append, List.reverse_singleton, List.singleton_append,
    List.lookup_cons]
  by_cases hSame : sought = name
  · simp [hSame]
  · rw [beq_false_of_ne hSame, if_neg hSame]
    rfl

theorem eraseDups_concat (names : List String) :
    (names ++ [name]).eraseDups = if name ∈ names then names.eraseDups
      else names.eraseDups ++ [name] := by
  rw [List.eraseDups_append]
  by_cases hMem : name ∈ names
  · simp [hMem, List.removeAll]
  · simp [hMem, List.removeAll, List.eraseDups_cons]

/-- A name that comes again keeps its place and takes the new value. -/
theorem collapsed_concat_of_mem (hMem : name ∈ named.map Prod.fst) :
    collapsed (named ++ [(name, value)]) =
      (collapsed named).map fun entry => if entry.1.equals (.text name) then (entry.1,
        value) else entry := by
  rw [collapsed, collapsed, List.map_append, List.map_singleton, eraseDups_concat,
    if_pos hMem, List.map_map]
  apply List.map_congr_left
  intro sought _
  rw [lastNamed_concat, Function.comp]
  by_cases hSame : sought = name <;> simp [hSame, Value.equals]

/-- A new name comes last. -/
theorem collapsed_concat_of_not_mem (hNew : name ∉ named.map Prod.fst) :
    collapsed (named ++ [(name, value)]) = collapsed named ++ [(.text name, value)] := by
  rw [collapsed, collapsed, List.map_append, List.map_singleton, eraseDups_concat, if_neg hNew,
    List.map_append, List.map_singleton, lastNamed_concat, if_pos rfl]
  congr 1
  apply List.map_congr_left
  intro sought hSought
  have hOther : sought ≠ name := fun hSame => hNew (hSame ▸ List.mem_eraseDups.mp hSought)
  rw [lastNamed_concat, if_neg hOther]

/-- A name is present in what is collapsed exactly if it was among the names. -/
theorem any_collapsed :
    (collapsed named).any (fun entry => entry.1.equals (.text name)) =
      decide (name ∈ named.map Prod.fst) := by
  rw [Bool.eq_iff_iff, List.any_eq_true, decide_eq_true_eq]
  simp [collapsed, Value.equals]

/-- Putting a named value into what was collapsed is collapsing it along with the others. -/
theorem put_collapsed :
    Mapping.put (collapsed named) (.text name) value = collapsed (named ++ [(name, value)]) := by
  rw [Mapping.put, any_collapsed]
  by_cases hMem : name ∈ named.map Prod.fst
  · rw [collapsed_concat_of_mem named name value hMem, decide_eq_true hMem, if_pos rfl]
  · rw [collapsed_concat_of_not_mem named name value hMem, decide_eq_false hMem,
      if_neg Bool.false_ne_true]

/-- Entries that are read one after the other collapse. -/
theorem ofEntries_texts :
    Mapping.ofEntries (named.map fun entry => (.text entry.1, entry.2)) = collapsed named := by
  induction named using List.reverseRecOn with
  | nil => rfl
  | append_singleton named entry ih =>
      rw [← put_collapsed, ← ih, Mapping.ofEntries, Mapping.ofEntries, List.map_append,
        List.foldl_append]
      rfl

/-- Nothing collapses where the names differ. -/
theorem collapsed_of_nodup {named : List (String × Value)} (hNodup : (named.map Prod.fst).Nodup) :
    collapsed named = named.map fun entry => (.text entry.1, entry.2) := by
  induction named using List.reverseRecOn with
  | nil => rfl
  | append_singleton named entry ih =>
      rw [List.map_append, List.map_singleton, List.nodup_append_comm, List.singleton_append,
        List.nodup_cons] at hNodup
      rw [collapsed_concat_of_not_mem _ _ _ hNodup.1, ih hNodup.2, List.map_append]
      rfl

end Collapsed

section Read

variable {value : Value} {entries : Mapping}

theorem allNormal_eq_map (items : List Value) : allNormal items = items.map normal := by
  induction items with
  | nil => rfl
  | cons item items ih => rw [allNormal, ih, List.map_cons]

theorem allNormalForm_eq_map (items : List Value) : allNormalForm items = items.map normalForm := by
  induction items with
  | nil => rfl
  | cons item items ih => rw [allNormalForm, ih, List.map_cons]

theorem entriesNormal_eq_map (entries : Mapping) :
    entriesNormal entries = entries.map fun entry => (.text (nameOfKey entry.1),
      normal entry.2) := by
  induction entries with
  | nil => rfl
  | cons entry entries ih => rw [entriesNormal, ih, List.map_cons]

theorem namedNormalForm_eq_map (entries : Mapping) :
    namedNormalForm entries = entries.map fun entry => (keyName entry.1, normalForm entry.2) := by
  induction entries with
  | nil => rfl
  | cons entry entries ih => rw [namedNormalForm, ih, List.map_cons]

/-- Integers are written as the library writes them. -/
theorem ofList_integerText (n : Int) : String.ofList (integerText n) = toString n := by
  cases n with
  | ofNat n =>
      have hNatural : ¬ ((n : Int) < 0) := by omega
      change String.ofList (integerText n) = n.repr
      simp [integerText, Nat.repr, hNatural]
  | negSucc n =>
      change _ = "-" ++ (n + 1).repr
      simp [integerText, Nat.repr]

/-- A key that is no real is read back under its name. -/
theorem nameOfKey_eq_keyName {key : Value} (hKey : isKey key = true) (hReal : key.isReal = false) :
    nameOfKey key = keyName key := by
  cases key with
  | int n =>
      rw [nameOfKey, keyText, integerWritten_of_isShort hKey]
      exact ofList_integerText n
  | bool b => cases b <;> rfl
  | null => rfl
  | text s => exact String.ofList_toList
  | real x => cases hReal
  | _ => cases hKey

/-- What is read back of a value without reals is its normal form. -/
theorem normal_eq_normalForm (hWritten : value.Throughout IsWritten)
    (hReal : value.Throughout Value.IsRealFree) :
    normal value = normalForm value := by
  induction value using Value.parts_induction with
  | plain value hPlain =>
      cases value with
      | real x => cases hReal.here.1
      | list _ | tuple _ | map _ => cases hPlain
      | _ => rfl
  | list items ih =>
      rw [normal, normalForm, allNormal_eq_map, allNormalForm_eq_map]
      rw [Value.throughout_list] at hWritten hReal
      congr 1
      exact List.map_congr_left fun item hItem => ih item hItem (hWritten.2 item hItem)
        (hReal.2 item hItem)
  | tuple items ih =>
      rw [normal, normalForm, allNormal_eq_map, allNormalForm_eq_map]
      rw [Value.throughout_tuple] at hWritten hReal
      congr 1
      exact List.map_congr_left fun item hItem => ih item hItem (hWritten.2 item hItem)
        (hReal.2 item hItem)
  | map entries ih =>
      rw [normal, normalForm, entriesNormal_eq_map, namedNormalForm_eq_map,
        ← ofEntries_texts, List.map_map]
      rw [Value.throughout_map] at hWritten hReal
      congr 2
      apply List.map_congr_left
      intro entry hEntry
      have hKey := List.mem_map_of_mem (f := Prod.fst) hEntry
      rw [Function.comp, ih entry hEntry (hWritten.2 entry hEntry) (hReal.2 entry hEntry),
        nameOfKey_eq_keyName (hWritten.1.2 _ hKey) (hReal.1.2 _ hKey)]

/-- A value without tuples, all of whose keys are different texts, is its own normal form. -/
theorem normalForm_eq_self (hPlain : value.Throughout Value.IsPlain) :
    normalForm value = value := by
  induction value using Value.parts_induction with
  | plain value hParts =>
      cases value with
      | list _ | tuple _ | map _ => cases hParts
      | _ => rfl
  | list items ih =>
      rw [normalForm, allNormalForm_eq_map]
      rw [Value.throughout_list] at hPlain
      congr 1
      exact (List.map_congr_left fun item hItem => ih item hItem (hPlain.2 item hItem)).trans
        (List.map_id items)
  | tuple items ih => cases hPlain.here.1
  | map entries ih =>
      rw [Value.throughout_map] at hPlain
      obtain ⟨⟨-, hTexts, hNodup⟩, hValues⟩ := hPlain
      have hKey : ∀ entry ∈ entries, Value.text (keyName entry.1) = entry.1 := by
        intro entry hEntry
        obtain ⟨s, hText⟩ := hTexts entry.1 (List.mem_map_of_mem hEntry)
        rw [hText, keyName]
      have hNames : ((namedNormalForm entries).map Prod.fst).map Value.text =
          entries.map Prod.fst := by
        rw [namedNormalForm_eq_map, List.map_map, List.map_map]
        exact List.map_congr_left hKey
      rw [normalForm, collapsed_of_nodup (List.Nodup.of_map Value.text (hNames ▸ hNodup)),
        namedNormalForm_eq_map, List.map_map]
      congr 1
      refine (List.map_congr_left ?_).trans (List.map_id entries)
      intro entry hEntry
      rw [Function.comp, hKey entry hEntry, ih entry hEntry (hValues entry hEntry)]
      rfl

/-- Metadata that can be written comes back in its normal form. -/
theorem decode_encode_normalForm (hWritten : (Value.map entries).Throughout IsWritten)
    (hReal : (Value.map entries).Throughout Value.IsRealFree) :
    ∃ text, encode (.map entries) = .ok text ∧
      decode (.text text) = .ok (collapsed (namedNormalForm entries)) := by
  obtain ⟨text, hEncoded⟩ := (encode_isOk_iff entries).mpr hWritten
  have hNormal := normal_eq_normalForm hWritten hReal
  rw [normal, normalForm, Value.map.injEq] at hNormal
  exact ⟨text, hEncoded, by rw [decode_encode hEncoded, hNormal]⟩

end Read

/-- Some part of the value has no text, or one of its keys cannot be a key. -/
def IsRefused (whole : Value) : Prop :=
  ∃ part, part.Occurs whole ∧ (hasText part = false ∨ ∃ key ∈ part.keys, isKey key = false)

/-- A value can be written exactly if all its parts can be. -/
theorem not_isRefused_iff (whole : Value) : ¬ IsRefused whole ↔ whole.Throughout IsWritten := by
  simp [IsRefused, Value.Throughout, IsWritten]

/-- The contract of metadata without reals. It is refused exactly where a part of it, at any depth,
is of a foreign kind, is an integer of more than 4300 digits, or has a key that is neither a text,
nor such an integer, nor a truth value, nor null. Otherwise it has a text, from which it comes back
in its normal form, and that is the metadata itself where there are no tuples and all keys are
different texts. -/
theorem encode_contract (entries : Mapping)
    (hReal : (Value.map entries).Throughout Value.IsRealFree) :
    ((∃ fault, encode (.map entries) = .error fault) ↔ IsRefused (.map entries)) ∧
    (¬ IsRefused (.map entries) → ∃ text, encode (.map entries) = .ok text ∧
      decode (.text text) = .ok (collapsed (namedNormalForm entries)) ∧
      ((Value.map entries).Throughout Value.IsPlain → decode (.text text) = .ok entries)) := by
  constructor
  · rw [← not_iff_not, not_isRefused_iff, ← encode_isOk_iff]
    cases encode (.map entries) with
    | error fault =>
        exact iff_of_false (fun hNone => hNone ⟨fault, rfl⟩) fun ⟨_, hText⟩ => nomatch hText
    | ok text => exact iff_of_true (fun ⟨_, hFault⟩ => nomatch hFault) ⟨text, rfl⟩
  · intro hAccepted
    rw [not_isRefused_iff] at hAccepted
    obtain ⟨text, hEncoded, hRead⟩ := decode_encode_normalForm hAccepted hReal
    refine ⟨text, hEncoded, hRead, fun hPlain => ?_⟩
    have hSelf := normalForm_eq_self hPlain
    rw [normalForm, Value.map.injEq] at hSelf
    rw [hRead, hSelf]

/-- Metadata with a tuple, with control characters, and with two keys that are stored under
one name. -/
def colliding : Mapping :=
  [(.int 1, .tuple [.text "\"\n\x00", .null]), (.text "é", .list [.int (-5)]),
    (.text "1", .bool true)]

theorem encode_contract_colliding :
    (Value.map colliding).Throughout Value.IsRealFree ∧
    ∃ text, encode (.map colliding) = .ok text ∧
      decode (.text text) = .ok [(.text "1", .bool true), (.text "é", .list [.int (-5)])] := by
  have hReal : (Value.map colliding).Throughout Value.IsRealFree := by
    have hAlone {value : Value} (hParts : value.hasParts = false) (hHere : value.IsRealFree) :
        value.Throughout Value.IsRealFree := (Value.throughout_of_plain hParts).mpr hHere
    simp only [colliding, Value.throughout_map, Value.throughout_tuple, Value.throughout_list,
      List.forall_mem_cons]
    refine ⟨?_, ⟨?_, hAlone rfl ?_, hAlone rfl ?_, ?_⟩, ⟨?_, hAlone rfl ?_, ?_⟩, hAlone rfl ?_, ?_⟩
    all_goals simp [Value.IsRealFree, Value.isReal, Value.keys]
  obtain ⟨hRefused, hRead⟩ := encode_contract colliding hReal
  have hEncoded : encode (.map colliding) =
      .ok "\x7b\"1\":[\"\\\"\\n\\u0000\",null],\"é\":[-5],\"1\":true\x7d" := rfl
  have hAccepted : ¬ IsRefused (.map colliding) := by
    rw [← hRefused, hEncoded]
    exact fun ⟨_, hFault⟩ => nomatch hFault
  obtain ⟨text, hText, hDecoded, -⟩ := hRead hAccepted
  exact ⟨hReal, text, hText, hDecoded⟩

end Metadata

end DeviceRegistry
