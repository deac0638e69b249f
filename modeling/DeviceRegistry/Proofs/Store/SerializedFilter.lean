import DeviceRegistry.Proofs.Filter.Serialized
import DeviceRegistry.Proofs.Store.FilteredListing

/-! Listings with a filter and with the form in which the filter would be stored. The storage engine
compares the keys of a filter as they are given with names of stored metadata, which are texts. A
filter with a key that is no text is therefore no filter for what was saved with that key. -/
namespace DeviceRegistry

namespace EntityFilter

variable {filter : EntityFilter} {owner : Value} {rowOwner rowName : String} {cell : Cell}

/-- A row is selected only if its metadata is. -/
theorem selectsMetadata_of_selects
    (hSelects : filter.selects owner rowOwner rowName cell = .ok true) :
    filter.selectsMetadata cell = .ok true := by
  rw [selects] at hSelects
  split at hSelects
  · obtain ⟨byName, -, hSelects⟩ := bind_ok_iff.mp hSelects
    cases byName with
    | true => exact hSelects
    | false => cases hSelects
  · cases hSelects

/-- The storage engine reads stored metadata as a mapping. -/
theorem documentOf_eq_map (hDocument : Metadata.IsDocument cell) {document : Option Metadata.Node}
    (hRead : documentOf cell = .ok document) : ∃ named, document = some (.map named) := by
  obtain ⟨entries, text, hEncoded, rfl⟩ := hDocument
  have hWritten := Metadata.written_of_encode hEncoded
  simp only [documentOf] at hRead
  cases hFound : Metadata.document? (Text.symbols text.toList) with
  | none =>
      rw [hFound] at hRead
      cases hRead
  | some node =>
      rw [hFound] at hRead
      cases hRead
      have hDigits := (Metadata.document?_isSome_iff hWritten).mp (by rw [hFound]; rfl)
      rw [Metadata.document?_written hDigits hWritten] at hFound
      cases hFound
      exact ⟨_, rfl⟩

/-- A filter with another key than a text selects no stored metadata. -/
theorem not_selects {part : Filter.MetadataPart} (hPart : filter.metadata = some part)
    (hKeys : (Value.map part.entries).hasTextKeys = false) (hDocument : Metadata.IsDocument cell) :
    filter.selects owner rowOwner rowName cell ≠ .ok true := by
  intro hSelects
  have hMetadata := selectsMetadata_of_selects hSelects
  rw [selectsMetadata, hPart] at hMetadata
  obtain ⟨document, hRead, hSelected⟩ := map_ok_iff.mp hMetadata
  obtain ⟨named, rfl⟩ := documentOf_eq_map hDocument hRead
  have hAgrees : Filter.MetadataPart.agrees (.map part.entries) (.map named) = true := by
    rw [Filter.MetadataPart.agrees]
    exact hSelected
  rw [Filter.MetadataPart.hasTextKeys_of_agrees hAgrees] at hKeys
  cases hKeys

/-- A filter of a mapping with entries asks for them. -/
theorem metadata_of_ofValues {name : Value} {entries : Mapping} (hSome : entries ≠ [])
    {parameters : List Value} (hSought : ofValues name (.map entries) = .ok (filter, parameters)) :
    filter.metadata = some ⟨entries⟩ := by
  cases entries with
  | nil => exact absurd rfl hSome
  | cons entry entries =>
      rw [ofValues_cons] at hSought
      obtain ⟨_, -, hSought⟩ := bind_ok_iff.mp hSought
      obtain ⟨part, -, hSought⟩ := bind_ok_iff.mp hSought
      cases hSought
      rfl

end EntityFilter

namespace Store

variable {store : Store} {filter : Mapping} {owner name : Value} {window : Window}

/-- A listing of rows none of which match counts none. -/
theorem total_eq_zero {ρ α : Type} {read : Window → Except Failure (Page α)} {rows : List ρ}
    {shown : ρ → Except Failure α} {isMatch : ρ → Prop} {precedes : ρ → ρ → Prop}
    (hLists : Lists read rows shown isMatch precedes) (hNone : ∀ row, ¬ isMatch row) {page : Page α}
    (hPage : read window = .ok page) : page.total = 0 := by
  rw [hLists.total window page hPage, List.length_eq_zero_iff, List.eq_nil_iff_forall_not_mem]
  exact fun row hRow => hNone row ((hLists.mem row).mp hRow)

section Unfound

variable (hKeys : (Value.map filter).hasTextKeys = false)

include hKeys

theorem ne_nil_of_hasTextKeys : filter ≠ [] := by
  rintro rfl
  cases hKeys

/-- A listing with a filter that has another key than a text counts nothing. -/
theorem total_list {Row Entity : Type} {table : EntityTable Row Entity}
    (hIdentifies : table.Identifies (table.rows store))
    (hDocuments : ∀ row ∈ table.rows store, Metadata.IsDocument (table.metadata row))
    {page : Page Entity} (hPage : table.list store owner window name (.map filter) = .ok page) :
    page.total = 0 := by
  obtain ⟨sought, parameters, rows, hSought, hLists⟩ :=
    EntityTable.lists hIdentifies hDocuments hPage
  have hPart := EntityFilter.metadata_of_ofValues (ne_nil_of_hasTextKeys hKeys) hSought
  refine total_eq_zero hLists (fun row hMatch => ?_) hPage
  exact EntityFilter.not_selects hPart hKeys (hDocuments row hMatch.1) hMatch.2

end Unfound

/-- What a filter finds depends on whether its keys are texts. If they are, along all mappings in
mappings, and if no two keys of a mapping in it are stored under one name, it lists the same as the
form in which it comes back from storage, on all tables. If one of them is not, it counts nothing
after any run. Accordingly what is saved as the metadata of a thing or a channel is found by itself
exactly if its keys are texts. -/
theorem filter_means_stored_form_iff (supply : Identifier.Supply) (filter : Mapping)
    (hFilter : (Value.map filter).Throughout Value.IsAskable) :
    ((Value.map filter).hasTextKeys = true → (Value.map filter).Throughout Value.NamesDiffer →
      ∃ text form, Metadata.encode (.map filter) = .ok text ∧
        Metadata.decode (.text text) = .ok form ∧
        ∀ (store : Store) (owner : Value) (window : Window) (name : Value),
          store.listThings owner window name (.map filter) =
            store.listThings owner window name (.map form) ∧
          store.listChannels owner window name (.map filter) =
            store.listChannels owner window name (.map form)) ∧
    ((Value.map filter).hasTextKeys = false →
      ∀ (steps : List Step) (owner : Value) (window : Window) (name : Value),
        (∀ page, ((empty supply).run steps).listThings owner window name (.map filter) = .ok page →
          page.total = 0) ∧
        ∀ page, ((empty supply).run steps).listChannels owner window name (.map filter) = .ok page →
          page.total = 0) ∧
    ((Value.map filter).Throughout Value.IsNulFree → ∀ cell, Filter.IsStored filter cell →
      EntityFilter.selectsMetadata ⟨none, Filter.partOf filter⟩ cell =
        .ok (Value.map filter).hasTextKeys) := by
  refine ⟨fun hKeys hNames => ?_, fun hKeys steps owner window name => ?_,
    fun hNul cell hStored => ?_⟩
  · obtain ⟨text, hEncoded, hDecoded⟩ := Metadata.decode_encode_normalForm
      (hFilter.imp fun _ => Metadata.isWritten_of_isAskable)
      (hFilter.imp fun _ => Metadata.isRealFree_of_isAskable)
    have hAlike := Filter.MetadataPart.entriesAlike_collapsed hFilter hNames hKeys
    exact ⟨text, _, hEncoded, hDecoded, fun store owner window name =>
      ⟨thingTable.list_alike store owner name window hAlike,
        channelTable.list_alike store owner name window hAlike⟩⟩
  · have hIdentified : ((empty supply).run steps).Identified := (Identified.empty supply).run steps
    have hDocumented : ((empty supply).run steps).Documented := (Documented.empty supply).run steps
    exact ⟨fun page => total_list hKeys hIdentified.things hDocumented.things,
      fun page => total_list hKeys hIdentified.channels hDocumented.channels⟩
  · exact Filter.selectsMetadata_self hStored hFilter hNul

/-- Metadata with a number for a key inside a mapping. -/
def numbered : Mapping := [(.text "a", .map [(.int 1, .text "x")])]

def numbering : Moment where
  tables := .empty
  step := ⟨.saveThing [(.text "id", .text "00000000-0000-0000-0000-0000000000d1"),
    (.text "owner", .text "ada"), (.text "key", .text "a"), (.text "metadata", .map numbered)],
      none⟩

theorem filter_means_stored_form_iff_numbered :
    let form : Mapping := [(.text "a", .map [(.text "1", .text "x")])]
    (Value.map numbered).Throughout Value.IsAskable ∧
    Metadata.encode (.map numbered) = Metadata.encode (.map form) ∧
    ∃ cell, Filter.IsStored numbered cell ∧
      EntityFilter.selectsMetadata ⟨none, Filter.partOf numbered⟩ cell = .ok false ∧
      EntityFilter.selectsMetadata ⟨none, Filter.partOf form⟩ cell = .ok true := by
  intro form
  have hAlone {holds : Value → Prop} {value : Value} (hParts : value.hasParts = false)
      (hHere : holds value) :
      value.Throughout holds := (Value.throughout_of_plain hParts).mpr hHere
  have hAskable : (Value.map numbered).Throughout Value.IsAskable := by
    simp only [numbered, Value.throughout_map, List.forall_mem_singleton]
    exact ⟨by simp [Value.IsAskable, Value.isAskableKey], by
      simp [Value.IsAskable, Value.isAskableKey]; decide,
      hAlone rfl trivial⟩
  have hNul : (Value.map numbered).Throughout Value.IsNulFree := by
    simp only [numbered, Value.throughout_map, List.forall_mem_singleton]
    refine ⟨?_, ?_, hAlone rfl ?_⟩ <;> simp [Value.IsNulFree, Value.keys]
  have hAnswer : numbering.answer = .ok (.identifier "00000000-0000-0000-0000-0000000000d1") := rfl
  obtain ⟨row, hRow, hId⟩ : ∃ row ∈ numbering.after.things, row.id =
    "00000000-0000-0000-0000-0000000000d1" :=
    ⟨_, List.mem_singleton.mpr rfl, rfl⟩
  have hStored : Filter.IsStored numbered row.metadata :=
    .thingSaved rfl rfl rfl (hId ▸ hAnswer) hRow
  refine ⟨hAskable, rfl, row.metadata, hStored,
    (filter_means_stored_form_iff .counting numbered hAskable).2.2 hNul _ hStored, ?_⟩
  rw [Filter.selectsMetadata_partOf hStored.isHeld
    (hAskable.imp fun _ => Metadata.hasDigits_of_isAskable)]
  rfl

end Store

end DeviceRegistry
