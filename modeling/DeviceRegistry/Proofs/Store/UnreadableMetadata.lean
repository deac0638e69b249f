import DeviceRegistry.Proofs.Metadata.Column
import DeviceRegistry.Proofs.Store.Atomicity
import DeviceRegistry.Proofs.Store.FilteredListing
import DeviceRegistry.Proofs.Store.PageFailures
import DeviceRegistry.Store.Maintenance

/-! Failures that come from the content of metadata, whoever wrote it. To tell them from all others,
the tables are compared with the same tables with empty metadata in every row. What fails for the
one and not for the other fails because metadata cannot be read, or because a search meets metadata
that is no document. -/
namespace DeviceRegistry

namespace EntityFilter

section Selection

variable {filter : EntityFilter} {cell : Cell} {failure : Failure}

/-- Metadata that is no document is reported in one way. -/
theorem eq_malformed_of_documentOf_error (hFailed : documentOf cell = .error failure) :
    failure = .engine .malformedDocument := by
  cases cell with
  | text s =>
      simp only [documentOf] at hFailed
      split at hFailed <;> cases hFailed
      rfl
  | blob content =>
      simp only [documentOf] at hFailed
      split at hFailed <;> cases hFailed
      rfl
  | _ => cases hFailed

/-- A part of a name is too long for every name or for none. -/
theorem selectsName_cases (filter : EntityFilter) :
    (∀ name, ∃ selected, filter.selectsName name = .ok selected) ∨
      ∃ failure, ∀ name, filter.selectsName name = .error failure := by
  simp only [selectsName]
  cases filter.name with
  | none => exact Or.inl fun name => ⟨true, rfl⟩
  | some part =>
      by_cases hLong : part.isTooLong = true
      · exact Or.inr ⟨_, fun name => if_pos hLong⟩
      · exact Or.inl fun name => ⟨_, if_neg hLong⟩

/-- Where names can be looked at, a row is tested unless its metadata is looked for and is
no document. -/
theorem documentOf_of_selects_error
    (hNames : ∀ name, ∃ selected, filter.selectsName name = .ok selected) {owner : Value}
    {rowOwner rowName : String}
    (hFailed : filter.selects owner rowOwner rowName cell = .error failure) :
    filter.metadata.isSome = true ∧ documentOf cell = .error failure := by
  rw [selects] at hFailed
  split at hFailed
  · obtain ⟨selected, hName⟩ := hNames rowName
    rw [hName] at hFailed
    rcases bind_error_iff.mp hFailed with hName | ⟨_, -, hFailed⟩
    · cases hName
    split at hFailed
    · rw [selectsMetadata] at hFailed
      split at hFailed
      · cases hFailed
      · rename_i part hPart
        exact ⟨by rw [hPart]; rfl, map_error_iff.mp hFailed⟩
    · cases hFailed
  · cases hFailed

/-- Where no name can be looked at, metadata is not looked at either. -/
theorem selects_eq_of_names (hNames : ∀ name, filter.selectsName name = .error failure)
    (owner : Value) (rowOwner rowName : String) (other : Cell) :
    filter.selects owner rowOwner rowName cell = filter.selects owner rowOwner rowName other := by
  simp only [selects, hNames]
  rfl

end Selection

/-- The filter of a value that is not blank looks at metadata, and no other filter does. -/
theorem isBlank_of_isSome_metadata {name metadata : Value} {filter : EntityFilter}
    {parameters : List Value} (hFilter : ofValues name metadata = .ok (filter, parameters))
    (hSome : filter.metadata.isSome = true) :
    metadata.isBlank = false := by
  obtain ⟨part, hPart, hFilter⟩ := bind_ok_iff.mp hFilter
  cases hBlank : metadata.isBlank with
  | false => rfl
  | true =>
      have hNone : Filter.MetadataPart.ofValue metadata = .ok none := if_pos hBlank
      rw [hNone] at hPart
      cases hPart
      obtain ⟨_, -, hFilter⟩ := bind_ok_iff.mp hFilter
      obtain ⟨_, -, hFilter⟩ := bind_ok_iff.mp hFilter
      cases hFilter
      cases hSome

end EntityFilter

/-- What a test does not look at does not matter to a selection. -/
theorem selectedRows_map {ρ : Type} {emptied : ρ → ρ} {test : ρ → Except Failure Bool}
    (hTest : ∀ row, test (emptied row) = test row) (rows : List ρ) :
    selectedRows test (rows.map emptied) = (selectedRows test rows).map (List.map emptied) := by
  induction rows with
  | nil => rfl
  | cons row rows ih =>
      rw [List.map_cons, selectedRows, selectedRows, hTest, ih]
      cases test row with
      | error failure => rfl
      | ok selected =>
          cases selectedRows test rows with
          | error failure => rfl
          | ok others => cases selected <;> rfl

namespace EntityTable

variable {Row Entity : Type} (table : EntityTable Row Entity) {store other : Store}
  {failure : Failure}

def emptied (row : Row) : Row := table.withText row "\x7b\x7d"

/-- Metadata alone decides whether the rows of the table can be shown. -/
def ShowsRows (store : Store) : Prop :=
  ∀ row ∈ table.rows store, ∀ metadata, ∃ entity, table.toEntity (row, metadata) = .ok entity

def HoldsUnread (store : Store) (failure : Failure) : Prop :=
  ∃ row ∈ table.rows store, Metadata.decode (table.metadata row).toValue = .error failure

variable {table}

/-- Empty metadata is always loaded. -/
theorem load_emptied (row : Row) :
    table.load (table.emptied row) = .ok (table.emptied row, []) := by
  rw [load, emptied, withText, table.metadata_withContent]
  rfl

theorem rows_subset_of_selected {owner : Value} {filter : EntityFilter} {rows : List Row}
    (hRows : table.selected store owner filter = .ok rows) : rows ⊆ table.rows store := by
  obtain ⟨selected, hSelected, rfl⟩ := map_ok_iff.mp hRows
  exact fun row hRow =>
    (selectedRows_eq_ok hSelected).1.subset ((orderedBy_perm table.before selected).mem_iff.mp hRow)

theorem rows_subset_of_connected (owner otherId : Value) :
    table.connected store owner otherId ⊆ table.rows store :=
  fun _ hRow => (List.mem_filter.mp ((orderedBy_perm table.before _).mem_iff.mp hRow)).1

section Emptied

variable (hShows : table.ShowsRows store)
  (hRows : table.rows other = (table.rows store).map table.emptied)

include hShows

/-- A row that is not shown has metadata that cannot be read. -/
theorem holdsUnread_of_error {row : Row} (hRow : row ∈ table.rows store)
    (hFailed : table.shown row = .error failure) : table.HoldsUnread store failure := by
  rcases bind_error_iff.mp hFailed with hLoad | ⟨loaded, hLoaded, hConvert⟩
  · exact ⟨row, hRow, map_error_iff.mp hLoad⟩
  · obtain ⟨rfl, -⟩ := load_eq_ok hLoaded
    obtain ⟨entity, hEntity⟩ := hShows loaded.1 hRow loaded.2
    rw [hEntity] at hConvert
    cases hConvert

include hRows

/-- Without any metadata every row can be shown. -/
theorem exists_shown_emptied :
    ∀ row ∈ table.rows other, ∃ entity, table.shown row = .ok entity := by
  intro row hRow
  rw [hRows] at hRow
  obtain ⟨own, hOwn, rfl⟩ := List.mem_map.mp hRow
  obtain ⟨entity, hEntity⟩ := hShows own hOwn []
  refine ⟨entity, bind_ok_iff.mpr ⟨_, load_emptied own, ?_⟩⟩
  rw [emptied, withText, table.toEntity_withContent]
  exact hEntity

/-- A page of rows fails as the page of the same rows without their metadata, unless it is the
metadata of a row that cannot be read or the rows that are not found. -/
theorem pageOf_error {rows : Except Failure (List Row)} {all : List Row}
    {countable : Except Failure Unit} {window : Window}
    (hFound : ∀ found, rows = .ok found → found ⊆ table.rows store) (hAll : all ⊆ table.rows other)
    (hPage : pageOf rows countable window table.load table.toEntity = .error failure) :
    pageOf (.ok all) countable window table.load table.toEntity = .error failure ∨
    rows = .error failure ∨
      table.HoldsUnread store failure := by
  have hRead (found : List Row) (hRowsFound : rows = .ok found) (row : Row) (hRow : row ∈ found)
      (loaded : Row × Mapping) (hLoaded : table.load row = .ok loaded) :
      ∃ entity, table.toEntity loaded = .ok entity := by
    obtain ⟨rfl, -⟩ := load_eq_ok hLoaded
    exact hShows loaded.1 (hFound found hRowsFound hRow) loaded.2
  rcases pageOf_eq_error hRead hPage with hUnfound | ⟨found, hRowsFound, row, hRow, hLoad⟩ | hLast
  · exact Or.inr (Or.inl hUnfound)
  · exact Or.inr (Or.inr ⟨row, hFound found hRowsFound hRow, map_error_iff.mp hLoad⟩)
  · obtain ⟨items, hOthers⟩ := exists_pageOf_eq countable window fun row hRow =>
      exists_shown_emptied hShows hRows row (hAll hRow)
    rw [hOthers]
    refine Or.inl (bind_error_iff.mpr ?_)
    rcases bind_error_iff.mp hLast with hUncounted | ⟨_, hCounted, hWindow⟩
    · exact Or.inl hUncounted
    · exact Or.inr ⟨_, hCounted, ofWindow_eq_error_iff.mpr hWindow⟩

/-- An entity is not found where it is not without any metadata, or its metadata cannot be read. -/
theorem entity_error {owner id : Value} (hFailed : table.entity store owner id = .error failure) :
    table.entity other owner id = .error failure ∨ table.HoldsUnread store failure := by
  cases id with
  | text s =>
      rw [entity] at hFailed ⊢
      refine ite_error_imp hFailed fun hFailed => bind_error_imp hFailed fun _ _ hFound => ?_
      have hSame : table.isOf owner (.text s) ∘ table.emptied = table.isOf owner (.text s) :=
        funext fun row => table.isOf_withText owner (.text s) row _
      have hEmptied : (table.rows other).find? (table.isOf owner (.text s)) =
          ((table.rows store).find? (table.isOf owner (.text s))).map table.emptied := by
        rw [hRows, List.find?_map, hSame]
      rw [hEmptied]
      cases hFind : (table.rows store).find? (table.isOf owner (.text s)) with
      | none =>
          rw [hFind] at hFound
          exact Or.inl hFound
      | some row =>
          rw [hFind] at hFound
          exact Or.inr (holdsUnread_of_error hShows (List.mem_of_find?_eq_some hFind) hFound)
  | _ => exact Or.inl hFailed

/-- A listing along connections fails as it does without any metadata, or it meets metadata that
cannot be read. -/
theorem listConnected_error {owner otherId : Value} {window : Window}
    (hFailed : table.listConnected store owner otherId window = .error failure) :
    table.listConnected other owner otherId window = .error failure ∨
    table.HoldsUnread store failure := by
  cases otherId with
  | text s =>
      rw [listConnected] at hFailed ⊢
      refine ite_error_imp hFailed fun hFailed => bind_error_imp hFailed fun _ _ hPage => ?_
      refine (pageOf_error hShows hRows (fun found hFound => ?_)
        (rows_subset_of_connected owner (.text s))
        hPage).imp_right fun hUnread => hUnread.resolve_left (by simp)
      cases hFound
      exact rows_subset_of_connected owner (.text s)
  | _ => exact Or.inl hFailed

omit hShows

/-- The rows that a search selects are not found where a name cannot be looked at, also without any
metadata, or where metadata that is looked for is no document. -/
theorem selected_emptied_cases (sought : EntityFilter) (owner : Value) :
    (∃ failure, table.selected store owner sought = .error failure ∧
      table.selected other owner sought = .error failure) ∨
    (∃ found, table.selected other owner sought = .ok found) ∧
      ∀ failure, table.selected store owner sought = .error failure →
        sought.metadata.isSome = true ∧
          ∃ row ∈ table.rows store,
            EntityFilter.documentOf (table.metadata row) = .error failure := by
  let test (row : Row) :=
    sought.selects owner (table.owner row) (table.name row) (table.metadata row)
  have hEmptied (row : Row) : test (table.emptied row) =
      sought.selects owner (table.owner row) (table.name row) (.text "\x7b\x7d") := by
    simp only [test, emptied, withText, table.owner_withContent, table.name_withContent,
      table.metadata_withContent]
  rcases sought.selectsName_cases with hNames | ⟨failure, hNames⟩
  · refine Or.inr ⟨?_, fun failure hFailed => ?_⟩
    · rcases selectedRows_cases test (table.rows other) with
        ⟨-, found, hFound⟩ | ⟨row, hRow, failure, hTest, -⟩
      · exact ⟨_, map_ok_iff.mpr ⟨found, hFound, rfl⟩⟩
      · rw [hRows] at hRow
        obtain ⟨own, -, rfl⟩ := List.mem_map.mp hRow
        rw [hEmptied] at hTest
        cases (EntityFilter.documentOf_of_selects_error hNames hTest).2
    · rcases selectedRows_cases test (table.rows store) with
        ⟨-, found, hFound⟩ | ⟨row, hRow, other, hTest, hOther⟩
      · cases (map_error_iff.mp hFailed).symm.trans hFound
      · cases (map_error_iff.mp hFailed).symm.trans hOther
        obtain ⟨hSome, hDocument⟩ := EntityFilter.documentOf_of_selects_error hNames hTest
        exact ⟨hSome, row, hRow, hDocument⟩
  · have hTest (row : Row) : test (table.emptied row) = test row := by
      rw [hEmptied]
      exact EntityFilter.selects_eq_of_names hNames owner _ _ _
    have hMapped : selectedRows test (table.rows other) =
        (selectedRows test (table.rows store)).map (List.map table.emptied) := by
      rw [hRows, selectedRows_map hTest]
    change (∃ failure, (selectedRows test (table.rows store)).map _ = .error failure ∧
      (selectedRows test (table.rows other)).map _ = .error failure) ∨
      (∃ found, (selectedRows test (table.rows other)).map _ = .ok found) ∧
        ∀ failure, (selectedRows test (table.rows store)).map _ = .error failure → _
    rw [hMapped]
    cases selectedRows test (table.rows store) with
    | error failure => exact Or.inl ⟨failure, rfl, rfl⟩
    | ok found => exact Or.inr ⟨⟨_, rfl⟩, fun failure hFailed => by cases hFailed⟩

include hShows

/-- A search fails as it does without any metadata, unless it meets metadata that cannot be read or
is no document. -/
theorem list_error {owner name metadata : Value} {window : Window}
    (hFailed : table.list store owner window name metadata = .error failure) :
    table.list other owner window name metadata = .error failure ∨
      table.HoldsUnread store failure ∨
      metadata.isBlank = false ∧ failure = .engine .malformedDocument ∧
        ∃ row ∈ table.rows store,
          EntityFilter.documentOf (table.metadata row) = .error failure := by
  refine bind_error_imp hFailed fun (sought, parameters) hFilter hFailed => ?_
  refine bind_error_imp hFailed fun _ _ hFailed => bind_error_imp hFailed fun _ _ hPage => ?_
  rcases selected_emptied_cases hRows sought owner with
    ⟨failure, hStore, hOther⟩ | ⟨⟨found, hFound⟩, hStore⟩
  · rw [hStore] at hPage
    rw [hOther]
    exact Or.inl hPage
  · rw [hFound]
    refine (pageOf_error hShows hRows (fun _ => rows_subset_of_selected)
      (rows_subset_of_selected hFound)
      hPage).imp_right ?_
    rintro (hUnfound | hUnread)
    · obtain ⟨hSome, row, hRow, hDocument⟩ := hStore failure hUnfound
      exact Or.inr ⟨EntityFilter.isBlank_of_isSome_metadata hFilter hSome,
        EntityFilter.eq_malformed_of_documentOf_error hDocument, row, hRow, hDocument⟩
    · exact Or.inl hUnread

end Emptied

end EntityTable

def Operation.searchesMetadata : Operation → Bool
  | .listThings _ _ _ metadata | .listChannels _ _ _ metadata => !metadata.isBlank
  | _ => false

namespace Store

def emptied (store : Store) : Store :=
  { store with
    things := store.things.map thingTable.emptied
    channels := store.channels.map channelTable.emptied }

def metadataCells (store : Store) : List Cell :=
  store.things.map ThingRow.metadata ++ store.channels.map ChannelRow.metadata

variable {store : Store} {failure : Failure}

theorem showsRows_things (hKeys : store.HasTextKeys) : thingTable.ShowsRows store := by
  intro row hRow metadata
  obtain ⟨key, hKey⟩ := hKeys row hRow
  exact ⟨_, ThingRow.toThing_text hKey metadata⟩

theorem showsRows_channels : channelTable.ShowsRows store := fun _ _ _ => ⟨_, rfl⟩

/-- Why a reading fails that would not fail so with empty metadata in every row. -/
inductive MetadataFault (store : Store) (operation : Operation) (failure : Failure) : Prop where
  | unread {cell : Cell} (hCell : cell ∈ store.metadataCells)
      (hUnread : Metadata.decode cell.toValue = .error failure)
  | noDocument {cell : Cell} (hCell : cell ∈ store.metadataCells)
      (hSearch : operation.searchesMetadata = true)
      (hNoDocument : EntityFilter.documentOf cell = .error failure)
      (hMalformed : failure = .engine .malformedDocument)

section Table

variable {Row Entity : Type} {table : EntityTable Row Entity} {other : Store}
  {operation : Operation}
  (hCells : (table.rows store).map table.metadata ⊆ store.metadataCells)

include hCells

theorem metadataFault_of_unread (hUnread : table.HoldsUnread store failure) :
    store.MetadataFault operation failure := by
  obtain ⟨row, hRow, hUnread⟩ := hUnread
  exact .unread (hCells (List.mem_map_of_mem hRow)) hUnread

/-- A search for metadata fails as it does without any metadata, or for a fault of metadata. -/
theorem metadataFault_of_list (hShows : table.ShowsRows store)
    (hRows : table.rows other = (table.rows store).map table.emptied)
    {owner name metadata : Value} {window : Window}
    (hSearch : operation.searchesMetadata = !metadata.isBlank)
    (hFailed : table.list store owner window name metadata = .error failure) :
    table.list other owner window name metadata = .error failure ∨
      store.MetadataFault operation failure := by
  refine (EntityTable.list_error hShows hRows hFailed).imp_right ?_
  rintro (hUnread | ⟨hAsked, hMalformed, row, hRow, hNoDocument⟩)
  · exact metadataFault_of_unread hCells hUnread
  · exact .noDocument (hCells (List.mem_map_of_mem hRow)) (by rw [hSearch, hAsked]; rfl)
      hNoDocument hMalformed

end Table

theorem emptied_thingByKey (key : Value) : store.emptied.thingByKey key = store.thingByKey key := by
  have hSame : (fun row : ThingRow => key.equalsCell row.key) ∘ thingTable.emptied = fun row =>
      key.equalsCell row.key :=
    rfl
  rw [thingByKey, thingByKey, emptied, List.find?_map, hSame]
  cases store.things.find? fun row => key.equalsCell row.key <;> rfl

/-- A reading fails whatever the metadata, or for metadata that cannot be read or searched. -/
theorem reading_error (hKeys : store.HasTextKeys) {reading : Step}
    (hReading : reading.operation.isReading = true)
    (hFailed : (store.perform reading).answer = .error failure) :
    (store.emptied.perform reading).answer = .error failure ∨
    store.MetadataFault reading.operation failure := by
  have hThings : store.things.map thingTable.metadata ⊆ store.metadataCells :=
    List.subset_append_left _ _
  have hChannels : store.channels.map channelTable.metadata ⊆ store.metadataCells :=
    List.subset_append_right _ _
  obtain ⟨operation, injected⟩ := reading
  cases operation with
  | getThing owner id =>
      exact (EntityTable.entity_error (showsRows_things hKeys) rfl (map_error_iff.mp hFailed)).imp
        map_error_iff.mpr (metadataFault_of_unread hThings)
  | getChannel owner id =>
      exact (EntityTable.entity_error showsRows_channels rfl (map_error_iff.mp hFailed)).imp
        map_error_iff.mpr (metadataFault_of_unread hChannels)
  | listThings owner window name metadata =>
      exact (metadataFault_of_list hThings (showsRows_things hKeys) rfl rfl
        (map_error_iff.mp hFailed)).imp_left map_error_iff.mpr
  | listChannels owner window name metadata =>
      exact (metadataFault_of_list hChannels showsRows_channels rfl rfl
        (map_error_iff.mp hFailed)).imp_left map_error_iff.mpr
  | listThingsOnChannel owner channelId window =>
      exact (EntityTable.listConnected_error (showsRows_things hKeys) rfl
        (map_error_iff.mp hFailed)).imp map_error_iff.mpr (metadataFault_of_unread hThings)
  | listChannelsOfThing owner thingId window =>
      exact (EntityTable.listConnected_error showsRows_channels rfl (map_error_iff.mp hFailed)).imp
        map_error_iff.mpr (metadataFault_of_unread hChannels)
  | getThingByKey key =>
      refine Or.inl (map_error_iff.mpr ?_)
      rw [emptied_thingByKey]
      exact map_error_iff.mp hFailed
  | hasThing channelId key =>
      refine Or.inl (map_error_iff.mpr ?_)
      rw [authorizedByKey, emptied_thingByKey]
      exact map_error_iff.mp hFailed
  | readMessages channelId window query =>
      have hSame : (store.emptied.readMessages channelId window query).answer =
          (store.readMessages channelId window query).answer := by
        unfold readMessages
        cases Filter.Query.conditions query <;> rfl
      refine Or.inl (map_error_iff.mpr ?_)
      rw [hSame]
      exact map_error_iff.mp hFailed
  | hasThingById channelId thingId => exact Or.inl hFailed
  | isConnected channelId thingId => exact Or.inl hFailed
  | _ => cases hReading

/-- Reading a raw value of a metadata column ends in three ways. It gives a mapping, or the value is
reported as no metadata, unless the value holds bytes that are no text: those are reported as such.
In whatever state the metadata of the tables is, a reading fails as it would with empty metadata in
every row, or for metadata that is read in one of these ways, or because it searches metadata that
is no document. Texts in the tables are taken to be well-formed UTF-8, so that only a blob can hold
bytes that are no text. -/
theorem metadata_failures_exact (store : Store) (hKeys : store.HasTextKeys) :
    (∀ raw : Value, ¬ Metadata.IsNoText raw → (∃ entries, Metadata.decode raw = .ok entries) ∨
      ∃ fault, Metadata.decode raw = .error (.unreadableMetadata fault)) ∧
    (∀ raw : Value, Metadata.IsNoText raw → Metadata.decode raw = .error .undecodableMetadata) ∧
    (∀ holder text, Metadata.decode (.bytes holder (Text.encoded text)) =
      Metadata.decode (.text (String.ofList text))) ∧
    ∀ reading : Step, reading.operation.isReading = true → ∀ failure,
      (store.perform reading).answer = .error failure →
        (store.emptied.perform reading).answer = .error failure ∨
        store.MetadataFault reading.operation failure := by
  refine ⟨fun raw => (Metadata.decode_cases raw).resolve_left,
    fun raw => Metadata.decode_of_isNoText,
    Metadata.decode_encoded, fun reading hReading failure hFailed =>
      reading_error hKeys hReading hFailed⟩

/-- Something else writes a byte that starts no character. -/
theorem metadata_failures_exact_overwritten :
    let thingId := Value.text "00000000-0000-0000-0000-0000000000d1"
    let raw := Value.bytes .fixed [0xFF]
    let store := ((empty.run contested).overwriteMetadata .thing thingId raw).store
    let lookup : Step := ⟨.getThing (.text "ada") thingId, none⟩
    store.HasTextKeys ∧ Metadata.IsNoText raw ∧
    (store.perform lookup).answer = .error .undecodableMetadata ∧
    ¬ (store.emptied.perform lookup).answer = .error .undecodableMetadata ∧
    store.MetadataFault lookup.operation .undecodableMetadata := by
  intro thingId raw store lookup
  have hKeys : store.HasTextKeys := by
    have hTexts : store.things.map ThingRow.key = [.text "1", .text "2"] := rfl
    intro row hRow
    have hMem : row.key ∈ store.things.map ThingRow.key := List.mem_map_of_mem hRow
    rw [hTexts, List.mem_pair] at hMem
    exact hMem.elim (fun hKey => ⟨_, hKey⟩) fun hKey => ⟨_, hKey⟩
  have hNoText : Metadata.IsNoText raw := by
    refine ⟨.fixed, [0xFF], rfl, fun text hText => ?_⟩
    have hRead := Text.decode?_eq_some_iff.mpr hText
    simp [Text.decode?, Text.symbolsOfBytes, Text.firstChar?] at hRead
  obtain ⟨-, hDecode, -, hReadings⟩ := metadata_failures_exact store hKeys
  have hAnswer : (store.perform lookup).answer = .error .undecodableMetadata := by
    change (((Metadata.decode raw).map fun _ => _) >>= _).map _ = _
    rw [hDecode raw hNoText]
    rfl
  have hEmptied : ¬ (store.emptied.perform lookup).answer = .error .undecodableMetadata := by
    intro hSame
    cases hSame
  exact ⟨hKeys, hNoText, hAnswer, hEmptied, (hReadings lookup rfl _ hAnswer).resolve_left hEmptied⟩

end Store

end DeviceRegistry
