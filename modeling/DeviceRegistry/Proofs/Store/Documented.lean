import DeviceRegistry.Proofs.Metadata.RoundTrip
import DeviceRegistry.Proofs.Store.EntityTable
import DeviceRegistry.Proofs.Store.Pages

/-! The metadata of every stored row is the text of some metadata, so that loading a row never
fails. Only the key of a thing may be of another kind than a text, and then the row still is found
but shows no thing. -/
namespace DeviceRegistry

def Metadata.IsDocument (cell : Cell) : Prop :=
  ∃ entries text, encode (.map entries) = .ok text ∧ cell = .text text

/-- Documents are read back as mappings. -/
theorem Metadata.IsDocument.decode {cell : Cell} (hDocument : IsDocument cell) :
    ∃ entries, Metadata.decode cell.toValue = .ok entries := by
  obtain ⟨entries, text, hEncoded, rfl⟩ := hDocument
  exact ⟨_, decode_encode hEncoded⟩

namespace EntityTable

variable {Row Entity : Type} {table : EntityTable Row Entity} {store : Store}

/-- Metadata that is written is the text of some metadata, and all other metadata stays as it is. -/
theorem Change.documented {rows : List Row} (hChange : table.Change store rows)
    (hAll : ∀ row ∈ table.rows store, Metadata.IsDocument (table.metadata row)) :
    ∀ row ∈ rows, Metadata.IsDocument (table.metadata row) := by
  refine hChange.forall_mem hAll (fun entity text hAccepts => ?_)
    (fun entity text hUpdates row _ => ?_) ?_
  · rw [newRow, table.metadata_ofEntity]
    exact ⟨_, text, hAccepts.written, rfl⟩
  · rw [table.metadata_withContent]
    exact ⟨_, text, hUpdates.written, rfl⟩
  · intro row other hCommon hDocument
    obtain ⟨-, hOthers⟩ := Prod.mk.inj hCommon
    obtain ⟨-, hMetadata⟩ := Prod.mk.inj hOthers
    rwa [(Prod.mk.inj hMetadata).2]

/-- A row that holds a document can be loaded. -/
theorem exists_load_of_isDocument {row : Row}
    (hDocument : Metadata.IsDocument (table.metadata row)) :
    ∃ metadata, table.load row = .ok (row, metadata) := by
  obtain ⟨metadata, hRead⟩ := hDocument.decode
  exact ⟨metadata, by rw [load, hRead]; rfl⟩

variable (table) in
def shown (row : Row) : Except Failure Entity := table.load row >>= table.toEntity

theorem load_eq_ok {row : Row} {loaded : Row × Mapping} (hLoad : table.load row = .ok loaded) :
    loaded.1 = row ∧ Metadata.decode (table.metadata row).toValue = .ok loaded.2 := by
  obtain ⟨metadata, hDecode, rfl⟩ := map_ok_iff.mp hLoad
  exact ⟨rfl, hDecode⟩

/-- An entity has all that entities have from its row, and its metadata from the text in it. -/
theorem of_shown {row : Row} {entity : Entity} (hShown : table.shown row = .ok entity) :
    ∃ metadata, Metadata.decode (table.metadata row).toValue = .ok metadata ∧
      table.describe entity = ⟨table.id row, table.owner row, table.name row, metadata⟩ := by
  obtain ⟨⟨found, metadata⟩, hLoad, hEntity⟩ := bind_ok_iff.mp hShown
  obtain ⟨rfl, hDecode⟩ := load_eq_ok hLoad
  exact ⟨metadata, hDecode, table.describe_toEntity _ _ hEntity⟩

end EntityTable

/-- A key that is a text is shown as it is. -/
theorem ThingRow.toThing_text {row : ThingRow} {key : String} (hKey : row.key = .text key)
    (metadata : Mapping) :
    toThing (row, metadata) = .ok ⟨row.id, row.owner, row.name, key, metadata⟩ := by
  rw [toThing, hKey]
  rfl

namespace Store

/-- All stored metadata is the text of some metadata. -/
structure Documented (store : Store) : Prop where
  things : ∀ row ∈ store.things, Metadata.IsDocument row.metadata
  channels : ∀ row ∈ store.channels, Metadata.IsDocument row.metadata

namespace Documented

variable {store after : Store}

theorem empty (supply : Identifier.Supply) : (Store.empty supply).Documented where
  things := by simp [Store.empty]
  channels := by simp [Store.empty]

/-- Every effect keeps metadata readable. -/
theorem effect {operation : Operation} {answer : Except Failure Answer}
    (hEffect : Effect store operation after answer) (hDocumented : store.Documented) :
    after.Documented where
  things := hEffect.change_things.documented hDocumented.things
  channels := hEffect.change_channels.documented hDocumented.channels

/-- Runs keep metadata readable. -/
theorem run (hDocumented : store.Documented) (steps : List Step) : (store.run steps).Documented :=
  store.run_preserves (fun _ _ _ _ => effect) steps hDocumented

end Documented

def HasTextKeys (store : Store) : Prop := ∀ row ∈ store.things, ∃ key, row.key = .text key

namespace HasTextKeys

variable {store after : Store}

theorem empty (supply : Identifier.Supply) : (Store.empty supply).HasTextKeys := by
  simp [HasTextKeys, Store.empty]

/-- Only a change of a key gives a thing a key of another kind, and only if it is called
with one. -/
theorem effect {operation : Operation} {answer : Except Failure Answer}
    (hTexts : operation.takesTexts = true) (hEffect : Effect store operation after answer)
    (hKeys : store.HasTextKeys) : after.HasTextKeys := by
  cases hEffect with
  | thingSaved => exact List.forall_mem_append.mpr ⟨hKeys, List.forall_mem_singleton.mpr ⟨_, rfl⟩⟩
  | thingUpdated => exact forall_mem_changed _ hKeys fun _ hRow => hRow
  | @keyChanged owner id key hOwned hFree =>
      rw [Operation.takesTexts, Bool.and_eq_true] at hTexts
      obtain ⟨s, rfl⟩ := Value.eq_text_of_isText hTexts.2
      exact forall_mem_changed _ hKeys fun _ _ => ⟨s, rfl⟩
  | thingRemoved owner id => exact fun row hRow => hKeys row (List.mem_filter.mp hRow).1
  | _ => exact hKeys

theorem run_of_takesTexts {steps : List Step}
    (hTexts : steps.all (fun step => step.operation.takesTexts) = true)
    (hKeys : store.HasTextKeys) : (store.run steps).HasTextKeys :=
  store.run_preserves_of_takesTexts (fun _ _ _ _ => effect) steps hTexts hKeys

theorem run {steps : List Step} (hPlain : steps.all Step.isPlain = true)
    (hKeys : store.HasTextKeys) :
    (store.run steps).HasTextKeys :=
  hKeys.run_of_takesTexts (Step.takesTexts_of_isPlain hPlain)

end HasTextKeys

variable {store : Store}

/-- A thing is shown if its key is a text. -/
theorem Documented.shown_thing (hDocumented : store.Documented) {row : ThingRow}
    (hRow : row ∈ store.things) {key : String} (hKey : row.key = .text key) :
    ∃ metadata, thingTable.shown row = .ok ⟨row.id, row.owner, row.name, key, metadata⟩ := by
  have hDocument : Metadata.IsDocument (thingTable.metadata row) := hDocumented.things row hRow
  obtain ⟨metadata, hLoad⟩ := EntityTable.exists_load_of_isDocument hDocument
  exact ⟨metadata, bind_ok_iff.mpr ⟨_, hLoad, ThingRow.toThing_text hKey metadata⟩⟩

theorem Documented.shown_channel (hDocumented : store.Documented) {row : ChannelRow}
    (hRow : row ∈ store.channels) :
    ∃ metadata, channelTable.shown row = .ok ⟨row.id, row.owner, row.name, metadata⟩ := by
  have hDocument : Metadata.IsDocument (channelTable.metadata row) := hDocumented.channels row hRow
  obtain ⟨metadata, hLoad⟩ := EntityTable.exists_load_of_isDocument hDocument
  exact ⟨metadata, bind_ok_iff.mpr ⟨_, hLoad, rfl⟩⟩

theorem Documented.exists_shown_thing (hDocumented : store.Documented) (hKeys : store.HasTextKeys) :
    ∀ row ∈ store.things, ∃ thing, thingTable.shown row = .ok thing := by
  intro row hRow
  obtain ⟨key, hKey⟩ := hKeys row hRow
  obtain ⟨metadata, hShown⟩ := hDocumented.shown_thing hRow hKey
  exact ⟨_, hShown⟩

theorem Documented.exists_shown_channel (hDocumented : store.Documented) :
    ∀ row ∈ store.channels, ∃ channel, channelTable.shown row = .ok channel := by
  intro row hRow
  obtain ⟨metadata, hShown⟩ := hDocumented.shown_channel hRow
  exact ⟨_, hShown⟩

end Store

end DeviceRegistry
