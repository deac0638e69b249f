import DeviceRegistry.Proofs.Metadata.WrittenAgain
import DeviceRegistry.Proofs.Store.LastWrite
import DeviceRegistry.Proofs.Store.Lengths
import DeviceRegistry.Proofs.Store.Listing

/-! Updates with what was read before, unmodified. They succeed and are read back as before, yet the
text of the metadata is written again. It stays the same, and with it all tables, exactly if the
metadata that the text was written of has its names apart. Otherwise entries are left out of the
text for good, which a second update does not change any more. -/
namespace DeviceRegistry

/-- A stored text is written again of what was read from it, and read back as it was. -/
theorem Metadata.IsDocument.encode_again {cell : Cell} {metadata : Mapping}
    (hDocument : IsDocument cell) (hRead : Metadata.decode cell.toValue = .ok metadata) :
    ∃ again, encode (.map metadata) = .ok again ∧ Metadata.decode (.text again) = .ok metadata := by
  obtain ⟨entries, text, hEncoded, rfl⟩ := hDocument
  exact Metadata.encode_again hEncoded hRead

namespace EntityTable

variable {Row Entity : Type} (table : EntityTable Row Entity)

def rewritten (store : Store) (entity : Entity) (text : String) : Store :=
  table.change store (.text (table.describe entity).owner)
    (.text (table.describe entity).id) fun row =>
    table.withText row text

/-- What becomes of an entity in an update with what was just read of it. The update succeeds, the
entity is read as before, and to update it so once more changes nothing. At most the text of its
metadata changes, which is written again, and it stays the same exactly if the metadata that it was
written of has its names apart. -/
structure Kept (store after : Store) (owner id : Value) (entity : Entity) : Prop where
  updated : table.update store entity none = ⟨after, .ok (), []⟩
  readAlike : table.entity after owner id = .ok entity
  settled : table.update after entity none = ⟨after, .ok (), []⟩
  writtenAgain : ∃ again, Metadata.encode (.map (table.describe entity).metadata) = .ok again ∧
    after = table.rewritten store entity again
  unchanged : ∃ row ∈ table.rows store, table.id row = (table.describe entity).id ∧
    Metadata.IsDocument (table.metadata row) ∧
    ∀ entries text, Metadata.encode (.map entries) = .ok text → table.metadata row = .text text →
      (after = store ↔ (Value.map entries).Throughout Value.NamesApart)

variable {table} {store : Store} {owner id : Value} {entity : Entity} {row : Row} {again : String}

theorem withText_withText (row : Row) (first text : String) :
    table.withText (table.withText row first) text = table.withText row text := by
  rw [withText, withText, table.name_withContent, table.withContent_withContent, withText]

/-- A row is the same after another text for its metadata only if it had that text. -/
theorem withText_eq_self_iff (row : Row) (text : String) :
    table.withText row text = row ↔ table.metadata row = .text text := by
  constructor
  · intro hSame
    rw [← hSame, withText, table.metadata_withContent]
  · intro hSame
    rw [withText, ← hSame, table.withContent_self]

/-- A row is shown as before if its metadata is still read from the new text. -/
theorem shown_withText (hShown : table.shown row = .ok entity)
    (hAgain : Metadata.decode (.text again) = .ok (table.describe entity).metadata) :
    table.shown (table.withText row again) = .ok entity := by
  obtain ⟨⟨found, metadata⟩, hLoad, hEntity⟩ := bind_ok_iff.mp hShown
  obtain ⟨rfl, -⟩ := load_eq_ok hLoad
  have hDescribed := table.describe_toEntity _ _ hEntity
  rw [hDescribed] at hAgain
  refine bind_ok_iff.mpr ⟨(table.withText found again, metadata), ?_, ?_⟩
  · rw [load, withText, table.metadata_withContent]
    exact map_ok_iff.mpr ⟨metadata, hAgain, rfl⟩
  · rw [withText, table.toEntity_withContent]
    exact hEntity

/-- An entity that was read is the one of its row, and in other tables the row that is found there
is read alike. -/
theorem exists_row_of_entity (hEntity : table.entity store owner id = .ok entity) :
    ∃ row, (table.rows store).find? (table.isOf owner id) = some row ∧
    table.shown row = .ok entity ∧
      ∀ (after : Store) (found : Row), (table.rows after).find? (table.isOf owner id) = some found →
        table.entity after owner id = table.shown found := by
  cases id with
  | text s =>
      rw [EntityTable.entity] at hEntity
      split at hEntity
      · cases hEntity
      · rename_i hValid
        obtain ⟨cells, hCells, hEntity⟩ := bind_ok_iff.mp hEntity
        split at hEntity
        · cases hEntity
        · rename_i row hRow
          refine ⟨row, hRow, hEntity, fun after found hFound => ?_⟩
          rw [EntityTable.entity, if_neg hValid, hCells, hFound]
          rfl
  | _ => cases hEntity

section Row

variable (hIdentifies : table.Identifies (table.rows store)) (hRow : row ∈ table.rows store)
  (hShown : table.shown row = .ok entity)

include hIdentifies hRow hShown

/-- Only its own row has the owner and the identifier of an entity. -/
theorem isOf_shown_iff : ∀ other ∈ table.rows store,
    table.isOf (.text (table.describe entity).owner) (.text (table.describe entity).id) other =
      true ↔
      other = row := by
  obtain ⟨metadata, -, hDescribed⟩ := of_shown hShown
  intro other hOther
  rw [hDescribed, isOf_text, decide_eq_true_eq, identity_eq_iff]
  constructor
  · exact fun hSame => List.inj_on_of_nodup_map hIdentifies.nodup hOther hRow hSame.2
  · rintro rfl
    exact ⟨rfl, rfl⟩

/-- An update with what a row shows gives the metadata another text and changes nothing else. -/
theorem update_of_shown (hShort : (Cell.text (table.name row)).length ≤ maxNameLength)
    (hAgain : Metadata.encode (.map (table.describe entity).metadata) = .ok again) :
    table.update store entity none = ⟨table.rewritten store entity again, .ok (), []⟩ := by
  have hOnly := isOf_shown_iff hIdentifies hRow hShown
  have hName : (table.describe entity).name = table.name row := by
    obtain ⟨metadata, -, hDescribed⟩ := of_shown hShown
    rw [hDescribed]
  have hOwned : (table.rows store).any
      (table.isOf (.text (table.describe entity).owner) (.text (table.describe entity).id)) =
        true :=
    List.any_eq_true.mpr ⟨row, hRow, (hOnly row hRow).mpr rfl⟩
  have hSame : table.updated store entity again = table.rewritten store entity again := by
    rw [updated, rewritten, EntityTable.change, EntityTable.change, changed_congr]
    intro other hOther hFound
    rw [(hOnly other hOther).mp hFound, hName, withText]
  simp only [EntityTable.update, hAgain, hOwned, hName, Nat.not_lt.mpr hShort, hSame, Bool.not_true,
    Bool.false_eq_true, if_false]

/-- The tables stay the same exactly if the row has the text already. -/
theorem rewritten_eq_self_iff (text : String) :
    table.rewritten store entity text = store ↔ table.metadata row = .text text := by
  have hRows : table.rewritten store entity text = store ↔
      table.rows (table.rewritten store entity text) = table.rows store := by
    refine ⟨congrArg table.rows, fun hSame => ?_⟩
    rw [rewritten, rows_change] at hSame
    rw [rewritten, EntityTable.change, hSame, table.withRows_rows]
  rw [hRows, rewritten, rows_change, changed_eq_self_iff hRow
    (isOf_shown_iff hIdentifies hRow hShown)]
  exact withText_eq_self_iff row text

end Row

/-- Another text for metadata leaves identifiers as they are. -/
theorem Identifies.rewritten (hIdentifies : table.Identifies (table.rows store)) (entity : Entity)
    (text : String) :
    table.Identifies (table.rows (table.rewritten store entity text)) := by
  refine hIdentifies.of_sublist ?_
  rw [EntityTable.rewritten, map_change]
  exact fun row => table.id_withContent row _ _

/-- The same text once more changes nothing. -/
theorem rewritten_rewritten (store : Store) (entity : Entity) (text : String) :
    table.rewritten (table.rewritten store entity text) entity text =
      table.rewritten store entity text := by
  have hAgain := changed_changed (table.rows store)
    (table.isOf (.text (table.describe entity).owner) (.text (table.describe entity).id))
    (table.withText · text)
    (fun row => table.isOf_withText _ _ row text) fun row => withText_withText row text text
  rw [rewritten, EntityTable.change, rewritten, rows_change, hAgain, EntityTable.change,
    table.withRows_withRows]

/-- An update with an entity that was just read, unmodified, does what it should, apart from
the text. -/
theorem exists_kept (hIdentifies : table.Identifies (table.rows store))
    (hDocuments : ∀ row ∈ table.rows store, Metadata.IsDocument (table.metadata row))
    (hFits : ∀ row ∈ table.rows store, table.Fits row)
    (hEntity : table.entity store owner id = .ok entity) :
    ∃ after, table.Kept store after owner id entity := by
  obtain ⟨row, hFound, hShown, hAlike⟩ := exists_row_of_entity hEntity
  have hRow := List.mem_of_find?_eq_some hFound
  have hShort (row : Row) (hRow : row ∈ table.rows store) :
      (Cell.text (table.name row)).length ≤ maxNameLength :=
    (Cell.length_text_le_iff _ _).mpr (hFits row hRow).2
  obtain ⟨metadata, hDecode, hDescribed⟩ := of_shown hShown
  have hMetadata : (table.describe entity).metadata = metadata :=
    congrArg Description.metadata hDescribed
  rw [← hMetadata] at hDecode
  obtain ⟨again, hAgain, hReadAgain⟩ := (hDocuments row hRow).encode_again hDecode
  have hIsOf := (isOf_shown_iff hIdentifies hRow hShown row hRow).mpr rfl
  have hFoundAgain : (table.rows (table.rewritten store entity again)).find? (table.isOf owner id) =
      some (table.withText row again) := by
    rw [rewritten, rows_change,
      find?_changed _ _ (fun row => table.isOf_withText owner id row again) hFound, if_pos hIsOf]
  -- The row with the new text shows the same entity, so that the second update is an update with
  -- what was read, too.
  have hShownAgain := shown_withText hShown hReadAgain
  have hShortAgain : (Cell.text (table.name (table.withText row again))).length ≤
      maxNameLength := by
    rw [withText, table.name_withContent]
    exact hShort row hRow
  have hUpdatedAgain := update_of_shown (hIdentifies.rewritten entity again)
    (List.mem_of_find?_eq_some hFoundAgain) hShownAgain hShortAgain hAgain
  rw [rewritten_rewritten] at hUpdatedAgain
  exact ⟨table.rewritten store entity again,
    { updated := update_of_shown hIdentifies hRow hShown (hShort row hRow) hAgain
      readAlike := (hAlike _ _ hFoundAgain).trans hShownAgain
      settled := hUpdatedAgain
      writtenAgain := ⟨again, hAgain, rfl⟩
      unchanged := by
        refine ⟨row,
          hRow, by rw [hDescribed], hDocuments row hRow, fun entries text hEncoded hCell => ?_⟩
        rw [hCell] at hDecode
        rw [rewritten_eq_self_iff hIdentifies hRow hShown, hCell, Cell.text.injEq, eq_comm,
          Metadata.encode_again_eq_iff hEncoded hDecode hAgain] }⟩

end EntityTable

namespace Store

/-- After every run, an update with a thing or a channel that was just read succeeds, is read back,
and changes at most the text of its metadata. No table changes exactly if no keys of the stored
metadata share a name. -/
theorem unmodified_update_exact (supply : Identifier.Supply) (steps : List Step)
    (owner id : Value) :
    let store := (empty supply).run steps
    (∀ thing, store.thing owner id = .ok thing →
      ∃ after, thingTable.Kept store after owner id thing) ∧
    ∀ channel, store.channel owner id = .ok channel →
      ∃ after, channelTable.Kept store after owner id channel := by
  intro store
  have hIdentified : store.Identified := (Identified.empty supply).run steps
  have hDocumented : store.Documented := (Documented.empty supply).run steps
  have hFitting : store.Fitting := (Fitting.empty supply).run steps
  exact ⟨fun _ => EntityTable.exists_kept hIdentified.things hDocumented.things hFitting.things,
    fun _ => EntityTable.exists_kept hIdentified.channels hDocumented.channels hFitting.channels⟩

/-- Metadata with a number for a key inside a mapping, beside other entries. -/
def numberedBeside (others : Mapping) : Mapping :=
  [(.text "a", .map ((.int 1, .text "x") :: others))]

/-- A thing is saved whose metadata has the text of the number for a key as well, and a channel with
no such key. -/
def doubled : List Step :=
  let entity (id : String) (metadata : Mapping) : Mapping :=
    [(.text "id", .text id), (.text "owner", .text "ada"), (.text "key", .text "k"),
      (.text "metadata", .map metadata)]
  [⟨.saveThing
    (entity "00000000-0000-0000-0000-0000000000d1" (numberedBeside [(.text "1", .text "y")])),
    none⟩, ⟨.saveChannel (entity "00000000-0000-0000-0000-0000000000c1" (numberedBeside [])), none⟩]

/-- The update with the thing changes a table. The update with the channel changes none. -/
theorem unmodified_update_exact_doubled :
    let store := empty.run doubled
    let thingId := "00000000-0000-0000-0000-0000000000d1"
    let channelId := "00000000-0000-0000-0000-0000000000c1"
    let thing : Thing := ⟨thingId, "ada", "", "k", [(.text "a", .map [(.text "1", .text "y")])]⟩
    let channel : Channel := ⟨channelId, "ada", "", [(.text "a", .map [(.text "1", .text "x")])]⟩
    store.thing (.text "ada") (.text thingId) = .ok thing ∧
    (store.updateThing thing none).store ≠ store ∧
      store.channel (.text "ada") (.text channelId) = .ok channel ∧
      (store.updateChannel channel none).store = store := by
  intro store thingId channelId thing channel
  have hThingText : Metadata.encode (.map (numberedBeside [(.text "1", .text "y")])) =
      .ok "\x7b\"a\":\x7b\"1\":\"x\",\"1\":\"y\"\x7d\x7d" := rfl
  have hChannelText : Metadata.encode (.map (numberedBeside [])) =
      .ok "\x7b\"a\":\x7b\"1\":\"x\"\x7d\x7d" := rfl
  have hThings : store.things =
      [⟨thingId, "ada", "", .text "k", .text "\x7b\"a\":\x7b\"1\":\"x\",\"1\":\"y\"\x7d\x7d"⟩] := by
        decide +kernel
  have hChannels : store.channels =
      [⟨channelId, "ada", "", .text "\x7b\"a\":\x7b\"1\":\"x\"\x7d\x7d"⟩] := by
    decide +kernel
  have hIdentified : store.Identified := (Identified.empty .counting).run doubled
  have hThing : store.thing (.text "ada") (.text thingId) = .ok thing := by
    have hIdentifies : thingTable.Identifies (thingTable.rows store) := hIdentified.things
    rw [Store.thing, EntityTable.entity_text hIdentifies]
    change (store.things.find? _).elim _ _ = _
    rw [hThings]
    exact bind_ok_iff.mpr
      ⟨(_, thing.metadata), map_ok_iff.mpr ⟨_, Metadata.decode_encode hThingText, rfl⟩, rfl⟩
  have hChannel : store.channel (.text "ada") (.text channelId) = .ok channel := by
    have hIdentifies : channelTable.Identifies (channelTable.rows store) := hIdentified.channels
    rw [Store.channel, EntityTable.entity_text hIdentifies]
    change (store.channels.find? _).elim _ _ = _
    rw [hChannels]
    exact bind_ok_iff.mpr
      ⟨(_, channel.metadata), map_ok_iff.mpr ⟨_, Metadata.decode_encode hChannelText, rfl⟩, rfl⟩
  obtain ⟨afterThing, hThingKept⟩ :=
    (unmodified_update_exact .counting doubled (.text "ada") (.text thingId)).1 thing hThing
  obtain ⟨afterChannel, hChannelKept⟩ :=
    (unmodified_update_exact .counting doubled (.text "ada") (.text channelId)).2 channel hChannel
  change thingTable.Kept store _ _ _ _ at hThingKept
  change channelTable.Kept store _ _ _ _ at hChannelKept
  refine ⟨hThing, ?_, hChannel, ?_⟩
  · obtain ⟨row, hRow, -, -, hUnchanged⟩ := hThingKept.unchanged
    rw [updateThing, hThingKept.updated]
    intro hSame
    change row ∈ store.things at hRow
    rw [hThings] at hRow
    have hMetadata := congrArg ThingRow.metadata (List.mem_singleton.mp hRow)
    have hApart := (hUnchanged _ _ hThingText hMetadata).mp hSame
    have hNames : ["1", "1"].Nodup := hApart _ (.inMap List.mem_cons_self .here)
    exact absurd hNames (by decide)
  · obtain ⟨row, hRow, -, -, hUnchanged⟩ := hChannelKept.unchanged
    rw [updateChannel, hChannelKept.updated]
    change row ∈ store.channels at hRow
    rw [hChannels] at hRow
    have hMetadata := congrArg ChannelRow.metadata (List.mem_singleton.mp hRow)
    refine (hUnchanged _ _ hChannelText hMetadata).mpr ?_
    simp only [numberedBeside, Value.throughout_map, List.forall_mem_singleton]
    exact ⟨List.nodup_singleton _, List.nodup_singleton _,
      (Value.throughout_of_plain rfl).mpr List.nodup_nil⟩

end Store

end DeviceRegistry
