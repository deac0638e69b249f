import DeviceRegistry.Proofs.Metadata.Searchable
import DeviceRegistry.Proofs.Store.Done
import DeviceRegistry.Proofs.Store.Parameters

/-! Search by a part of metadata is containment. The storage engine compares texts that it reads
anew at every level. What it thereby selects is described here on the values themselves: a mapping
contains another one if it has all keys of it, with values that contain mappings and are otherwise
the same. -/
namespace DeviceRegistry

namespace Filter

open Text (symbols)
open Metadata (nodeOf written)

mutual

/-- What a value of a filter asks of the value in its place. Of a mapping it asks a mapping that
contains it, and of everything else the same value. -/
def Fits : Value → Value → Prop
  | .map sought, held => ∃ entries, held = .map entries ∧ Contains entries sought
  | sought, held => held = sought

/-- Every key of a filter is a key of the document, with a value that fits. -/
def Contains (document : Mapping) : List (Value × Value) → Prop
  | [] => True
  | (key, sought) :: filter => (∃ held, (key, held) ∈ document ∧ Fits sought held) ∧
      Contains document filter

end

namespace MetadataPart

section Agreement

variable {sought held : Value} {filter document : Mapping}

/-- A value without parts agrees with the document of the same value only. -/
theorem agrees_plain_iff (hPlain : sought.hasParts = false) (hSought : sought.IsSearchable)
    (hHeld : held.IsSearchable) : agrees sought (nodeOf held) = true ↔ held = sought := by
  cases sought with
  | null =>
      cases held with
      | null => exact iff_of_true rfl rfl
      | bool _ | int _ | text _ | list _ | map _ => exact iff_of_false Bool.false_ne_true (by simp)
      | _ => cases hHeld
  | bool b =>
      cases held with
      | bool c => rw [nodeOf, agrees, beq_iff_eq, Value.bool.injEq, eq_comm]
      | null | int _ | text _ | list _ | map _ => exact iff_of_false Bool.false_ne_true (by simp)
      | _ => cases hHeld
  | int n =>
      cases held with
      | int m =>
          rw [nodeOf, agrees, Metadata.storedNumber_integerNumeral hHeld,
            Value.Numeric.equals, beq_iff_eq, Value.int.injEq, eq_comm]
      | null | bool _ | text _ | list _ | map _ => exact iff_of_false Bool.false_ne_true (by simp)
      | _ => cases hHeld
  | text s =>
      cases held with
      | text t =>
          have hSame : agrees (.text s) (nodeOf (.text t)) =
              decide (symbols s.toList = symbols t.toList) := by
            rw [nodeOf, ← Metadata.textOfSpelling_escaped hHeld]
            rfl
          rw [hSame, decide_eq_true_eq, Value.text.injEq]
          exact ⟨fun hSymbols => (String.toList_injective (Text.symbols_injective hSymbols)).symm,
            fun hEq => hEq ▸ rfl⟩
      | null | bool _ | int _ | list _ | map _ => exact iff_of_false Bool.false_ne_true (by simp)
      | _ => cases hHeld
  | list _ | map _ => cases hPlain
  | _ => cases hSought

/-- A list agrees with the document of the same list only. Both are compared by their texts. -/
theorem agrees_list_iff {items : List Value}
    (hSought : (Value.list items).Throughout Value.IsSearchable)
    (hHeld : held.Throughout Value.IsSearchable) :
    agrees (.list items) (nodeOf held) = true ↔ held = .list items := by
  obtain ⟨text, hWritten⟩ :=
    Metadata.exists_written (hSought.imp fun _ => Metadata.isAskable_of_isSearchable)
  obtain ⟨heldText, hHeldWritten⟩ :=
    Metadata.exists_written (hHeld.imp fun _ => Metadata.isAskable_of_isSearchable)
  cases held with
  | list inner =>
      have hCompact :=
        Metadata.compact_nodeOf (hHeld.imp fun _ => Metadata.hasDigits_of_isSearchable) heldText
        hHeldWritten
      have hSame : agrees (.list items) (nodeOf (.list inner)) =
          decide (symbols heldText = symbols text) := by
        rw [← hCompact, nodeOf, agrees, agrees.sameText, hWritten]
      rw [hSame, decide_eq_true_eq]
      constructor
      · intro hSymbols
        rw [Text.symbols_injective hSymbols] at hHeldWritten
        exact Metadata.written_injective hHeld hSought hHeldWritten hWritten
      · intro hEq
        rw [hEq, hWritten] at hHeldWritten
        cases hHeldWritten
        rfl
  | null | bool _ | int _ | text _ | map _ => exact iff_of_false Bool.false_ne_true (by simp)
  | _ => cases hHeld.here

/-- A key finds the entry of the same name only. -/
theorem findsKey_name_iff (key name : String) :
    findsKey (.text key) (.name (symbols name.toList)) = true ↔ key = name := by
  rw [findsKey, decide_eq_true_eq]
  exact ⟨fun hSymbols => String.toList_injective (Text.symbols_injective hSymbols),
    fun hEq => hEq ▸ rfl⟩

/-- The entries of a filter are among those of a document exactly when the document contains the
filter, if its values agree exactly where they fit. -/
theorem contained_nodeOf_iff
    (hKeys : ∀ key ∈ filter.map Prod.fst, ∃ s, key = .text s ∧ '\x00' ∉ s.toList)
    (hDocument : (Value.map document).Throughout Value.IsSearchable)
    (hValues : ∀ entry ∈ filter, ∀ held : Value, held.Throughout Value.IsSearchable →
      (agrees entry.2 (nodeOf held) = true ↔ Fits entry.2 held)) :
    contained filter (nodeOf (.map document)) = true ↔ Contains document filter := by
  induction filter with
  | nil => exact iff_of_true rfl trivial
  | cons entry filter ih =>
      obtain ⟨key, sought⟩ := entry
      rw [List.forall_mem_cons] at hValues
      rw [List.map_cons, List.forall_mem_cons] at hKeys
      obtain ⟨⟨s, rfl, -⟩, hKeys⟩ := hKeys
      rw [contained, Bool.and_eq_true, ih hKeys hValues.2, Contains]
      refine and_congr_left' ?_
      rw [Metadata.entries_nodeOf_map hDocument.here, List.any_map, List.any_eq_true]
      constructor
      · rintro ⟨⟨name, held⟩, hMem, hFound⟩
        obtain ⟨t, rfl, -⟩ := hDocument.here.1 name (List.mem_map_of_mem hMem)
        rw [Function.comp, Bool.and_eq_true] at hFound
        obtain rfl := (findsKey_name_iff s t).mp hFound.1
        have hHeld := (Value.throughout_map.mp hDocument).2 _ hMem
        exact ⟨held, hMem, (hValues.1 held hHeld).mp hFound.2⟩
      · rintro ⟨held, hMem, hFits⟩
        have hHeld := (Value.throughout_map.mp hDocument).2 _ hMem
        refine ⟨(.text s, held), hMem, ?_⟩
        rw [Function.comp, Bool.and_eq_true]
        exact ⟨(findsKey_name_iff s s).mpr rfl, (hValues.1 held hHeld).mpr hFits⟩

/-- A value of a filter agrees with the document of a value exactly where it fits the value. -/
theorem agrees_nodeOf_iff (hSought : sought.Throughout Value.IsSearchable) :
    ∀ held : Value, held.Throughout Value.IsSearchable →
      (agrees sought (nodeOf held) = true ↔ Fits sought held) := by
  induction sought using Value.parts_induction with
  | plain sought hPlain =>
      intro held hHeld
      rw [agrees_plain_iff hPlain hSought.here hHeld.here]
      cases sought with
      | map _ => cases hPlain
      | _ => rfl
  | list items ih => exact fun held hHeld => agrees_list_iff hSought hHeld
  | tuple items ih => cases hSought.here
  | map entries ih =>
      intro held hHeld
      cases held with
      | map inner =>
          have hValues := (Value.throughout_map.mp hSought).2
          have hSame : agrees (.map entries) (nodeOf (.map inner)) =
              contained entries (nodeOf (.map inner)) := by
            rw [nodeOf, agrees]
          have hContained := contained_nodeOf_iff hSought.here.1 hHeld fun entry hEntry =>
            ih entry hEntry (hValues entry hEntry)
          rw [hSame, hContained]
          simp [Fits]
      | null | bool _ | int _ | text _ | list _ =>
          exact iff_of_false Bool.false_ne_true (by simp [Fits])
      | _ => cases hHeld.here

end Agreement

section Parameters

open Cell (AreTaken areTaken_append areTaken_texts)

def IsAsked (sought : Value) : Prop :=
  ∃ parameters, valueParameters sought = .ok parameters ∧ AreTaken parameters

theorem areTaken_keyParameters {key : Value} (hKey : key.isAskableKey = true) :
    AreTaken (keyParameters key) := by
  cases key with
  | null | bool _ => exact areTaken_texts []
  | int n =>
      have hFits : Number.fitsWord n = true := hKey
      simp [AreTaken, keyParameters, Value.toCell, hFits]
  | text s => exact areTaken_texts [s]
  | _ => cases hKey

/-- The entries of a filter can be handed over if their keys can be and their values can be. -/
theorem entryParameters_taken {filter : Mapping} (inside : Bool)
    (hKeys : ∀ key ∈ filter.map Prod.fst, key.isAskableKey = true)
    (hValues : ∀ entry ∈ filter, IsAsked entry.2) :
    ∃ parameters, entryParameters inside filter = .ok parameters ∧ AreTaken parameters := by
  induction filter with
  | nil => exact ⟨[], rfl, by simp [AreTaken]⟩
  | cons entry filter ih =>
      obtain ⟨key, sought⟩ := entry
      rw [List.forall_mem_cons] at hValues
      rw [List.map_cons, List.forall_mem_cons] at hKeys
      obtain ⟨first, hFirst, hFirstTaken⟩ := hValues.1
      obtain ⟨others, hOthers, hOthersTaken⟩ := ih hKeys.2 hValues.2
      refine ⟨(if inside then [.text "object", .text "\x7b\x7d"] else []) ++ keyParameters key ++
        first ++ others, ?_, ?_⟩
      · rw [entryParameters, hFirst, hOthers]
        rfl
      · simp only [areTaken_append]
        refine ⟨⟨⟨?_, areTaken_keyParameters hKeys.1⟩, hFirstTaken⟩, hOthersTaken⟩
        cases inside
        · exact areTaken_texts []
        · exact areTaken_texts ["object", "\x7b\x7d"]

theorem valueParameters_items {sought : Value} {items : List Value}
    (hItems : sought = .list items ∨ sought = .tuple items) {text : List Char}
    (hWritten : written sought = .ok text) :
    valueParameters sought = .ok [.text "array", .text (String.ofList text)] := by
  rcases hItems with rfl | rfl <;> rw [valueParameters, valueParameters.listParameters, hWritten]

theorem isAsked_items {sought : Value} {items : List Value}
    (hItems : sought = .list items ∨ sought = .tuple items)
    (hSought : sought.Throughout Value.IsAskable) : IsAsked sought := by
  obtain ⟨text, hWritten⟩ := Metadata.exists_written hSought
  exact ⟨_, valueParameters_items hItems hWritten, areTaken_texts ["array", String.ofList text]⟩

/-- Every value that can be asked for can be handed over. -/
theorem isAsked {sought : Value} (hSought : sought.Throughout Value.IsAskable) :
    IsAsked sought := by
  induction sought using Value.parts_induction with
  | plain sought hPlain =>
      cases sought with
      | null => exact ⟨_, rfl, areTaken_texts ["null"]⟩
      | bool b => exact ⟨_, rfl, areTaken_texts [if b then "true" else "false"]⟩
      | int n =>
          have hFits : Number.fitsWord n = true := hSought.here
          have hTaken : AreTaken [.int n] := by simp [AreTaken, Value.toCell, hFits]
          exact ⟨_, rfl, (areTaken_append [_, _] _).mpr
            ⟨areTaken_texts ["integer", "real"], hTaken⟩⟩
      | text s => exact ⟨_, rfl, areTaken_texts ["text", s]⟩
      | list _ | tuple _ | map _ => cases hPlain
      | _ => cases hSought.here
  | list items ih => exact isAsked_items (Or.inl rfl) hSought
  | tuple items ih => exact isAsked_items (Or.inr rfl) hSought
  | map entries ih =>
      have hValues := (Value.throughout_map.mp hSought).2
      obtain ⟨parameters, hParameters, hTaken⟩ :=
        entryParameters_taken true hSought.here fun entry hEntry =>
        ih entry hEntry (hValues entry hEntry)
      cases entries with
      | nil => exact ⟨_, rfl, areTaken_texts ["object"]⟩
      | cons entry entries =>
          refine ⟨.text "object" :: parameters, ?_,
            (areTaken_append [_] _).mpr ⟨areTaken_texts ["object"], hTaken⟩⟩
          rw [valueParameters, hParameters]
          · rfl
          · exact List.cons_ne_nil _ _

end Parameters

end MetadataPart

def IsHeld (document : Mapping) (cell : Cell) : Prop :=
  ∃ text, Metadata.encode (.map document) = .ok text ∧ cell = .text text

/-- The cell is what a save or an update leaves as the metadata of its thing or channel, in whatever
state of the tables it is performed. -/
inductive IsStored (document : Mapping) : Cell → Prop where
  | thingSaved {moment : Moment} {fields : Mapping} {thing : Thing} {row : ThingRow}
      (hStep : moment.step.operation = .saveThing fields)
      (hFields : Thing.ofFields fields = .valid thing) (hDocument : thing.metadata = document)
      (hDone : moment.answer = .ok (.identifier row.id)) (hRow : row ∈ moment.after.things) :
      IsStored document row.metadata
  | thingUpdated {moment : Moment} {fields : Mapping} {thing : Thing} {row : ThingRow}
      (hStep : moment.step.operation = .updateThing fields)
      (hFields : Thing.ofFields fields = .valid thing) (hDocument : thing.metadata = document)
      (hDone : moment.answer = .ok .done) (hRow : row ∈ moment.after.things)
      (hOf : thingTable.isOf (.text thing.owner) (.text thing.id) row = true) :
      IsStored document row.metadata
  | channelSaved {moment : Moment} {fields : Mapping} {channel : Channel} {row : ChannelRow}
      (hStep : moment.step.operation = .saveChannel fields)
      (hFields : Channel.ofFields fields = .valid channel) (hDocument : channel.metadata = document)
      (hDone : moment.answer = .ok (.identifier row.id)) (hRow : row ∈ moment.after.channels) :
      IsStored document row.metadata
  | channelUpdated {moment : Moment} {fields : Mapping} {channel : Channel} {row : ChannelRow}
      (hStep : moment.step.operation = .updateChannel fields)
      (hFields : Channel.ofFields fields = .valid channel) (hDocument : channel.metadata = document)
      (hDone : moment.answer = .ok .done) (hRow : row ∈ moment.after.channels)
      (hOf : channelTable.isOf (.text channel.owner) (.text channel.id) row = true) :
      IsStored document row.metadata

section Stored

variable {Row Entity : Type} {table : EntityTable Row Entity} {store : Store}
  {entity : Entity} {text : String} {row : Row}

/-- The row of the identifier that a save answers with is the new one. -/
theorem metadata_of_added (hAccepts : table.Accepts store entity text)
    (hRow : row ∈ table.rows (table.added store entity text))
    (hId : table.id row = table.id (table.newRow store entity text)) :
    table.metadata row = .text text := by
  rw [table.rows_added, List.mem_append, List.mem_singleton] at hRow
  rcases hRow with hOld | rfl
  · exact absurd hId (hAccepts.id_ne row hOld)
  · exact table.metadata_ofEntity _ _ _

theorem metadata_of_updated (hRow : row ∈ table.rows (table.updated store entity text))
    (hOf : table.isOf (.text (table.describe entity).owner) (.text (table.describe entity).id) row =
      true) :
    table.metadata row = .text text := by
  rw [EntityTable.updated, table.rows_change] at hRow
  exact eq_of_mem_changed (fun row => table.metadata_withContent row _ _) hOf hRow

/-- Stored metadata is held as its text. -/
theorem IsStored.isHeld {document : Mapping} {cell : Cell} (hStored : IsStored document cell) :
    IsHeld document cell := by
  cases hStored with
  | @thingSaved moment fields thing row hStep hFields hDocument hDone hRow =>
      have hEffect := moment.effect_done hStep hDone
      generalize hId : row.id = id at hEffect
      generalize moment.after = after at hEffect hRow
      cases hEffect with
      | read hReading => cases hReading
      | @thingSaved _ saved text hSaved hAccepts =>
          obtain rfl : thing = saved := by simpa [hFields] using hSaved
          exact ⟨text, hDocument ▸ hAccepts.written, metadata_of_added hAccepts hRow hId⟩
  | @thingUpdated moment fields thing row hStep hFields hDocument hDone hRow hOf =>
      have hEffect := moment.effect_done hStep hDone
      generalize moment.after = after at hEffect hRow
      cases hEffect with
      | read hReading => cases hReading
      | @thingUpdated _ updated text hUpdated hUpdates =>
          obtain rfl : thing = updated := by simpa [hFields] using hUpdated
          exact ⟨text, hDocument ▸ hUpdates.written, metadata_of_updated hRow hOf⟩
  | @channelSaved moment fields channel row hStep hFields hDocument hDone hRow =>
      have hEffect := moment.effect_done hStep hDone
      generalize hId : row.id = id at hEffect
      generalize moment.after = after at hEffect hRow
      cases hEffect with
      | read hReading => cases hReading
      | @channelSaved _ saved text hSaved hAccepts =>
          obtain rfl : channel = saved := by simpa [hFields] using hSaved
          exact ⟨text, hDocument ▸ hAccepts.written, metadata_of_added hAccepts hRow hId⟩
  | @channelUpdated moment fields channel row hStep hFields hDocument hDone hRow hOf =>
      have hEffect := moment.effect_done hStep hDone
      generalize moment.after = after at hEffect hRow
      cases hEffect with
      | read hReading => cases hReading
      | @channelUpdated _ updated text hUpdated hUpdates =>
          obtain rfl : channel = updated := by simpa [hFields] using hUpdated
          exact ⟨text, hDocument ▸ hUpdates.written, metadata_of_updated hRow hOf⟩

end Stored

def partOf (filter : Mapping) : Option MetadataPart :=
  if filter.isEmpty then none else some ⟨filter⟩

/-- Every filter that can be asked for can be handed to the storage engine. -/
theorem ofValues_eq_partOf {filter : Mapping}
    (hFilter : (Value.map filter).Throughout Value.IsAskable) (name : Value)
    (hName : name.isBlank = true) :
    ∃ parameters,
      EntityFilter.ofValues name (.map filter) = .ok (⟨none, partOf filter⟩, parameters) ∧
      Cell.AreTaken parameters := by
  have hNone : NamePart.ofValue name = .ok none := by rw [NamePart.ofValue.eq_def, if_pos hName]
  cases filter with
  | nil =>
      refine ⟨[], ?_, Cell.areTaken_texts []⟩
      rw [EntityFilter.ofValues, hNone]
      rfl
  | cons entry filter =>
      have hValues := (Value.throughout_map.mp hFilter).2
      obtain ⟨parameters, hParameters, hTaken⟩ :=
        MetadataPart.entryParameters_taken false hFilter.here
        fun entry hEntry => MetadataPart.isAsked (hValues entry hEntry)
      refine ⟨parameters, ?_, hTaken⟩
      calc
        EntityFilter.ofValues name (.map (entry :: filter)) =
            (MetadataPart.entryParameters false (entry :: filter)).bind fun parameters =>
              .ok (⟨none, partOf (entry :: filter)⟩, parameters ++ []) := by
          rw [EntityFilter.ofValues, hNone]
          rfl
        _ = _ := by rw [hParameters, Except.bind, List.append_nil]

section Held

variable {document : Mapping} {cell : Cell} (hHeld : IsHeld document cell)

include hHeld

/-- The engine reads metadata as the document that was written. -/
theorem IsHeld.documentOf_eq (hDigits : (Value.map document).Throughout Value.HasDigits) :
    EntityFilter.documentOf cell = .ok (some (nodeOf (.map document))) := by
  obtain ⟨text, hEncoded, rfl⟩ := hHeld
  have hRead := Metadata.document?_written hDigits (Metadata.written_of_encode hEncoded)
  simp only [EntityFilter.documentOf, hRead]

/-- A filter looks for its entries in the document that is held. -/
theorem selectsMetadata_partOf (hDigits : (Value.map document).Throughout Value.HasDigits)
    (filter : Mapping) :
    EntityFilter.selectsMetadata ⟨none, partOf filter⟩ cell =
      .ok (MetadataPart.contained filter (nodeOf (.map document))) := by
  cases filter with
  | nil => rfl
  | cons entry filter =>
      calc
        EntityFilter.selectsMetadata ⟨none, partOf (entry :: filter)⟩ cell =
            (EntityFilter.documentOf cell).map fun found =>
              found.any (MetadataPart.contained (entry :: filter)) := rfl
        _ = _ := by rw [hHeld.documentOf_eq hDigits]; rfl

/-- A filter selects metadata exactly if that contains it. -/
theorem exists_selectsMetadata {filter : Mapping}
    (hDocument : (Value.map document).Throughout Value.IsSearchable)
    (hFilter : (Value.map filter).Throughout Value.IsSearchable) :
    ∃ selected, EntityFilter.selectsMetadata ⟨none, partOf filter⟩ cell = .ok selected ∧
      (selected = true ↔ Contains document filter) := by
  have hDigits := hDocument.imp fun _ => Metadata.hasDigits_of_isSearchable
  have hValues := (Value.throughout_map.mp hFilter).2
  refine ⟨_, selectsMetadata_partOf hHeld hDigits filter, ?_⟩
  exact MetadataPart.contained_nodeOf_iff hFilter.here.1 hDocument fun entry hEntry =>
    MetadataPart.agrees_nodeOf_iff (hValues entry hEntry)

end Held

/-- Search by a part of metadata is containment. Whatever a save or an update stores is selected by
a filter exactly when it contains the filter, at any depth of both, and a filter that asks for
nothing selects every row. -/
theorem selectsMetadata_iff_contains {document filter : Mapping} {cell : Cell}
    (hStored : IsStored document cell)
    (hDocument : (Value.map document).Throughout Value.IsSearchable)
    (hFilter : (Value.map filter).Throughout Value.IsSearchable) :
    (∃ sought parameters cells selected,
      EntityFilter.ofValues .null (.map filter) = .ok (sought, parameters) ∧
      Cell.ofValues parameters = .ok cells ∧ sought.selectsMetadata cell = .ok selected ∧
      (selected = true ↔ Contains document filter)) ∧
    ∀ nothing : Value, nothing = .null ∨ nothing = .map [] →
      ∃ sought, EntityFilter.ofValues .null nothing = .ok (sought, []) ∧
        ∀ anyCell, sought.selectsMetadata anyCell = .ok true := by
  constructor
  · obtain ⟨parameters, hSought, hTaken⟩ := ofValues_eq_partOf
      (hFilter.imp fun _ => Metadata.isAskable_of_isSearchable) .null rfl
    obtain ⟨cells, hCells⟩ := (Cell.ofValues_isOk_iff parameters).mpr hTaken
    obtain ⟨selected, hSelected, hContains⟩ :=
      exists_selectsMetadata hStored.isHeld hDocument hFilter
    exact ⟨_, parameters, cells, selected, hSought, hCells, hSelected, hContains⟩
  · rintro nothing (rfl | rfl) <;> exact ⟨⟨none, none⟩, rfl, fun _ => rfl⟩

/-- Metadata with a quote in a key, with a mapping inside a list, with a text that looks like a
list, and with an empty mapping. -/
def furnished : Mapping :=
  [(.text "room \"2\"", .map [(.text "seats", .list [.int 1, .map [(.text "free", .bool true)]]),
    (.text "floor", .int (-1))]), (.text "code", .text "[1]"), (.text "extra", .map [])]

def furnishing : Moment where
  tables := .empty
  step := ⟨.saveThing [(.text "id", .text "00000000-0000-0000-0000-0000000000d1"),
    (.text "owner", .text "ada"), (.text "key", .text "a"), (.text "metadata", .map furnished)],
      none⟩

theorem selectsMetadata_iff_contains_furnished :
    let part : Mapping := [(.text "extra", .map []),
      (.text "room \"2\"",
        .map [(.text "seats", .list [.int 1, .map [(.text "free", .bool true)]])])]
    let other : Mapping := [(.text "code", .list [.int 1])]
    ∃ cell, IsStored furnished cell ∧ (Value.map furnished).Throughout Value.IsSearchable ∧
      (Value.map part).Throughout Value.IsSearchable ∧
      (Value.map other).Throughout Value.IsSearchable ∧
      (∃ sought parameters, EntityFilter.ofValues .null (.map part) = .ok (sought, parameters) ∧
        sought.selectsMetadata cell = .ok true) ∧
      ∃ sought parameters, EntityFilter.ofValues .null (.map other) = .ok (sought, parameters) ∧
        sought.selectsMetadata cell = .ok false := by
  intro part other
  have hAlone {value : Value} (hParts : value.hasParts = false) (hHere : value.IsSearchable) :
      value.Throughout Value.IsSearchable := (Value.throughout_of_plain hParts).mpr hHere
  have hDocument : (Value.map furnished).Throughout Value.IsSearchable := by
    simp only [furnished, Value.throughout_map, Value.throughout_list, List.forall_mem_cons]
    refine ⟨?_, ⟨?_, ⟨?_, hAlone rfl ?_, ⟨?_, hAlone rfl ?_, ?_⟩, ?_⟩, hAlone rfl ?_, ?_⟩,
      hAlone rfl ?_, ⟨?_, ?_⟩, ?_⟩
    all_goals simp [Value.IsSearchable]
    all_goals decide
  have hPart : (Value.map part).Throughout Value.IsSearchable := by
    simp only [part, Value.throughout_map, Value.throughout_list, List.forall_mem_cons]
    refine ⟨?_, ⟨?_, ?_⟩, ⟨?_, ⟨?_, hAlone rfl ?_, ⟨?_, hAlone rfl ?_, ?_⟩, ?_⟩, ?_⟩, ?_⟩
    all_goals simp [Value.IsSearchable]
    all_goals decide
  have hOther : (Value.map other).Throughout Value.IsSearchable := by
    simp only [other, Value.throughout_map, Value.throughout_list, List.forall_mem_cons]
    refine ⟨?_, ⟨?_, hAlone rfl ?_, ?_⟩, ?_⟩
    all_goals simp [Value.IsSearchable]
    decide
  have hAnswer : furnishing.answer = .ok (.identifier "00000000-0000-0000-0000-0000000000d1") := rfl
  obtain ⟨row, hRow, hId⟩ : ∃ row ∈ furnishing.after.things, row.id =
    "00000000-0000-0000-0000-0000000000d1" :=
    ⟨_, List.mem_singleton.mpr rfl, rfl⟩
  have hStored : IsStored furnished row.metadata := .thingSaved rfl rfl rfl (hId ▸ hAnswer) hRow
  obtain ⟨⟨sought, parameters, -, selected, hSought, -, hSelected, hFits⟩, -⟩ :=
    selectsMetadata_iff_contains hStored hDocument hPart
  obtain ⟨⟨soughtOther, parametersOther, -, selectedOther, hSoughtOther, -, hSelectedOther,
    hFitsOther⟩, -⟩ :=
    selectsMetadata_iff_contains hStored hDocument hOther
  have hContains : Contains furnished part := by simp [furnished, part, Contains, Fits]
  have hMissing : ¬ Contains furnished other := by simp [furnished, other, Contains, Fits]
  rw [hFits.mpr hContains] at hSelected
  rw [Bool.eq_false_iff.mpr (mt hFitsOther.mp hMissing)] at hSelectedOther
  exact ⟨row.metadata, hStored, hDocument, hPart, hOther, ⟨sought, parameters, hSought, hSelected⟩,
    ⟨soughtOther, parametersOther, hSoughtOther, hSelectedOther⟩⟩

end Filter

end DeviceRegistry
