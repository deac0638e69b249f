import DeviceRegistry.Proofs.Store.Refusal
import DeviceRegistry.Proofs.Store.WriteSteps

/-! What becomes of each write to things and channels. The objections to a write are looked at in a
fixed order, and the first that holds decides how the write fails. A write to which there is no
objection does what it is for, and none ends in an error of the storage engine. -/
namespace DeviceRegistry

/-- What is handed in is no thing that could be stored, whatever the tables hold. -/
def Thing.IsMalformed (thing : Thing) : Prop :=
  (thing.id ≠ "" ∧ Identifier.isValid thing.id = false) ∨ Metadata.IsRefused (.map thing.metadata) ∨
    254 < (Cell.text thing.owner).length ∨ 1024 < (Cell.text thing.name).length ∨
    4096 < (Cell.text thing.key).length

def Channel.IsMalformed (channel : Channel) : Prop :=
  (channel.id ≠ "" ∧ Identifier.isValid channel.id = false) ∨
  Metadata.IsRefused (.map channel.metadata) ∨
    254 < (Cell.text channel.owner).length ∨ 1024 < (Cell.text channel.name).length

namespace Store

variable (store : Store)

/-- Some thing has the identifier or the key under which a thing would be stored. -/
def CollidesWith (thing : Thing) : Prop :=
  ∃ other ∈ store.things, other.id = (store.supply.orDrawn thing.id).1 ∨
    other.key = .text ((store.supply.orDrawn thing.id).2.orDrawn thing.key).1

def CollidesWithChannel (channel : Channel) : Prop :=
  ∃ other ∈ store.channels, other.id = (store.supply.orDrawn channel.id).1

def HasThing (owner id : String) : Prop := ∃ row ∈ store.things, row.owner = owner ∧ row.id = id

def HasChannel (owner id : String) : Prop := ∃ row ∈ store.channels, row.owner = owner ∧ row.id = id

end Store

namespace Metadata

/-- Metadata is written exactly if nothing in it is refused. -/
theorem encode_isOk_iff_not_isRefused (entries : Mapping) :
    (∃ text, encode (.map entries) = .ok text) ↔ ¬ IsRefused (.map entries) := by
  rw [not_isRefused_iff, encode_isOk_iff]

theorem isRefused_of_encode_error {entries : Mapping} {fault : WriteFault}
    (hFault : encode (.map entries) = .error fault) : IsRefused (.map entries) := by
  by_contra hAccepted
  obtain ⟨text, hText⟩ := (encode_isOk_iff_not_isRefused entries).mpr hAccepted
  rw [hText] at hFault
  cases hFault

end Metadata

/-- A text is no longer when it is counted up to its first NUL. -/
theorem Cell.length_text_le (s : String) : (Cell.text s).length ≤ s.length :=
  (List.takeWhile_sublist _).length_le

namespace EntityTable

variable {Row Entity : Type} (table : EntityTable Row Entity) (store : Store)

def Has (owner id : String) : Prop :=
  ∃ row ∈ table.rows store, table.owner row = owner ∧ table.id row = id

/-- Drawing identifiers changes no table. -/
theorem sameTables_drawnFor (entity : Entity) : (table.drawnFor store entity).SameTables store :=
  ⟨rfl, rfl, rfl, rfl⟩

theorem has_iff (owner id : String) :
    ¬ table.Has store owner id ↔
    (!(table.rows store).any (table.isOf (.text owner) (.text id))) = true := by
  simp [Has, isOf_text, identity_eq_iff]

theorem owns_iff_has (owner id : String) :
    table.owns store (.text owner) id = true ↔ table.Has store owner id := by
  simp only [Has, ← identity_eq_iff]
  exact (table.owns_iff store owner id).trans List.mem_map

variable {table store} {entity : Entity} {long taken : Prop}

/-- A save objects to an identifier and to metadata itself, and leaves the rest to the tables. -/
theorem save_isDecidedBy (hLimits : table.NamesLimits)
    (hDrawn : ∀ text, (table.added store entity text).SameTables
      (table.withRows store (table.rows store ++ [table.newRow store entity text])))
    (hLong : ∀ text, (∃ limit ∈ table.limits,
      limit.2 < (limit.1.content (table.newRow store entity text)).length) ↔ long)
    (hTaken : ∀ text, (∃ column ∈ table.uniques, ∃ other ∈ table.rows store,
      column.content other = column.content (table.newRow store entity text)) ↔ taken) :
    (table.save store entity none).IsDecidedBy store
      (fun after id => id = (store.supply.orDrawn (table.describe entity).id).1 ∧
        ∃ text, Metadata.encode (.map (table.describe entity).metadata) = .ok text ∧
          after.SameTables
            (table.withRows store (table.rows store ++ [table.newRow store entity text])))
      [⟨((table.describe entity).id ≠ "" ∧ Identifier.isValid (table.describe entity).id = false) ∨
          Metadata.IsRefused (.map (table.describe entity).metadata) ∨ long, .malformed⟩,
        ⟨taken, .conflict⟩] := by
  have hSame := table.sameTables_drawnFor store entity
  unfold EntityTable.save
  dsimp only
  by_cases hInvalid :
    (table.describe entity).id ≠ "" ∧ Identifier.isValid (table.describe entity).id = false
  · rw [if_pos (by simpa using hInvalid)]
    exact Outcome.isDecidedBy_first (Or.inl hInvalid)
      (Outcome.failsAs_failed ⟨rfl, rfl, rfl, rfl⟩ rfl)
  -- What is left of the first objection after each check is what the later checks and the tables
  -- look at.
  · rw [if_neg (by simpa using hInvalid), or_iff_right hInvalid]
    cases hWritten : Metadata.encode (.map (table.describe entity).metadata) with
    | error fault =>
        have hRefused := Metadata.isRefused_of_encode_error hWritten
        exact Outcome.isDecidedBy_first (Or.inl hRefused) (Outcome.failsAs_failed hSame rfl)
    | ok text =>
        rw [or_iff_right ((Metadata.encode_isOk_iff_not_isRefused _).mp ⟨text, hWritten⟩)]
        have hJudges := judges_refusal? hLimits (table.newRow store entity text) (table.rows store)
        rw [hLong, hTaken] at hJudges
        refine Outcome.isDecidedBy_of_judges hJudges hSame table.kind ?_
        exact ⟨table.id_ofEntity _ _ _, text, rfl, hDrawn text⟩

/-- What an owner has is the one row of its identifier, so that every other row has
another identifier. -/
theorem Identifies.isOf_eq_false_iff (hIdentifies : table.Identifies (table.rows store))
    {owner id : String} (hHas : table.Has store owner id) {row : Row}
    (hRow : row ∈ table.rows store) :
    table.isOf (.text owner) (.text id) row = false ↔ table.id row ≠ id := by
  obtain ⟨own, hOwn, hOwner, hId⟩ := hHas
  rw [isOf_text, decide_eq_false_iff_not, identity_eq_iff, not_iff_not]
  constructor
  · exact And.right
  · intro hSame
    rw [List.inj_on_of_nodup_map hIdentifies.nodup hRow hOwn (hSame.trans hId.symm)]
    exact ⟨hOwner, hId⟩

end EntityTable

/-- A key that is drawn is as short as any identifier, so that only a key that is given can be
too long. -/
theorem Identifier.Supply.length_orDrawn_le_iff (supply : Supply) (text : String) :
    (Cell.text (supply.orDrawn text).1).length ≤ maxKeyLength ↔
    (Cell.text text).length ≤ maxKeyLength := by
  unfold orDrawn
  split
  · rename_i hBlank
    subst hBlank
    refine iff_of_true ?_ (by decide)
    calc
      _ ≤ (supply.drawn 0).length := Cell.length_text_le _
      _ = 36 := length_of_isValid (supply.isValid_drawn 0)
      _ ≤ maxKeyLength := by decide
  · exact Iff.rfl

/-- A text of one repeated character is as long as it looks. -/
theorem Cell.length_replicate {c : Char} (hCounts : c ≠ '\x00') (n : Nat) :
    (Cell.text (String.ofList (List.replicate n c))).length = n := by
  simp [length, hCounts]

namespace Store

variable (store : Store)

/-- A save of a thing is decided by its identifier, its metadata, the lengths of its texts and what
other things have. -/
theorem saveThing_isDecidedBy (thing : Thing) :
    (store.saveThing thing none).IsDecidedBy store
      (fun after id => id = (store.supply.orDrawn thing.id).1 ∧
        ∃ text, Metadata.encode (.map thing.metadata) = .ok text ∧
          after.SameTables
            { store with things := store.things ++ [thingTable.newRow store thing text] })
      [⟨thing.IsMalformed, .malformed⟩, ⟨store.CollidesWith thing, .conflict⟩] := by
  refine EntityTable.save_isDecidedBy thingTable.namesLimits
    (fun _ => ⟨rfl, rfl, rfl, rfl⟩) (fun text => ?_)
    fun text => ?_
  · have hKey := lt_iff_lt_of_le_iff_le
      ((store.supply.orDrawn thing.id).2.length_orDrawn_le_iff thing.key)
    rw [← show _ ↔ 4096 < (Cell.text thing.key).length from hKey]
    simp [EntityTable.limits, thingTable, EntityTable.newRow, ThingRow.ofThing,
      maxOwnerLength, maxNameLength]
  · simp [EntityTable.uniques, thingTable, EntityTable.newRow, ThingRow.ofThing,
      CollidesWith, and_or_left, exists_or]

/-- A change of a key is decided by the presence of the thing, the length of the key and what other
things have. -/
theorem updateKey_isDecidedBy (hIdentified : store.Identified) (owner id key : String) :
    (store.updateKey (.text owner) (.text id) (.text key) none).IsDecidedBy store
      (fun after _ => after = thingTable.change store (.text owner)
        (.text id) fun row => { row with key := .text key })
      [⟨¬ store.HasThing owner id, .absent⟩, ⟨4096 < (Cell.text key).length, .malformed⟩,
        ⟨∃ other ∈ store.things, other.id ≠ id ∧ other.key = .text key, .conflict⟩] := by
  have hSame : store.SameTables store := ⟨rfl, rfl, rfl, rfl⟩
  apply Outcome.isDecidedBy_ite (thingTable.has_iff store _ _) (Outcome.failsAs_failed hSame rfl)
  intro hHas
  refine Outcome.isDecidedBy_of_judges ?_ hSame .thing rfl
  have hTaken : (∃ row ∈ store.things, thingTable.isOf (.text owner) (.text id) row = false ∧
      row.key = .text key) ↔
      ∃ other ∈ store.things, other.id ≠ id ∧ other.key = .text key := by
    refine exists_congr fun row => and_congr_right fun hRow => ?_
    exact and_congr_left' (hIdentified.things.isOf_eq_false_iff (not_not.mp hHas) hRow)
  have hJudges := store.judges_keyRefusal? (.text owner) (.text id) key
  rw [hTaken] at hJudges
  exact hJudges

/-- What an owner has can be given any short key that no other thing has. -/
theorem exists_keyed (hIdentified : store.Identified) {owner id key : String}
    (hHas : store.HasThing owner id) (hShort : (Cell.text key).length ≤ 4096)
    (hFree : ∀ other ∈ store.things, other.id ≠ id → other.key ≠ .text key) :
    let outcome := store.updateKey (.text owner) (.text id) (.text key) none
    outcome.answer = .ok () ∧ ∃ row ∈ store.things, row.owner = owner ∧ row.id = id ∧
      { row with key := .text key } ∈ outcome.store.things := by
  have hNoOther : ¬ ∃ other ∈ store.things, other.id ≠ id ∧ other.key = .text key :=
    fun ⟨other, hOther, hId, hKey⟩ => hFree other hOther hId hKey
  obtain ⟨_, hAnswer, hAfter⟩ := (((store.updateKey_isDecidedBy hIdentified owner id key).2
    (not_not_intro hHas)).2 hShort.not_gt).2 hNoOther
  obtain ⟨row, hRow, hOwner, hId⟩ := hHas
  have hOf : thingTable.isOf (.text owner) (.text id) row = true := by
    rw [thingTable.isOf_text, decide_eq_true_eq, thingTable.identity_eq_iff]
    exact ⟨hOwner, hId⟩
  refine ⟨hAnswer, row, hRow, hOwner, hId, ?_⟩
  rw [hAfter]
  exact List.mem_map.mpr ⟨row, hRow, if_pos hOf⟩

theorem saveChannel_isDecidedBy (channel : Channel) :
    (store.saveChannel channel none).IsDecidedBy store
      (fun after id => id = (store.supply.orDrawn channel.id).1 ∧
        ∃ text, Metadata.encode (.map channel.metadata) = .ok text ∧
          after.SameTables
            { store with channels := store.channels ++ [channelTable.newRow store channel text] })
      [⟨channel.IsMalformed, .malformed⟩, ⟨store.CollidesWithChannel channel, .conflict⟩] := by
  refine EntityTable.save_isDecidedBy channelTable.namesLimits
    (fun _ => ⟨rfl, rfl, rfl, rfl⟩) (fun text => ?_)
    fun text => ?_
  · simp [EntityTable.limits, channelTable, EntityTable.newRow,
      ChannelRow.ofChannel, maxOwnerLength, maxNameLength]
  · simp [EntityTable.uniques, channelTable, EntityTable.newRow, ChannelRow.ofChannel,
      CollidesWithChannel]

end Store

end DeviceRegistry
