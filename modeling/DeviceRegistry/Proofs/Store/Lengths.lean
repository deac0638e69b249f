import DeviceRegistry.Proofs.Store.Rows
import DeviceRegistry.Proofs.Store.WriteOutcomes

/-! How long stored texts are. The tables count the characters of a text before its first NUL. A
text without a NUL is thus stored if it is as short as the limit asks, and one with a NUL may go on
behind it at any length. -/
namespace DeviceRegistry

/-- The text has no more characters than a limit, or the first NUL comes before it has more. -/
def Text.IsWithin (limit : Nat) (text : String) : Prop :=
  text.length ≤ limit ∨ '\x00' ∈ text.toList.take (limit + 1)

/-- A text that starts with NUL is within every limit. -/
theorem Text.isWithin_of_nul (limit : Nat) (rest : List Char) :
    IsWithin limit (String.ofList ('\x00' :: rest)) := by
  rw [IsWithin, String.toList_ofList, List.take_succ_cons]
  exact Or.inr List.mem_cons_self

/-- Characters before the first NUL are within a limit if all characters are, or if a NUL comes in
time. -/
theorem length_takeWhile_le_iff (limit : Nat) (text : List Char) :
    (text.takeWhile (· ≠ '\x00')).length ≤ limit ↔ text.length ≤ limit ∨
    '\x00' ∈ text.take (limit + 1) := by
  induction text generalizing limit with
  | nil => simp
  | cons c text ih =>
      by_cases hNul : c = '\x00'
      · simp [hNul]
      · cases limit with
        | zero => simp [hNul, Ne.symm hNul]
        | succ limit => simpa [hNul, Ne.symm hNul] using ih limit

theorem Cell.length_text_le_iff (limit : Nat) (text : String) :
    (Cell.text text).length ≤ limit ↔ Text.IsWithin limit text := by
  rw [length, length_takeWhile_le_iff, String.length_toList, Text.IsWithin]

open Text

/-- What the tables count of a cell that holds a text. -/
theorem isWithin_of_length_le {limit : Nat} {cell : Cell}
    (hShort : cell.length ≤ limit) {text : String} (hText : cell = .text text) :
    IsWithin limit text := by
  rw [← Cell.length_text_le_iff, ← hText]
  exact hShort

namespace EntityTable

variable {Row Entity : Type} {table : EntityTable Row Entity} {store : Store}
  {entity : Entity} {text : String}

variable (table) in
def Fits (row : Row) : Prop := IsWithin 254 (table.owner row) ∧ IsWithin 1024 (table.name row)

/-- A row that the table takes is within the limits. -/
theorem Accepts.fits (hAccepts : table.Accepts store entity text) :
    table.Fits (table.newRow store entity text) := by
  have hShort := (refusal?_eq_none_iff.mp hAccepts.free).1
  exact ⟨isWithin_of_length_le (hShort _ List.mem_cons_self) rfl,
    isWithin_of_length_le (hShort _ (List.mem_cons_of_mem _ List.mem_cons_self)) rfl⟩

theorem Updates.isWithin (hUpdates : table.Updates store entity text) :
    IsWithin 1024 (table.describe entity).name :=
  isWithin_of_length_le hUpdates.short rfl

/-- Owners and names stay within their limits. -/
theorem Change.fits {rows : List Row} (hChange : table.Change store rows)
    (hAll : ∀ row ∈ table.rows store, table.Fits row) : ∀ row ∈ rows, table.Fits row := by
  refine hChange.forall_mem hAll (fun _ _ hAccepts => hAccepts.fits)
    (fun entity text hUpdates row hRow => ?_) ?_
  · rw [Fits, table.owner_withContent, table.name_withContent]
    exact ⟨hRow.1, hUpdates.isWithin⟩
  · intro row other hCommon hRow
    obtain ⟨-, hOthers⟩ := Prod.mk.inj hCommon
    obtain ⟨hOwner, hOthers⟩ := Prod.mk.inj hOthers
    rwa [Fits, hOwner, (Prod.mk.inj hOthers).1]

end EntityTable

/-- The key of a thing that is saved is within its limit. -/
theorem isWithin_key {store : Store} {thing : Thing} {text : String}
    (hAccepts : thingTable.Accepts store thing text) {key : String}
    (hKey : (thingTable.newRow store thing text).key = .text key) : IsWithin 4096 key := by
  have hShort :=
    (EntityTable.refusal?_eq_none_iff.mp hAccepts.free).1 (⟨"key", ThingRow.key⟩, maxKeyLength)
    (by simp [EntityTable.limits, thingTable])
  exact isWithin_of_length_le hShort hKey

/-- What is drawn is short, so that only a text that is given can be too long. -/
theorem Identifier.Supply.isWithin_orDrawn_iff (supply : Supply) (text : String) :
    IsWithin 4096 (supply.orDrawn text).1 ↔ IsWithin 4096 text := by
  rw [← Cell.length_text_le_iff, ← Cell.length_text_le_iff]
  exact supply.length_orDrawn_le_iff text

/-- The operation is to write a text that goes beyond the limit of its column. -/
def Operation.Exceeds : Operation → Prop
  | .saveThing fields => ∃ thing, Thing.ofFields fields = .valid thing ∧
    ¬ (IsWithin 254 thing.owner ∧ IsWithin 1024 thing.name ∧ IsWithin 4096 thing.key)
  | .updateThing fields => ∃ thing, Thing.ofFields fields = .valid thing ∧
      ¬ IsWithin 1024 thing.name
  | .updateKey _ _ key => ∃ text, key = .text text ∧ ¬ IsWithin 4096 text
  | .saveChannel fields => ∃ channel, Channel.ofFields fields = .valid channel ∧
    ¬ (IsWithin 254 channel.owner ∧ IsWithin 1024 channel.name)
  | .updateChannel fields => ∃ channel, Channel.ofFields fields = .valid channel ∧
      ¬ IsWithin 1024 channel.name
  | _ => False

/-- What goes beyond a limit is refused, at the latest by the tables. -/
theorem Effect.failed_of_exceeds {store after : Store} {operation : Operation}
    {answer : Except Failure Answer} (hEffect : Effect store operation after answer)
    (hExceeds : operation.Exceeds) :
    ∃ failure, answer = .error failure := by
  cases hEffect with
  | refused drawn failure => exact ⟨failure, rfl⟩
  | read hReading =>
      cases operation with
      | saveThing _ | updateThing _ | updateKey _ _ _ | saveChannel _
      | updateChannel _ => cases hReading
      | _ => exact hExceeds.elim
  | thingSaved hFields hAccepts =>
      obtain ⟨thing, hThing, hLong⟩ := hExceeds
      cases hFields.symm.trans hThing
      obtain ⟨hOwner, hName⟩ := hAccepts.fits
      exact absurd ⟨hOwner, hName, (Identifier.Supply.isWithin_orDrawn_iff _ _).mp
        (isWithin_key hAccepts rfl)⟩ hLong
  | thingUpdated hFields hUpdates =>
      obtain ⟨thing, hThing, hLong⟩ := hExceeds
      cases hFields.symm.trans hThing
      exact absurd hUpdates.isWithin hLong
  | keyChanged hOwned hFree =>
      obtain ⟨text, rfl, hLong⟩ := hExceeds
      exact absurd (isWithin_of_length_le (Store.keyRefusal?_eq_none_iff.mp hFree).2.1 rfl) hLong
  | channelSaved hFields hAccepts =>
      obtain ⟨channel, hChannel, hLong⟩ := hExceeds
      cases hFields.symm.trans hChannel
      exact absurd hAccepts.fits hLong
  | channelUpdated hFields hUpdates =>
      obtain ⟨channel, hChannel, hLong⟩ := hExceeds
      cases hFields.symm.trans hChannel
      exact absurd hUpdates.isWithin hLong
  | _ => exact hExceeds.elim

/-- A thing that is given nothing but texts within their limits can be stored. -/
theorem Thing.not_isMalformed {owner name : String} (hOwner : IsWithin 254 owner)
    (hName : IsWithin 1024 name) :
    ¬ IsMalformed ⟨"", owner, name, "", []⟩ := by
  rintro (hGiven | hMetadata | hLong | hLong | hLong)
  · exact hGiven.1 rfl
  · exact (Metadata.encode_isOk_iff_not_isRefused []).mp ⟨_, rfl⟩ hMetadata
  · exact hLong.not_ge ((Cell.length_text_le_iff _ _).mpr hOwner)
  · exact hLong.not_ge ((Cell.length_text_le_iff _ _).mpr hName)
  · exact absurd hLong (Nat.not_lt_zero _)

/-- A channel that is given nothing but texts within their limits can be stored. -/
theorem Channel.not_isMalformed {owner name : String} (hOwner : IsWithin 254 owner)
    (hName : IsWithin 1024 name) :
    ¬ IsMalformed ⟨"", owner, name, []⟩ := by
  rintro (hGiven | hMetadata | hLong | hLong)
  · exact hGiven.1 rfl
  · exact (Metadata.encode_isOk_iff_not_isRefused []).mp ⟨_, rfl⟩ hMetadata
  · exact hLong.not_ge ((Cell.length_text_le_iff _ _).mpr hOwner)
  · exact hLong.not_ge ((Cell.length_text_le_iff _ _).mpr hName)

namespace Store

structure Fitting (store : Store) : Prop where
  things : ∀ row ∈ store.things, thingTable.Fits row
  channels : ∀ row ∈ store.channels, channelTable.Fits row
  keys : ∀ row ∈ store.things, ∀ key, row.key = .text key → IsWithin 4096 key

namespace Fitting

variable {store after : Store}

theorem empty (supply : Identifier.Supply) : (Store.empty supply).Fitting where
  things := by simp [Store.empty]
  channels := by simp [Store.empty]
  keys := by simp [Store.empty]

/-- Every effect keeps texts within their limits. -/
theorem effect {operation : Operation} {answer : Except Failure Answer}
    (hEffect : Effect store operation after answer) (hFitting : store.Fitting) : after.Fitting := by
  refine ⟨hEffect.change_things.fits hFitting.things,
    hEffect.change_channels.fits hFitting.channels, ?_⟩
  cases hEffect with
  | thingSaved hFields hAccepts =>
      exact List.forall_mem_append.mpr
        ⟨hFitting.keys, List.forall_mem_singleton.mpr fun _ => isWithin_key hAccepts⟩
  | thingUpdated hFields hUpdates => exact forall_mem_changed _ hFitting.keys fun _ hRow => hRow
  | keyChanged hOwned hFree =>
      have hKey := (keyRefusal?_eq_none_iff.mp hFree).2.1
      exact forall_mem_changed _ hFitting.keys fun _ _ _ => isWithin_of_length_le hKey
  | thingRemoved owner id => exact fun row hRow => hFitting.keys row (List.mem_filter.mp hRow).1
  | _ => exact hFitting.keys

/-- Runs keep texts within their limits. -/
theorem run (hFitting : store.Fitting) (steps : List Step) : (store.run steps).Fitting :=
  store.run_preserves (fun _ _ _ _ => effect) steps hFitting

end Fitting

/-- Every text within its limit can be stored as the owner, the name or the key of a thing. The key
is given once the thing is stored, since a thing that is saved with a blank key gets another one. -/
theorem exists_run_thing {supply : Identifier.Supply} {owner name key : String}
    (hOwner : IsWithin 254 owner) (hName : IsWithin 1024 name) (hKey : IsWithin 4096 key) :
    ∃ steps : List Step, steps.all Step.isPlain = true ∧
      ∃ row ∈ ((empty supply).run steps).things, row.owner = owner ∧ row.name = name ∧
      row.key = .text key := by
  let thing : Thing := ⟨"", owner, name, "", []⟩
  let saved : Step := ⟨.saveThing [(.text "owner", .text owner), (.text "name", .text name)], none⟩
  let id := (supply.orDrawn "").1
  let keyed : Step := ⟨.updateKey (.text owner) (.text id) (.text key), none⟩
  let store := (empty supply).run [saved]
  have hSound : ¬ thing.IsMalformed := Thing.not_isMalformed hOwner hName
  have hFree : ¬ (empty supply).CollidesWith thing := fun ⟨_, hOther, _⟩ => nomatch hOther
  obtain ⟨-, -, -, text, -, hTables⟩ :=
    (((empty supply).saveThing_isDecidedBy thing).2 hSound).2 hFree
  have hThings : store.things = [thingTable.newRow (empty supply) thing text] := hTables.things
  have hHas : store.HasThing owner id := ⟨_, hThings ▸ List.mem_singleton_self _, rfl, rfl⟩
  have hOnly : ∀ other ∈ store.things, other.id ≠ id → other.key ≠ .text key := by
    intro other hOther hNe
    rw [hThings, List.mem_singleton] at hOther
    exact absurd (congrArg ThingRow.id hOther) hNe
  obtain ⟨-, row, hRow, hRowOwner, -, hKeyed⟩ :=
    store.exists_keyed ((Identified.empty supply).run [saved]) hHas
    ((Cell.length_text_le_iff _ _).mpr hKey) hOnly
  have hRowName : row.name = name := by
    rw [hThings, List.mem_singleton] at hRow
    exact congrArg ThingRow.name hRow
  exact ⟨[saved, keyed], rfl, _, hKeyed, hRowOwner, hRowName, rfl⟩

/-- Every text within its limit can be stored as the owner or the name of a channel. -/
theorem exists_run_channel {supply : Identifier.Supply} {owner name : String}
    (hOwner : IsWithin 254 owner) (hName : IsWithin 1024 name) :
    ∃ steps : List Step, steps.all Step.isPlain = true ∧
      ∃ row ∈ ((empty supply).run steps).channels, row.owner = owner ∧ row.name = name := by
  let channel : Channel := ⟨"", owner, name, []⟩
  let saved : Step :=
    ⟨.saveChannel [(.text "owner", .text owner), (.text "name", .text name)], none⟩
  have hFree : ¬ (empty supply).CollidesWithChannel channel := fun ⟨_, hOther, _⟩ => nomatch hOther
  have hSound : ¬ channel.IsMalformed := Channel.not_isMalformed hOwner hName
  obtain ⟨-, -, -, text, -, hTables⟩ :=
    (((empty supply).saveChannel_isDecidedBy channel).2 hSound).2 hFree
  have hChannels : ((empty supply).run [saved]).channels =
      [channelTable.newRow (empty supply) channel text] := hTables.channels
  refine ⟨[saved], rfl, channelTable.newRow (empty supply) channel text, ?_, rfl, rfl⟩
  rw [hChannels]
  exact List.mem_singleton_self _

/-- The limits hold of stored texts up to their first NUL, and of nothing else. After every run each
text has no more characters than its limit, or else a NUL comes before it has more. Texts of this
kind, however long they are, are exactly those that plain runs can store. What goes beyond a limit
before any NUL is refused, and the tables are left alone. -/
theorem stored_lengths_exact (supply : Identifier.Supply) (steps : List Step)
    (owner name key : String) :
    let store := (empty supply).run steps
    (∀ row ∈ store.things, IsWithin 254 row.owner ∧ IsWithin 1024 row.name ∧
      ∀ key, row.key = .text key → IsWithin 4096 key) ∧
    (∀ row ∈ store.channels, IsWithin 254 row.owner ∧ IsWithin 1024 row.name) ∧
    (∀ step : Step, step.operation.Exceeds →
      (∃ failure, (store.perform step).answer = .error failure) ∧
      (store.perform step).store.SameTables store) ∧
    ((∃ others : List Step, others.all Step.isPlain = true ∧
        ∃ row ∈ ((empty supply).run others).things, row.owner = owner ∧ row.name = name ∧
        row.key = .text key) ↔
      IsWithin 254 owner ∧ IsWithin 1024 name ∧ IsWithin 4096 key) ∧
    ((∃ others : List Step, others.all Step.isPlain = true ∧
        ∃ row ∈ ((empty supply).run others).channels, row.owner = owner ∧ row.name = name) ↔
      IsWithin 254 owner ∧ IsWithin 1024 name) := by
  intro store
  have hFitting (others : List Step) : ((empty supply).run others).Fitting :=
    (Fitting.empty supply).run others
  have hThings (others : List Step) (row : ThingRow)
      (hRow : row ∈ ((empty supply).run others).things) :
      IsWithin 254 row.owner ∧ IsWithin 1024 row.name ∧ ∀ key, row.key = .text key →
      IsWithin 4096 key :=
    ⟨((hFitting others).things row hRow).1, ((hFitting others).things row hRow).2,
      (hFitting others).keys row hRow⟩
  refine ⟨hThings steps, (hFitting steps).channels, fun step hExceeds => ?_, ?_, ?_⟩
  · have hEffect := store.perform_effect step
    obtain ⟨failure, hFailed⟩ := hEffect.failed_of_exceeds hExceeds
    rw [hFailed] at hEffect
    exact ⟨⟨failure, hFailed⟩, hEffect.sameTables_of_error⟩
  · constructor
    · rintro ⟨others, -, row, hRow, rfl, rfl, hKey⟩
      obtain ⟨hOwner, hName, hKeys⟩ := hThings others row hRow
      exact ⟨hOwner, hName, hKeys key hKey⟩
    · exact fun ⟨hOwner, hName, hKey⟩ => exists_run_thing hOwner hName hKey
  · constructor
    · rintro ⟨others, -, row, hRow, rfl, rfl⟩
      exact (hFitting others).channels row hRow
    · exact fun ⟨hOwner, hName⟩ => exists_run_channel hOwner hName

/-- An owner of 255 characters, the first of them NUL. -/
def paddedOwner : String := String.ofList ('\x00' :: List.replicate 254 'a')

theorem stored_lengths_exact_padded :
    ∃ steps : List Step, steps.all Step.isPlain = true ∧
      ∃ row ∈ (empty.run steps).things, row.owner = paddedOwner ∧ 254 < row.owner.length := by
  have hOwner : IsWithin 254 paddedOwner := isWithin_of_nul 254 _
  have hBlank (limit : Nat) : IsWithin limit "" := Or.inl (Nat.zero_le limit)
  obtain ⟨-, -, -, hStored, -⟩ := stored_lengths_exact .counting [] paddedOwner "" ""
  obtain ⟨steps, hPlain, row, hRow, hPadded, -⟩ := hStored.mpr ⟨hOwner, hBlank 1024, hBlank 4096⟩
  have hLength : paddedOwner.length = 255 :=
    String.length_ofList.trans (congrArg (· + 1) (List.length_replicate (n := 254)))
  exact ⟨steps, hPlain, row, hRow, hPadded, by rw [hPadded, hLength]; decide⟩

end Store

end DeviceRegistry
