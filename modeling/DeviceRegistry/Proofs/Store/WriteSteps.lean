import DeviceRegistry.Proofs.Store.Identified
import DeviceRegistry.Proofs.Store.Written

/-! What one step does to what is written of a thing or of a channel. The row of an entity follows
its history step by step. -/
namespace DeviceRegistry

def Operation.writesThings : Operation → Bool
  | .saveThing .. | .updateThing .. | .updateKey .. | .removeThing .. => true
  | _ => false

def Operation.writesChannels : Operation → Bool
  | .saveChannel .. | .updateChannel .. | .removeChannel .. => true
  | _ => false

namespace EntityTable

variable {Row Entity κ : Type} (table : EntityTable Row Entity) {store : Store}
  {entity : Entity} {text : String} {owner id : String}

def row? (store : Store) (owner id : String) : Option Row :=
  (table.rows store).find? fun row => decide (table.identity row = (id, owner))

/-- A change reaches the row of the entity that it is for and no other. -/
theorem row?_change (store : Store) (changedOwner changedId owner id : String) {change : Row → Row}
    (hKeeps : ∀ row, table.identity (change row) = table.identity row) :
    table.row? (table.change store (.text changedOwner) (.text changedId) change) owner id =
      (table.row? store owner id).map fun row =>
        if changedOwner = owner ∧ changedId = id then change row else row := by
  rw [row?, rows_change, isOf_text]
  simp only [decide_eq_true_eq]
  rw [find?_map_identity (table.rows store) hKeeps (changedId, changedOwner) (id, owner)]
  simp only [Prod.mk.injEq, and_comm, row?]

theorem row?_without (store : Store) (removedOwner removedId owner id : String) :
    table.row? (table.without store (.text removedOwner) (.text removedId)) owner id =
      if removedOwner = owner ∧ removedId = id then none else table.row? store owner id := by
  rw [row?, rows_without, isOf_text, find?_filter_identity (table.rows store)
    (removedId, removedOwner) (id, owner)]
  simp only [Prod.mk.injEq, and_comm, row?]

theorem row?_added (hAccepts : table.Accepts store entity text) (owner id : String) :
    table.row? (table.added store entity text) owner id =
      if (table.describe entity).owner = owner ∧ table.id (table.newRow store entity text) = id then
        some (table.newRow store entity text)
      else table.row? store owner id := by
  have hNew : ∀ other ∈ table.rows store,
      table.identity other ≠ table.identity (table.newRow store entity text) :=
    fun other hOther hSame => hAccepts.id_ne other hOther (Prod.mk.inj hSame).1
  rw [row?, rows_added, find?_concat_identity _ hNew]
  simp only [identity_eq_iff, newRow, table.owner_ofEntity, row?]

/-- The row holds a content, and a key as the table has keys. The metadata is held as its text. -/
def Shows (holdsKey : Row → κ → Prop) (row : Row) (entry : Content × κ) : Prop :=
  table.name row = entry.1.name ∧ holdsKey row entry.2 ∧
    ∃ text, Metadata.encode (.map entry.1.metadata) = .ok text ∧ table.metadata row = .text text

/-- What is known of the row of an entity that was written. -/
def Follows (holdsKey : Row → κ → Prop) (store : Store) (owner id : String)
    (entry : Option (Content × κ)) : Prop :=
  Option.Rel (table.Shows holdsKey) (table.row? store owner id) entry

section Follows

variable {table} {holdsKey : Row → κ → Prop} {entry : Option (Content × κ)}

/-- A row that is added shows what is saved. -/
theorem Follows.added (hFollows : table.Follows holdsKey store owner id entry)
    (hAccepts : table.Accepts store entity text) {key : κ}
    (hKey : holdsKey (table.newRow store entity text) key) :
    table.Follows holdsKey (table.added store entity text) owner id
      (rewritten
        (if (table.describe entity).owner = owner ∧
          table.id (table.newRow store entity text) = id then
          some (⟨(table.describe entity).name, (table.describe entity).metadata⟩, key)
        else none) false none none entry) := by
  rw [Follows, row?_added _ hAccepts]
  by_cases hOf :
    (table.describe entity).owner = owner ∧ table.id (table.newRow store entity text) = id
  · rw [if_pos hOf, if_pos hOf, rewritten_save]
    exact .some ⟨table.name_ofEntity _ _ _, hKey, text, hAccepts.written,
      table.metadata_ofEntity _ _ _⟩
  · rw [if_neg hOf, if_neg hOf, rewritten_none]
    exact hFollows

/-- A row that is changed shows the change. -/
theorem Follows.change (hFollows : table.Follows holdsKey store owner id entry)
    (update : Option Content) (rekey : Option κ) (changedOwner changedId : String)
    (change : Row → Row) (hKeeps : ∀ row, table.identity (change row) = table.identity row)
    (hChange : ∀ row content key, table.Shows holdsKey row (content, key) →
      table.Shows holdsKey (change row) (update.getD content, rekey.getD key)) :
    table.Follows holdsKey
      (table.change store (.text changedOwner) (.text changedId) change) owner id
      (rewritten none false (if changedOwner = owner ∧ changedId = id then update else none)
        (if changedOwner = owner ∧ changedId = id then rekey else none) entry) := by
  rw [Follows, row?_change _ _ _ _ _ _ hKeeps]
  by_cases hOf : changedOwner = owner ∧ changedId = id
  · simp only [if_pos hOf]
    exact rewritten_map hFollows hChange
  · simp only [if_neg hOf, rewritten_none, Option.map_id']
    exact hFollows

/-- A row that is updated shows its new content and keeps its key. -/
theorem Follows.updated (hFollows : table.Follows holdsKey store owner id entry)
    (hUpdates : table.Updates store entity text)
    (hKey : ∀ row called content key, holdsKey row key →
      holdsKey (table.withContent row called content) key) :
    table.Follows holdsKey (table.updated store entity text) owner id
      (rewritten none false
        (if (table.describe entity).owner = owner ∧ (table.describe entity).id = id then
          some ⟨(table.describe entity).name, (table.describe entity).metadata⟩
        else none) none entry) := by
  have hChanged :=
    hFollows.change (some ⟨(table.describe entity).name, (table.describe entity).metadata⟩) none
    (table.describe entity).owner (table.describe entity).id _
    (fun row => table.identity_withContent row (table.describe entity).name (.text text))
    (fun row content key hShows => ⟨table.name_withContent _ _ _, hKey row _ _ key hShows.2.1, text,
      hUpdates.written, table.metadata_withContent _ _ _⟩)
  rw [ite_self] at hChanged
  exact hChanged

/-- A row that is removed shows nothing any more. -/
theorem Follows.without (hFollows : table.Follows holdsKey store owner id entry)
    (caller callerId : String) :
    table.Follows holdsKey (table.without store (.text caller) (.text callerId)) owner id
      (rewritten none (caller = owner && callerId = id) none none entry) := by
  rw [Follows, row?_without, ← Bool.decide_and]
  by_cases hOf : caller = owner ∧ callerId = id
  · rw [if_pos hOf, decide_eq_true hOf, rewritten_removed]
    exact .none
  · rw [if_neg hOf, decide_eq_false hOf, rewritten_none]
    exact hFollows

end Follows

end EntityTable

def ThingRow.HoldsKey (row : ThingRow) (key : String) : Prop := row.key = .text key

def ChannelRow.HoldsKey (_ : ChannelRow) (_ : Unit) : Prop := True

namespace Store

variable {store : Store} {owner id : String}

/-- An operation that is not on things leaves all of them as they are. -/
theorem things_perform (step : Step) (hKeeps : step.operation.writesThings = false) :
    (store.perform step).store.things = store.things := by
  have hEffect := store.perform_effect step
  generalize step.operation = operation at hEffect hKeeps
  generalize (store.perform step).store = after, (store.perform step).answer = answer at hEffect
  cases hEffect with
  | thingSaved hFields hAccepts => cases hKeeps
  | thingUpdated hFields hUpdates => cases hKeeps
  | keyChanged hOwned hFree => cases hKeeps
  | thingRemoved caller thingId => cases hKeeps
  | _ => rfl

/-- An operation that is not on channels leaves all of them as they are. -/
theorem channels_perform (step : Step) (hKeeps : step.operation.writesChannels = false) :
    (store.perform step).store.channels = store.channels := by
  have hEffect := store.perform_effect step
  generalize step.operation = operation at hEffect hKeeps
  generalize (store.perform step).store = after, (store.perform step).answer = answer at hEffect
  cases hEffect with
  | channelSaved hFields hAccepts => cases hKeeps
  | channelUpdated hFields hUpdates => cases hKeeps
  | channelRemoved caller channelId => cases hKeeps
  | _ => rfl

/-- One plain step does to the row of a thing what it does to the history of the thing. -/
theorem follows_thing {step : Step} (hPlain : step.isPlain = true)
    {entry : Option (Content × String)}
    (hFollows : thingTable.Follows ThingRow.HoldsKey store owner id entry) :
    thingTable.Follows ThingRow.HoldsKey (store.perform step).store owner id
      (rewritten (Moment.savesThing owner id ⟨store, step⟩)
        (Moment.removesThing owner id ⟨store, step⟩)
        (Moment.updatesThing owner id ⟨store, step⟩)
        (Moment.rekeysThing owner id ⟨store, step⟩) entry) := by
  obtain ⟨operation, rfl, hTexts⟩ := Step.eq_of_isPlain hPlain
  have hUnchanged : thingTable.Follows ThingRow.HoldsKey store owner id
      (rewritten none false none none entry) := by
    rwa [rewritten_none]
  have hEffect : Effect store operation _ _ := store.perform_effect ⟨operation, none⟩
  simp only [Moment.savesThing, Moment.updatesThing, Moment.rekeysThing, Moment.answer]
  cases operation with
  | saveThing fields =>
      generalize (store.perform ⟨.saveThing fields, none⟩).store = after,
        (store.perform ⟨.saveThing fields, none⟩).answer = answer at hEffect ⊢
      cases hEffect with
      | read hReading => cases hReading
      | refused supply failure => exact hUnchanged
      | thingSaved hFields hAccepts =>
          simp only [hFields]
          exact hFollows.added hAccepts rfl
  | updateThing fields =>
      generalize (store.perform ⟨.updateThing fields, none⟩).store = after,
        (store.perform ⟨.updateThing fields, none⟩).answer = answer at hEffect ⊢
      cases hEffect with
      | read hReading => cases hReading
      | refused supply failure => exact hUnchanged
      | thingUpdated hFields hUpdates =>
          simp only [hFields]
          exact hFollows.updated hUpdates fun _ _ _ _ hKey => hKey
  | updateKey caller thingId key =>
      obtain ⟨caller, thingId, key, rfl, rfl, rfl⟩ := Value.eq_texts_of_and_and hTexts
      generalize (store.perform ⟨.updateKey (.text caller) (.text thingId) (.text key),
        none⟩).store = after,
        (store.perform ⟨.updateKey (.text caller) (.text thingId) (.text key), none⟩).answer =
          answer at hEffect ⊢
      cases hEffect with
      | read hReading => cases hReading
      | refused supply failure => exact hUnchanged
      | keyChanged hOwned hFree =>
          have hChanged := hFollows.change none (some key) caller thingId
            (fun row => { row with key := .text key }) (fun _ => rfl)
            fun row content _ hShows => ⟨hShows.1, rfl, hShows.2.2⟩
          rwa [ite_self] at hChanged
  | removeThing caller thingId =>
      obtain ⟨caller, thingId, rfl, rfl⟩ := Value.eq_texts_of_and hTexts
      exact hFollows.without caller thingId
  | _ =>
      rw [EntityTable.Follows, EntityTable.row?]
      change Option.Rel _ (List.find? _ (store.perform _).store.things) _
      rw [things_perform _ rfl]
      exact hUnchanged

/-- One plain step does to the row of a channel what it does to the history of the channel. -/
theorem follows_channel {step : Step} (hPlain : step.isPlain = true)
    {entry : Option (Content × Unit)}
    (hFollows : channelTable.Follows ChannelRow.HoldsKey store owner id entry) :
    channelTable.Follows ChannelRow.HoldsKey (store.perform step).store owner id
      (rewritten (Moment.savesChannel owner id ⟨store, step⟩)
        (Moment.removesChannel owner id ⟨store, step⟩)
        (Moment.updatesChannel owner id ⟨store, step⟩) none entry) := by
  obtain ⟨operation, rfl, hTexts⟩ := Step.eq_of_isPlain hPlain
  have hUnchanged : channelTable.Follows ChannelRow.HoldsKey store owner id
      (rewritten none false none none entry) := by rwa [rewritten_none]
  have hEffect : Effect store operation _ _ := store.perform_effect ⟨operation, none⟩
  simp only [Moment.savesChannel, Moment.updatesChannel, Moment.answer]
  cases operation with
  | saveChannel fields =>
      generalize (store.perform ⟨.saveChannel fields, none⟩).store = after,
        (store.perform ⟨.saveChannel fields, none⟩).answer = answer at hEffect ⊢
      cases hEffect with
      | read hReading => cases hReading
      | refused supply failure => exact hUnchanged
      | channelSaved hFields hAccepts =>
          simp only [hFields]
          exact hFollows.added hAccepts trivial
  | updateChannel fields =>
      generalize (store.perform ⟨.updateChannel fields, none⟩).store = after,
        (store.perform ⟨.updateChannel fields, none⟩).answer = answer at hEffect ⊢
      cases hEffect with
      | read hReading => cases hReading
      | refused supply failure => exact hUnchanged
      | channelUpdated hFields hUpdates =>
          simp only [hFields]
          exact hFollows.updated hUpdates fun _ _ _ _ _ => trivial
  | removeChannel caller channelId =>
      obtain ⟨caller, channelId, rfl, rfl⟩ := Value.eq_texts_of_and hTexts
      exact hFollows.without caller channelId
  | _ =>
      rw [EntityTable.Follows, EntityTable.row?]
      change Option.Rel _ (List.find? _ (store.perform _).store.channels) _
      rw [channels_perform _ rfl]
      exact hUnchanged

end Store

end DeviceRegistry
