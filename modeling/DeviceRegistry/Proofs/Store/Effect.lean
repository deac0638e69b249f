import DeviceRegistry.Store.Operation

/-! What one operation does to the tables. An operation that changes them changes them in one of ten
ways, and each of these ways has conditions of its own. Everything that runs preserve is derived
from this list and not from the operations. -/
namespace DeviceRegistry

namespace EntityTable

variable {Row Entity : Type} (table : EntityTable Row Entity)

/-- The table takes a new entity: its metadata can be written, its identifier is valid if it has
one, and its row is not refused. -/
structure Accepts (store : Store) (entity : Entity) (text : String) : Prop where
  written : Metadata.encode (.map (table.describe entity).metadata) = .ok text
  given : (table.describe entity).id = "" ∨ Identifier.isValid (table.describe entity).id = true
  free : table.refusal? (table.newRow store entity text) (table.rows store) = none

/-- The table takes another content of an entity: the metadata can be written, there is a row to
hold it, and the name is short. -/
structure Updates (store : Store) (entity : Entity) (text : String) : Prop where
  written : Metadata.encode (.map (table.describe entity).metadata) = .ok text
  owned : (table.rows store).any
    (table.isOf (.text (table.describe entity).owner) (.text (table.describe entity).id)) = true
  short : (Cell.text (table.describe entity).name).length ≤ maxNameLength

end EntityTable

def Operation.isReading : Operation → Bool
  | .getThing .. | .getThingByKey .. | .listThings .. | .listThingsOnChannel .. | .getChannel ..
  | .listChannels .. | .listChannelsOfThing .. | .hasThing .. | .hasThingById .. | .isConnected ..
  | .readMessages .. => true
  | _ => false

/-- What an operation does to the tables and what it answers. Identifiers may have been drawn by an
operation that failed. -/
inductive Effect (store : Store) : Operation → Store → Except Failure Answer → Prop where
  | read {operation : Operation} {answer : Except Failure Answer} (hReading : operation.isReading) :
      Effect store operation store answer
  | refused {operation : Operation} (supply : Identifier.Supply) (failure : Failure) :
      Effect store operation { store with supply } (.error failure)
  | thingSaved {fields : Mapping} {thing : Thing} {text : String}
      (hFields : Thing.ofFields fields = .valid thing)
      (hAccepts : thingTable.Accepts store thing text) :
      Effect store (.saveThing fields) (thingTable.added store thing text)
        (.ok (.identifier (thingTable.newRow store thing text).id))
  | thingUpdated {fields : Mapping} {thing : Thing} {text : String}
      (hFields : Thing.ofFields fields = .valid thing)
      (hUpdates : thingTable.Updates store thing text) :
      Effect store (.updateThing fields) (thingTable.updated store thing text) (.ok .done)
  | keyChanged {owner id key : Value} (hOwned : store.things.any (thingTable.isOf owner id))
      (hFree : store.keyRefusal? owner id key.toColumnCell = none) :
      Effect store (.updateKey owner id key)
        (thingTable.change store owner id fun row => { row with key := key.toColumnCell })
        (.ok .done)
  | thingRemoved (owner id : Value) :
      Effect store (.removeThing owner id) (thingTable.without store owner id) (.ok .done)
  | channelSaved {fields : Mapping} {channel : Channel} {text : String}
      (hFields : Channel.ofFields fields = .valid channel)
      (hAccepts : channelTable.Accepts store channel text) :
      Effect store (.saveChannel fields) (channelTable.added store channel text)
        (.ok (.identifier (channelTable.newRow store channel text).id))
  | channelUpdated {fields : Mapping} {channel : Channel} {text : String}
      (hFields : Channel.ofFields fields = .valid channel)
      (hUpdates : channelTable.Updates store channel text) :
      Effect store (.updateChannel fields) (channelTable.updated store channel text) (.ok .done)
  | channelRemoved (owner id : Value) :
      Effect store (.removeChannel owner id) (channelTable.without store owner id) (.ok .done)
  | alreadyConnected (owner channelId thingId : Value) :
      Effect store (.connect owner channelId thingId) store (.ok .done)
  | connected {owner : Value} {name channelId thingId : String}
      (hOwner : owner.toColumnCell = .text name)
      (hNew : store.connections.any (ConnectionRow.joins (.text channelId) (.text thingId)) = false)
      (hChannel : channelTable.owns store (.text name) channelId)
      (hThing : thingTable.owns store (.text name) thingId) :
      Effect store (.connect owner (.text channelId) (.text thingId))
        { store with connections := store.connections ++ [⟨channelId, name, thingId, name⟩] }
        (.ok .done)
  | disconnected {owner channelId thingId : Value}
      (hJoined : store.connections.any fun row => row.joins channelId thingId && row.isOf owner) :
      Effect store (.disconnect owner channelId thingId)
        { store with connections := store.connections.filter fun row =>
            !(row.joins channelId thingId && row.isOf owner) }
        (.ok .done)
  | messagesSaved (batch : List Mapping) (rows : List MessageRow) :
      Effect store (.saveMessages batch) { store with messages := store.messages ++ rows }
        (.ok .done)

namespace EntityTable

variable {Row Entity : Type} (table : EntityTable Row Entity) {store : Store}
  {operation : Operation} {entity : Entity} {owner id : Value} {answer : Answer}

/-- A save adds a row or fails. -/
theorem save_effect (hAdded : ∀ text, table.Accepts store entity text →
      Effect store operation (table.added store entity text)
        (.ok (.identifier (table.id (table.newRow store entity text))))) (injected :
        Option EngineError) :
    let outcome := table.save store entity injected
    Effect store operation outcome.store (outcome.answer.map .identifier) := by
  unfold save
  dsimp only
  split
  · exact Effect.refused store.supply _
  · rename_i hGiven
    cases hWritten : Metadata.encode (.map (table.describe entity).metadata) with
    | error fault => exact Effect.refused _ _
    | ok text =>
        dsimp only
        cases hRefusal :
          injected.or (table.refusal? (table.newRow store entity text) (table.rows store)) with
        | some error => exact Effect.refused _ _
        | none =>
            have hFree := (Option.or_eq_none_iff.mp hRefusal).2
            exact hAdded text
              ⟨hWritten, by simpa [Classical.or_iff_not_imp_left] using hGiven, hFree⟩

/-- An update rewrites the rows of its entity or fails. -/
theorem update_effect (hUpdated : ∀ text, table.Updates store entity text →
      Effect store operation (table.updated store entity text) (.ok answer)) (injected :
      Option EngineError) :
    let outcome := table.update store entity injected
    Effect store operation outcome.store (outcome.answer.map fun _ => answer) := by
  unfold update
  dsimp only
  cases hWritten : Metadata.encode (.map (table.describe entity).metadata) with
  | error fault => exact Effect.refused store.supply _
  | ok text =>
      cases injected with
      | some error => exact Effect.refused store.supply _
      | none =>
          dsimp only
          split
          · exact Effect.refused store.supply _
          · rename_i hOwned
            split
            · exact Effect.refused store.supply _
            · rename_i hShort
              exact hUpdated text ⟨hWritten, by simpa using hOwned, Nat.le_of_not_lt hShort⟩

/-- A removal takes rows and their connections away or fails. -/
theorem remove_effect
    (hRemoved : Effect store operation (table.without store owner id) (.ok answer))
    (injected : Option EngineError) :
    let outcome := table.remove store owner id injected
    Effect store operation outcome.store (outcome.answer.map fun _ => answer) := by
  unfold remove
  cases injected with
  | some error => exact Effect.refused store.supply _
  | none =>
      dsimp only
      split
      · exact Effect.refused store.supply _
      · exact hRemoved

end EntityTable

namespace Store

variable (store : Store)

/-- Fields that describe nothing leave the tables alone, so that only described entities matter. -/
theorem withChecked_effect {α β : Type} {operation : Operation} {checked : Checked α}
    {operate : α → Outcome β} {answer : β → Answer}
    (hOperate : ∀ content, checked = .valid content →
      Effect store operation (operate content).store ((operate content).answer.map answer)) :
    let outcome := store.withChecked checked fun content => (operate content).answering answer
    Effect store operation outcome.store outcome.answer := by
  cases checked with
  | valid content => exact hOperate content rfl
  | faulty faults => exact Effect.refused store.supply _

/-- A key is changed where the owner has the thing and the key is free, and otherwise nothing is. -/
theorem updateKey_effect (owner id key : Value) (injected : Option EngineError) :
    let outcome := store.updateKey owner id key injected
    Effect store (.updateKey owner id key) outcome.store (outcome.answer.map fun _ => .done) := by
  unfold updateKey
  cases injected with
  | some error => exact Effect.refused store.supply _
  | none =>
      dsimp only
      split
      · exact Effect.refused store.supply _
      · split
        · exact Effect.refused store.supply _
        · rename_i hOwned
          cases hRefusal : store.keyRefusal? owner id key.toColumnCell with
          | some error => exact Effect.refused store.supply _
          | none => exact Effect.keyChanged (by simpa using hOwned) hRefusal

/-- A refused connection leaves the tables as they were, also where it counts as made. -/
theorem connectionRefused_effect (owner : Value) (channelId thingId : String)
    (error : EngineError) :
    let outcome := store.connectionRefused channelId thingId error
    Effect store (.connect owner (.text channelId) (.text thingId)) outcome.store
      (outcome.answer.map fun _ => .done) := by
  unfold connectionRefused
  dsimp only
  split
  · exact Effect.alreadyConnected owner (.text channelId) (.text thingId)
  all_goals exact Effect.refused store.supply _

/-- A connection that is written is a new one of both ends of one owner. -/
theorem connectionWrite_ok {owner : Cell} {channelId thingId : String} {row : ConnectionRow}
    (hRow : store.connectionWrite owner channelId thingId = .ok row) :
    ∃ name, owner = .text name ∧ row = ⟨channelId, name, thingId, name⟩ ∧
      store.connections.any (ConnectionRow.joins (.text channelId) (.text thingId)) = false ∧
      channelTable.owns store (.text name) channelId ∧
      thingTable.owns store (.text name) thingId := by
  cases owner with
  | text name =>
      simp only [connectionWrite] at hRow
      split at hRow
      · cases hRow
      · rename_i hNew
        split at hRow
        · rename_i hEnds
          cases hRow
          exact ⟨name, rfl, rfl, by simpa using hNew, by simpa using hEnds⟩
        · cases hRow
  | null => cases hRow
  | _ =>
      simp only [connectionWrite] at hRow
      split at hRow <;> cases hRow

theorem connect_effect (owner channelId thingId : Value) (injected : Option EngineError) :
    let outcome := store.connect owner channelId thingId injected
    Effect store (.connect owner channelId thingId) outcome.store
      (outcome.answer.map fun _ => .done) := by
  unfold connect
  dsimp only
  split
  · split
    · exact Effect.refused store.supply _
    · split
      · exact store.connectionRefused_effect owner _ _ _
      · split
        · exact store.connectionRefused_effect owner _ _ _
        · exact Effect.refused store.supply _
        · split
          · exact store.connectionRefused_effect owner _ _ _
          · rename_i hRow
            obtain ⟨name, hOwner, rfl, hNew, hChannel, hThing⟩ := store.connectionWrite_ok hRow
            exact Effect.connected hOwner hNew hChannel hThing
  · exact Effect.refused store.supply _

/-- A disconnection takes away the row of the pair and the owner, or it fails. -/
theorem disconnect_effect (owner channelId thingId : Value) (injected : Option EngineError) :
    let outcome := store.disconnect owner channelId thingId injected
    Effect store (.disconnect owner channelId thingId) outcome.store
      (outcome.answer.map fun _ => .done) := by
  unfold disconnect
  cases injected with
  | some error => exact Effect.refused store.supply _
  | none =>
      dsimp only
      split
      · exact Effect.refused store.supply _
      · split
        · rename_i hJoined
          exact Effect.disconnected hJoined
        · exact Effect.refused store.supply _

theorem saveMessages_effect (batch : List Mapping) (messages : List Message)
    (injected : Option EngineError) :
    let outcome := store.saveMessages messages injected
    Effect store (.saveMessages batch) outcome.store (outcome.answer.map fun _ => .done) := by
  unfold saveMessages
  cases injected with
  | some error => exact Effect.refused store.supply _
  | none =>
      dsimp only
      split
      · exact Effect.refused store.supply _
      · exact Effect.messagesSaved batch _

/-- A search leaves the tables as they were, also one that is not understood. -/
theorem readMessages_store (channelId : Value) (window : Window) (query : Value) :
    (store.readMessages channelId window query).store = store := by
  unfold readMessages
  split <;> rfl

/-- Every operation has one of the effects. -/
theorem perform_effect (step : Step) :
    Effect store step.operation (store.perform step).store (store.perform step).answer := by
  obtain ⟨operation, injected⟩ := step
  cases operation with
  | saveThing fields =>
      exact store.withChecked_effect fun _ hFields =>
        thingTable.save_effect (fun _ => Effect.thingSaved hFields) injected
  | updateThing fields =>
      exact store.withChecked_effect fun _ hFields =>
        thingTable.update_effect (fun _ => Effect.thingUpdated hFields) injected
  | updateKey owner id key => exact store.updateKey_effect owner id key injected
  | removeThing owner id => exact thingTable.remove_effect (Effect.thingRemoved owner id) injected
  | saveChannel fields =>
      exact store.withChecked_effect fun _ hFields =>
        channelTable.save_effect (fun _ => Effect.channelSaved hFields) injected
  | updateChannel fields =>
      exact store.withChecked_effect fun _ hFields =>
        channelTable.update_effect (fun _ => Effect.channelUpdated hFields) injected
  | removeChannel owner id =>
      exact channelTable.remove_effect (Effect.channelRemoved owner id) injected
  | connect owner channelId thingId => exact store.connect_effect owner channelId thingId injected
  | disconnect owner channelId thingId =>
      exact store.disconnect_effect owner channelId thingId injected
  | saveMessages batch =>
      exact store.withChecked_effect fun messages _ =>
        store.saveMessages_effect batch messages injected
  | readMessages channelId window query =>
      change Effect store _ (store.readMessages channelId window query).store _
      rw [readMessages_store]
      exact Effect.read rfl
  | _ => exact Effect.read rfl

end Store

end DeviceRegistry
