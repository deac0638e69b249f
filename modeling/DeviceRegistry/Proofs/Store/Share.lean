import DeviceRegistry.Proofs.Store.Identified

/-! What an owner has and sees. The answer to a search of an owner follows from the rows of that
owner alone, although the tables hold the rows of all owners and the searches along connections do
not ask who owns a connection. -/
namespace DeviceRegistry

/-- The search of an owner among the things and channels of that owner. -/
def Operation.isReadingOf (owner : String) : Operation → Bool
  | .getThing (.text o) _ | .listThings (.text o) _ _ _ | .listThingsOnChannel (.text o) _ _
  | .getChannel (.text o) _ | .listChannels (.text o) _ _ _
  | .listChannelsOfThing (.text o) _ _ => o = owner
  | _ => false

/-- Rows for which a test is certain to be negative may be left out of a selection. -/
theorem selectedRows_filter {α : Type} {test : α → Except Failure Bool}
    {keep : α → Bool} (rows : List α)
    (hOther : ∀ row ∈ rows, keep row = false → test row = .ok false) :
    selectedRows test (rows.filter keep) = selectedRows test rows := by
  induction rows with
  | nil => rfl
  | cons row rows ih =>
      have hRest := ih fun other hMem => hOther other (List.mem_cons_of_mem _ hMem)
      cases hKeep : keep row with
      | true =>
          rw [List.filter_cons_of_pos hKeep, selectedRows, selectedRows, hRest]
      | false =>
          rw [List.filter_cons_of_neg (by simp [hKeep]), hRest, selectedRows,
            hOther row List.mem_cons_self hKeep]
          cases selectedRows test rows <;> rfl

/-- A row of another owner is not selected. -/
theorem EntityFilter.selects_of_ne (filter : EntityFilter) {owner rowOwner : String}
    (rowName : String) (rowMetadata : Cell) (hOther : rowOwner ≠ owner) :
    filter.selects (.text owner) rowOwner rowName rowMetadata = .ok false := by
  simp [selects, Ne.symm hOther, pure, Except.pure]

namespace EntityTable

variable {Row Entity : Type} {table : EntityTable Row Entity} {owner : String} {own store : Store}

theorem owner_of_isOf {id : Value} {row : Row} (hOf : table.isOf (.text owner) id row = true) :
    table.owner row = owner := by
  rw [isOf, Bool.and_eq_true, Value.equalsText_text, decide_eq_true_eq] at hOf
  exact hOf.1.symm

variable (table) in
/-- The table has in the first store just the rows that it has of an owner in the second one. -/
def Mirrors (owner : String) (own store : Store) : Prop :=
  table.rows own = (table.rows store).filter fun row => table.owner row = owner

namespace Mirrors

variable (hMirrors : table.Mirrors owner own store)

include hMirrors

/-- The owner's rows are found alike in a share of the tables. -/
theorem find?_eq (id : Value) : (table.rows own).find? (table.isOf (.text owner) id) =
    (table.rows store).find? (table.isOf (.text owner) id) := by
  rw [hMirrors, find?_filter_of_imp]
  intro row _ hOf
  simpa using owner_of_isOf hOf

theorem any_eq (id : Value) : (table.rows own).any (table.isOf (.text owner) id) =
    (table.rows store).any (table.isOf (.text owner) id) := by
  rw [hMirrors, any_filter_of_imp]
  intro row _ hOf
  simpa using owner_of_isOf hOf

/-- A search of the owner selects the same from a share of the tables. -/
theorem selected_eq (filter : EntityFilter) :
    table.selected own (.text owner) filter = table.selected store (.text owner) filter := by
  rw [selected, selected, hMirrors, selectedRows_filter]
  intro row _ hKeep
  exact filter.selects_of_ne _ _ (by simpa using hKeep)

/-- A search along connections does not ask for their owner, and it need not: the connections of an
owner's entity are the owner's. -/
theorem connected_eq (hIdentifies : table.Identifies (table.rows store))
    (hConnections : own.connections = store.connections.filter fun row => row.channelOwner = owner)
    (hThere : ∀ connection ∈ store.connections,
      (table.endId connection, connection.channelOwner) ∈ (table.rows store).map table.identity)
        (otherId : Value) :
    table.connected own (.text owner) otherId = table.connected store (.text owner) otherId := by
  rw [connected, connected, hMirrors, List.filter_filter]
  congr 1
  apply List.filter_congr
  intro row hRow
  by_cases hOwner : table.owner row = owner
  · have hOwn : ∀ connection ∈ store.connections,
        (table.endId connection == table.id row && otherId.equalsText (table.otherId connection)) =
          true →
          (connection.channelOwner = owner : Bool) = true := by
      intro connection hConnection hJoins
      rw [Bool.and_eq_true, beq_iff_eq] at hJoins
      have hEnd := hThere connection hConnection
      rw [hJoins.1] at hEnd
      rw [decide_eq_true_eq, ← hOwner]
      exact hIdentifies.owner_unique hEnd (List.mem_map_of_mem hRow)
    simp only [hConnections, any_filter_of_imp hOwn, hOwner, decide_true, Bool.and_true]
  · simp [hOwner, Ne.symm hOwner]

end Mirrors

end EntityTable

namespace Store

/-- The first tables hold of things, channels and connections just what the second ones hold of
an owner. -/
structure Mirrors (owner : String) (own store : Store) : Prop where
  things : thingTable.Mirrors owner own store
  channels : channelTable.Mirrors owner own store
  connections : own.connections = store.connections.filter fun row => row.channelOwner = owner

namespace Mirrors

variable {owner : String} {own store : Store}

/-- Every search of an owner finds the same in the tables of all owners and in the owner's share
of them. -/
theorem answer_eq (hMirrors : Mirrors owner own store) (hLinked : store.Linked)
    (hIdentified : store.Identified) {operation : Operation}
    (hReading : operation.isReadingOf owner = true) (injected : Option EngineError) :
    (own.perform ⟨operation, injected⟩).answer = (store.perform ⟨operation, injected⟩).answer := by
  have hThings : ∀ connection ∈ store.connections,
      (connection.thingId, connection.channelOwner) ∈ store.things.map thingTable.identity := by
    intro connection hConnection
    rw [hLinked.oneOwner connection hConnection]
    exact hLinked.thingThere connection hConnection
  unfold Operation.isReadingOf at hReading
  split at hReading
  · obtain rfl := of_decide_eq_true hReading
    simp only [perform, Outcome.reading, thing, EntityTable.entity, hMirrors.things.find?_eq]
  · obtain rfl := of_decide_eq_true hReading
    simp only [perform, Outcome.reading, listThings, EntityTable.list, hMirrors.things.selected_eq]
  · obtain rfl := of_decide_eq_true hReading
    simp only [perform, Outcome.reading, thingsOnChannel, EntityTable.listConnected,
      hMirrors.things.connected_eq hIdentified.things hMirrors.connections hThings]
  · obtain rfl := of_decide_eq_true hReading
    simp only [perform, Outcome.reading, channel, EntityTable.entity, hMirrors.channels.find?_eq]
  · obtain rfl := of_decide_eq_true hReading
    simp only [perform, Outcome.reading, listChannels, EntityTable.list,
      hMirrors.channels.selected_eq]
  · obtain rfl := of_decide_eq_true hReading
    simp only [perform, Outcome.reading, channelsOfThing, EntityTable.listConnected,
      hMirrors.channels.connected_eq hIdentified.channels hMirrors.connections hLinked.channelThere]
  · cases hReading

end Mirrors

end Store

end DeviceRegistry
