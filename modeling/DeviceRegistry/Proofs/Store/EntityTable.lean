import DeviceRegistry.Proofs.Store.Rows
import DeviceRegistry.Proofs.Store.Run

/-! What operations do to the rows of one table of entities. Whatever holds of both tables for
the same reason is derived from this: rows are added, updated, edited beside what all entities
have, or removed. -/
namespace DeviceRegistry

namespace EntityTable

variable {Row Entity : Type} (table : EntityTable Row Entity)

/-- What a connection points to. -/
def identity (row : Row) : String × String := (table.id row, table.owner row)

/-- What a connection points to at its end in the table. -/
def endOf (connection : ConnectionRow) : String × String :=
  (table.endId connection, table.endOwner connection)

def common (row : Row) : String × String × String × Cell :=
  (table.id row, table.owner row, table.name row, table.metadata row)

def withText (row : Row) (text : String) : Row :=
  table.withContent row (table.name row) (.text text)

theorem isOf_withText (owner id : Value) (row : Row) (text : String) :
    table.isOf owner id (table.withText row text) = table.isOf owner id row := by
  rw [isOf, withText, table.owner_withContent, table.id_withContent, isOf]

theorem identity_eq_iff {row : Row} {owner id : String} :
    table.identity row = (id, owner) ↔ table.owner row = owner ∧ table.id row = id := by
  rw [identity, Prod.mk.injEq, and_comm]

/-- An owner and an identifier that are texts are compared as they are. -/
theorem isOf_text (owner id : String) :
    table.isOf (.text owner) (.text id) = fun row => decide (table.identity row = (id, owner)) := by
  funext row
  rw [Bool.eq_iff_iff, isOf, Bool.and_eq_true, Value.equalsText_text, Value.equalsText_text]
  rw [decide_eq_true_eq, decide_eq_true_eq, decide_eq_true_eq, identity_eq_iff]
  exact and_congr eq_comm eq_comm

section Rows

variable (store : Store) (owner id : Value) (change : Row → Row) (entity : Entity) (text : String)

theorem rows_added : table.rows (table.added store entity text) =
    table.rows store ++ [table.newRow store entity text] := table.rows_withRows _ _

theorem rows_change : table.rows (table.change store owner id change) =
    (table.rows store).map fun row => if table.isOf owner id row then change row else row :=
  table.rows_withRows _ _

theorem rows_without : table.rows (table.without store owner id) =
    (table.rows store).filter fun row => !table.isOf owner id row :=
  (table.rows_withConnections _ _).trans (table.rows_withRows _ _)

theorem connections_added : (table.added store entity text).connections = store.connections :=
  table.connections_withRows _ _

theorem connections_change : (table.change store owner id change).connections = store.connections :=
  table.connections_withRows _ _

/-- An owner has an entity exactly if its identity is stored. -/
theorem owns_iff (owner id : String) :
    table.owns store (.text owner) id = true ↔
    (id, owner) ∈ (table.rows store).map table.identity := by
  simp [owns, identity]

/-- A change that keeps some part of each row keeps the list of these parts. -/
theorem map_change {α : Type} {change : Row → Row} {part : Row → α}
    (hKeeps : ∀ row, part (change row) = part row) :
    (table.rows (table.change store owner id change)).map part = (table.rows store).map part := by
  rw [rows_change]
  exact map_changed (table.rows store) (table.isOf owner id) hKeeps

theorem map_updated {α : Type} {part : Row → α}
    (hKeeps : ∀ row called content, part (table.withContent row called content) = part row) :
    (table.rows (table.updated store entity text)).map part = (table.rows store).map part :=
  table.map_change store _ _ fun row => hKeeps row _ _

theorem identity_withContent (row : Row) (called : String) (content : Cell) :
    table.identity (table.withContent row called content) = table.identity row := by
  rw [identity, table.id_withContent, table.owner_withContent, identity]

/-- A change that keeps what connections point to loses no end of one. -/
theorem subset_change {change : Row → Row}
    (hKeeps : ∀ row, table.identity (change row) = table.identity row) :
    (table.rows store).map table.identity ⊆
      (table.rows (table.change store owner id change)).map table.identity := by
  rw [map_change _ _ _ _ hKeeps]
  exact List.Subset.refl _

theorem subset_updated :
    (table.rows store).map table.identity ⊆ (table.rows (table.updated store entity text)).map
      table.identity := by
  rw [map_updated _ _ _ _ table.identity_withContent]
  exact List.Subset.refl _

theorem subset_added :
    (table.rows store).map table.identity ⊆ (table.rows (table.added store entity text)).map
      table.identity := by
  rw [rows_added, List.map_append]
  exact List.subset_append_left _ _

/-- The connections of removed rows go with them, and every other connection keeps its end. -/
theorem endOf_mem_without {store : Store}
    (hThere : ∀ connection ∈ store.connections,
      table.endOf connection ∈ (table.rows store).map table.identity)
    (owner id : Value) : ∀ connection ∈ store.connections,
      (!(owner.equalsText (table.endOwner connection) && id.equalsText (table.endId connection))) =
        true →
        table.endOf connection ∈ (table.rows (table.without store owner id)).map
          table.identity := by
  intro connection hConnection hKeep
  obtain ⟨row, hRow, hEnd⟩ := List.mem_map.mp (hThere connection hConnection)
  obtain ⟨hId, hOwner⟩ := Prod.mk.inj hEnd
  rw [rows_without]
  refine List.mem_map.mpr ⟨row, List.mem_filter.mpr ⟨hRow, ?_⟩, hEnd⟩
  rw [isOf, hId, hOwner]
  exact hKeep

end Rows

/-- What an operation does to the rows of a table. -/
inductive Change (store : Store) : List Row → Prop where
  | kept : Change store (table.rows store)
  | added {entity : Entity} {text : String} (hAccepts : table.Accepts store entity text) :
      Change store (table.rows (table.added store entity text))
  | updated {entity : Entity} {text : String} (hUpdates : table.Updates store entity text) :
      Change store (table.rows (table.updated store entity text))
  | edited (owner id : Value) {change : Row → Row}
      (hKeeps : ∀ row, table.common (change row) = table.common row) :
      Change store (table.rows (table.change store owner id change))
  | removed (owner id : Value) : Change store (table.rows (table.without store owner id))

/-- What is decided by what all entities have, and holds of new and of updated rows,
is preserved. -/
theorem Change.forall_mem {table : EntityTable Row Entity} {store : Store} {rows : List Row}
    {holds : Row → Prop} (hChange : table.Change store rows)
    (hAll : ∀ row ∈ table.rows store, holds row)
    (hAdded : ∀ entity text, table.Accepts store entity text →
      holds (table.newRow store entity text))
    (hUpdated : ∀ entity text, table.Updates store entity text → ∀ row, holds row →
      holds (table.withContent row (table.describe entity).name (.text text)))
    (hEdited : ∀ row other, table.common other = table.common row → holds row → holds other) :
    ∀ row ∈ rows, holds row := by
  cases hChange with
  | kept => exact hAll
  | added hAccepts =>
      rw [rows_added]
      exact List.forall_mem_append.mpr ⟨hAll, List.forall_mem_singleton.mpr (hAdded _ _ hAccepts)⟩
  | updated hUpdates =>
      rw [EntityTable.updated, rows_change]
      exact forall_mem_changed _ hAll (hUpdated _ _ hUpdates)
  | edited owner id hKeeps =>
      rw [rows_change]
      exact forall_mem_changed _ hAll fun row => hEdited row _ (hKeeps row)
  | removed owner id =>
      rw [rows_without]
      exact fun row hRow => hAll row (List.mem_filter.mp hRow).1

end EntityTable

namespace Effect

variable {store after : Store} {operation : Operation} {answer : Except Failure Answer}

/-- Every operation does one of these things to the things. -/
theorem change_things (hEffect : Effect store operation after answer) :
    thingTable.Change store after.things := by
  cases hEffect with
  | thingSaved hFields hAccepts => exact .added hAccepts
  | thingUpdated hFields hUpdates => exact .updated hUpdates
  | @keyChanged owner id key hOwned hFree => exact .edited owner id fun _ => rfl
  | thingRemoved owner id => exact .removed owner id
  | _ => exact .kept

/-- Every operation does one of these things to the channels. -/
theorem change_channels (hEffect : Effect store operation after answer) :
    channelTable.Change store after.channels := by
  cases hEffect with
  | channelSaved hFields hAccepts => exact .added hAccepts
  | channelUpdated hFields hUpdates => exact .updated hUpdates
  | channelRemoved owner id => exact .removed owner id
  | _ => exact .kept

end Effect

end DeviceRegistry
