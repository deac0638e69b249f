import DeviceRegistry.Proofs.Store.Linked

/-! Stored identifiers are valid, and no two things and no two channels share one. An identifier
thus has at most one owner at a time. -/
namespace DeviceRegistry

namespace EntityTable

variable {Row Entity : Type} {table : EntityTable Row Entity} {row : Row}
  {rows others : List Row} {store : Store}

/-- A row that a table takes is short where it has to be, and nothing else holds the same where it
may not. -/
theorem refusal?_eq_none_iff : table.refusal? row others = none ↔
    (∀ limit ∈ table.limits, (limit.1.content row).length ≤ limit.2) ∧
      ∀ column ∈ table.uniques, ∀ other ∈ others, column.content other ≠ column.content row := by
  simp [refusal?]

/-- A new row has an identifier that no other row has. -/
theorem Accepts.id_ne {entity : Entity} {text : String}
    (hAccepts : table.Accepts store entity text) :
    ∀ other ∈ table.rows store, table.id other ≠ table.id (table.newRow store entity text) :=
  fun other hOther hSame =>
    (refusal?_eq_none_iff.mp hAccepts.free).2 _ List.mem_cons_self other hOther
      (congrArg Cell.text hSame)

theorem Accepts.isValid_id {entity : Entity} {text : String}
    (hAccepts : table.Accepts store entity text) :
    Identifier.isValid (table.id (table.newRow store entity text)) = true := by
  rw [newRow, table.id_ofEntity]
  exact store.supply.isValid_orDrawn hAccepts.given

variable (table) in
/-- The identifiers of rows are valid and stand for one row each. -/
structure Identifies (rows : List Row) : Prop where
  nodup : (rows.map table.id).Nodup
  valid : ∀ id ∈ rows.map table.id, Identifier.isValid id = true

namespace Identifies

theorem nil : table.Identifies [] := ⟨List.nodup_nil, by simp⟩

/-- Identifiers stay sound where those that are left were there before. -/
theorem of_sublist (hIdentifies : table.Identifies rows)
    (hSublist : (others.map table.id).Sublist (rows.map table.id)) :
    table.Identifies others :=
  ⟨hIdentifies.nodup.sublist hSublist, fun id hId => hIdentifies.valid id (hSublist.subset hId)⟩

/-- A row with a new valid identifier is added. -/
theorem concat (hIdentifies : table.Identifies rows)
    (hNew : ∀ other ∈ rows, table.id other ≠ table.id row)
    (hValid : Identifier.isValid (table.id row) = true) : table.Identifies (rows ++ [row]) := by
  refine ⟨?_, ?_⟩ <;> rw [List.map_append, List.map_singleton]
  · rw [List.nodup_append_comm, List.singleton_append, List.nodup_cons]
    exact ⟨by simpa using hNew, hIdentifies.nodup⟩
  · exact List.forall_mem_append.mpr ⟨hIdentifies.valid, List.forall_mem_singleton.mpr hValid⟩

/-- An entity has one owner. -/
theorem owner_unique (hIdentifies : table.Identifies rows) {id owner other : String}
    (hOwner : (id, owner) ∈ rows.map table.identity)
    (hOther : (id, other) ∈ rows.map table.identity) :
    owner = other :=
  DeviceRegistry.owner_unique hIdentifies.nodup hOwner hOther

/-- Only valid identifiers are owned. -/
theorem isValid_of_owns (hIdentifies : table.Identifies (table.rows store)) {owner id : String}
    (hOwns : table.owns store (.text owner) id = true) : Identifier.isValid id = true := by
  obtain ⟨row, hRow, hEnd⟩ := List.mem_map.mp ((table.owns_iff store owner id).mp hOwns)
  exact hIdentifies.valid id (List.mem_map.mpr ⟨row, hRow, (Prod.mk.inj hEnd).1⟩)

end Identifies

/-- Identifiers stay sound, since only a new one that is valid is added. -/
theorem Change.identifies (hChange : table.Change store rows)
    (hIdentifies : table.Identifies (table.rows store)) :
    table.Identifies rows := by
  cases hChange with
  | kept => exact hIdentifies
  | added hAccepts =>
      rw [rows_added]
      exact hIdentifies.concat hAccepts.id_ne hAccepts.isValid_id
  | updated hUpdates =>
      refine hIdentifies.of_sublist ?_
      rw [map_updated _ _ _ _ table.id_withContent]
  | edited owner id hKeeps =>
      refine hIdentifies.of_sublist ?_
      rw [map_change]
      exact fun row => (Prod.mk.inj (hKeeps row)).1
  | removed owner id =>
      rw [rows_without]
      exact hIdentifies.of_sublist (List.filter_sublist.map _)

end EntityTable

namespace Store

structure Identified (store : Store) : Prop where
  things : thingTable.Identifies store.things
  channels : channelTable.Identifies store.channels

namespace Identified

variable {store after : Store}

theorem empty (supply : Identifier.Supply) : (Store.empty supply).Identified := ⟨.nil, .nil⟩

/-- Every effect keeps identifiers sound. -/
theorem effect {operation : Operation} {answer : Except Failure Answer}
    (hEffect : Effect store operation after answer) (hIdentified : store.Identified) :
    after.Identified where
  things := hEffect.change_things.identifies hIdentified.things
  channels := hEffect.change_channels.identifies hIdentified.channels

/-- Runs keep identifiers sound. -/
theorem run (hIdentified : store.Identified) (steps : List Step) : (store.run steps).Identified :=
  store.run_preserves (fun _ _ _ _ => effect) steps hIdentified

end Identified

end Store

end DeviceRegistry
