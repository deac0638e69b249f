import DeviceRegistry.Proofs.Store.Identified
import DeviceRegistry.Proofs.Violation

/-! Connecting and disconnecting where texts are given and the storage engine takes part. Whether a
pair is connected is asked without an owner, and the owner of its channel follows. -/
namespace DeviceRegistry

/-- The connection that a call to disconnect is after. -/
theorem ConnectionRow.ends_iff (owner channelId thingId : String) (row : ConnectionRow) :
    (row.joins (.text channelId) (.text thingId) && row.isOf (.text owner)) = true ↔
      row = ⟨channelId, owner, thingId, owner⟩ := by
  cases row
  simp only [joins, isOf, Value.equalsText_text, Bool.and_eq_true, decide_eq_true_eq,
    ConnectionRow.mk.injEq]
  grind

namespace Store

variable {store : Store}

/-- What connecting comes to where texts are given and the storage engine takes part. -/
theorem connect_text (store : Store) (owner channelId thingId : String) :
    store.connect (.text owner) (.text channelId) (.text thingId) none =
      if !(Identifier.isValid channelId && Identifier.isValid thingId) then .failed store
        (.absent .endpoint)
      else if store.connections.any (ConnectionRow.joins (.text channelId) (.text thingId)) then
        ⟨store, .ok (), [.alreadyConnected thingId channelId]⟩
      else if channelTable.owns store (.text owner) channelId &&
        thingTable.owns store (.text owner) thingId then
        ⟨{ store with connections := store.connections ++ [⟨channelId, owner, thingId, owner⟩] },
          .ok (), []⟩
      else .failed store (.absent .endpoint) := by
  have hOwner : (Value.text owner).toColumnCell = .text owner := rfl
  have hBound : ∃ cells,
      Cell.ofValues [.text channelId, .text owner, .text thingId, .text owner] = .ok cells :=
    ⟨_, rfl⟩
  obtain ⟨cells, hCells⟩ := hBound
  simp only [connect, hCells, hOwner, connectionWrite]
  by_cases hJoined :
    store.connections.any (ConnectionRow.joins (.text channelId) (.text thingId)) = true
  · simp only [hJoined, ↓reduceIte, connectionRefused, EngineError.violation?_notUnique]
  · by_cases hEnds :
      (channelTable.owns store (.text owner) channelId &&
        thingTable.owns store (.text owner) thingId) = true
    · simp only [hJoined, hEnds, Bool.false_eq_true, ↓reduceIte]
    · simp only [hJoined, hEnds, Bool.false_eq_true, ↓reduceIte, connectionRefused,
        EngineError.violation?_noParent]

/-- What a call to disconnect leaves where texts are given and the storage engine takes part. -/
theorem disconnect_text (store : Store) (owner channelId thingId : String) :
    (store.disconnect (.text owner) (.text channelId) (.text thingId) none).store =
      { store with connections := store.connections.filter fun row =>
          !(row.joins (.text channelId) (.text thingId) && row.isOf (.text owner)) } := by
  let ends (row : ConnectionRow) : Bool :=
    row.joins (.text channelId) (.text thingId) && row.isOf (.text owner)
  change (if store.connections.any ends then _ else _ : Outcome Unit).store = _
  split
  · rfl
  · rename_i hNone
    have hAll : (store.connections.filter fun row => !ends row) = store.connections := by
      refine List.filter_eq_self.mpr ?_
      intro row hRow
      have hOther : ¬ ends row = true :=
        fun hEnds => hNone (List.any_eq_true.mpr ⟨row, hRow, hEnds⟩)
      simpa using hOther
    change store = { store with connections := store.connections.filter fun row => !ends row }
    rw [hAll]

/-- A pair is connected if it is connected for some owner. -/
theorem joined_iff (hLinked : store.Linked) (channelId thingId : String) :
    store.connections.any (ConnectionRow.joins (.text channelId) (.text thingId)) = true ↔
      ∃ owner, ⟨channelId, owner, thingId, owner⟩ ∈ store.connections := by
  rw [List.any_eq_true]
  constructor
  · rintro ⟨⟨rowChannel, rowOwner, rowThing, rowThingOwner⟩, hRow, hJoins⟩
    obtain ⟨rfl, rfl⟩ := Prod.mk.inj ((ConnectionRow.joins_text_iff channelId thingId _).mp hJoins)
    obtain rfl : rowOwner = rowThingOwner := hLinked.oneOwner _ hRow
    exact ⟨rowOwner, hRow⟩
  · rintro ⟨owner, hRow⟩
    exact ⟨_, hRow, (ConnectionRow.joins_text_iff channelId thingId _).mpr rfl⟩

/-- The connection of a pair has the owner of its channel. -/
theorem mem_connections_of_joined (hLinked : store.Linked) (hIdentified : store.Identified)
    {owner channelId thingId : String}
    (hJoined : store.connections.any (ConnectionRow.joins (.text channelId) (.text thingId)) = true)
    (hChannel : channelTable.owns store (.text owner) channelId = true) :
    ⟨channelId, owner, thingId, owner⟩ ∈ store.connections := by
  obtain ⟨rowOwner, hRow⟩ := (joined_iff hLinked channelId thingId).mp hJoined
  obtain rfl : rowOwner = owner :=
    hIdentified.channels.owner_unique (hLinked.channelThere _ hRow)
      ((channelTable.owns_iff store owner channelId).mp hChannel)
  exact hRow

end Store

end DeviceRegistry
