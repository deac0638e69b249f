import DeviceRegistry.Proofs.Store.EntityTable

/-! Connections of every run are sound: each joins a channel and a thing that are stored, both of
the owner that is stored with the connection, and no two join the same channel and thing. What a
connection points to is an identifier together with an owner, so that an identifier that comes back
under another owner gives no old connection a new end. -/
namespace DeviceRegistry

namespace ConnectionRow

def pair (row : ConnectionRow) : String × String := (row.channelId, row.thingId)

theorem joins_text_iff (channelId thingId : String) (row : ConnectionRow) :
    row.joins (.text channelId) (.text thingId) = true ↔ row.pair = (channelId, thingId) := by
  simp only [joins, pair, Value.equalsText_text, Bool.and_eq_true, decide_eq_true_eq, Prod.mk.injEq]
  exact and_congr eq_comm eq_comm

end ConnectionRow

namespace Store

/-- Every connection has both of its ends, under one owner, and no two connections join the same. -/
structure Linked (store : Store) : Prop where
  oneOwner : ∀ row ∈ store.connections, row.channelOwner = row.thingOwner
  channelThere :
    ∀ row ∈ store.connections, channelTable.endOf row ∈ store.channels.map channelTable.identity
  thingThere :
    ∀ row ∈ store.connections, thingTable.endOf row ∈ store.things.map thingTable.identity
  pairsDiffer : (store.connections.map ConnectionRow.pair).Nodup

namespace Linked

variable {store after : Store}

theorem empty (supply : Identifier.Supply) : (Store.empty supply).Linked where
  oneOwner := by simp [Store.empty]
  channelThere := by simp [Store.empty]
  thingThere := by simp [Store.empty]
  pairsDiffer := List.nodup_nil

/-- Connections stay sound where they stay as they are and no end of one is lost. -/
theorem of_subset (hLinked : store.Linked) (hConnections : after.connections = store.connections)
    (hChannels : store.channels.map channelTable.identity ⊆
      after.channels.map channelTable.identity)
    (hThings : store.things.map thingTable.identity ⊆ after.things.map thingTable.identity) :
    after.Linked where
  oneOwner := by rw [hConnections]; exact hLinked.oneOwner
  channelThere := by
    rw [hConnections]
    exact fun row hRow => hChannels (hLinked.channelThere row hRow)
  thingThere := by
    rw [hConnections]
    exact fun row hRow => hThings (hLinked.thingThere row hRow)
  pairsDiffer := by rw [hConnections]; exact hLinked.pairsDiffer

/-- Connections stay sound where some of them are taken away and the others keep their ends. -/
theorem of_filter (hLinked : store.Linked) (keep : ConnectionRow → Bool)
    (hConnections : after.connections = store.connections.filter keep)
    (hChannels : ∀ row ∈ store.connections, keep row = true →
      channelTable.endOf row ∈ after.channels.map channelTable.identity)
    (hThings : ∀ row ∈ store.connections, keep row = true →
      thingTable.endOf row ∈ after.things.map thingTable.identity) :
    after.Linked := by
  have hKept : ∀ row ∈ after.connections, row ∈ store.connections ∧ keep row = true := by
    rw [hConnections]
    exact fun row hRow => List.mem_filter.mp hRow
  refine ⟨?_, ?_, ?_, ?_⟩
  · exact fun row hRow => hLinked.oneOwner row (hKept row hRow).1
  · exact fun row hRow => hChannels row (hKept row hRow).1 (hKept row hRow).2
  · exact fun row hRow => hThings row (hKept row hRow).1 (hKept row hRow).2
  · rw [hConnections]
    exact hLinked.pairsDiffer.sublist (List.filter_sublist.map _)

/-- A new connection of two ends of one owner, which were not connected, keeps connections sound. -/
theorem concat (hLinked : store.Linked) {owner channelId thingId : String}
    (hNew : store.connections.any (ConnectionRow.joins (.text channelId) (.text thingId)) = false)
    (hChannel : channelTable.owns store (.text owner) channelId)
    (hThing : thingTable.owns store (.text owner) thingId) :
    Linked { store with connections := store.connections ++ [⟨channelId, owner, thingId, owner⟩] }
      where
  oneOwner := by
    intro row hRow
    rcases List.mem_append.mp hRow with hOld | hAdded
    · exact hLinked.oneOwner row hOld
    · rw [List.mem_singleton.mp hAdded]
  channelThere := by
    intro row hRow
    rcases List.mem_append.mp hRow with hOld | hAdded
    · exact hLinked.channelThere row hOld
    · rw [List.mem_singleton.mp hAdded]
      exact (channelTable.owns_iff store owner channelId).mp hChannel
  thingThere := by
    intro row hRow
    rcases List.mem_append.mp hRow with hOld | hAdded
    · exact hLinked.thingThere row hOld
    · rw [List.mem_singleton.mp hAdded]
      exact (thingTable.owns_iff store owner thingId).mp hThing
  pairsDiffer := by
    rw [List.map_append, List.map_singleton, List.nodup_append_comm, List.singleton_append,
      List.nodup_cons]
    refine ⟨?_, hLinked.pairsDiffer⟩
    intro hMem
    obtain ⟨row, hRow, hPair⟩ := List.mem_map.mp hMem
    have hJoins := (ConnectionRow.joins_text_iff channelId thingId row).mpr hPair
    exact List.any_eq_false.mp hNew row hRow hJoins

/-- Every effect keeps connections sound. -/
theorem effect {operation : Operation} {answer : Except Failure Answer}
    (hEffect : Effect store operation after answer) (hLinked : store.Linked) : after.Linked := by
  cases hEffect with
  | read hReading => exact hLinked
  | refused supply failure => exact hLinked.of_subset rfl (fun _ hMem => hMem) (fun _ hMem => hMem)
  | thingSaved hFields hAccepts =>
      exact hLinked.of_subset (thingTable.connections_added _ _ _) (fun _ hMem => hMem)
        (thingTable.subset_added _ _ _)
  | thingUpdated hFields hUpdates =>
      exact hLinked.of_subset (thingTable.connections_change _ _ _ _) (fun _ hMem => hMem)
        (thingTable.subset_updated _ _ _)
  | keyChanged hOwned hFree =>
      exact hLinked.of_subset (thingTable.connections_change _ _ _ _) (fun _ hMem => hMem)
        (thingTable.subset_change _ _ _ fun _ => rfl)
  | thingRemoved owner id =>
      exact hLinked.of_filter _ rfl (fun row hRow _ => hLinked.channelThere row hRow)
        (thingTable.endOf_mem_without hLinked.thingThere owner id)
  | channelSaved hFields hAccepts =>
      exact hLinked.of_subset (channelTable.connections_added _ _ _)
        (channelTable.subset_added _ _ _) (fun _ hMem => hMem)
  | channelUpdated hFields hUpdates =>
      exact hLinked.of_subset (channelTable.connections_change _ _ _ _)
        (channelTable.subset_updated _ _ _) (fun _ hMem => hMem)
  | channelRemoved owner id =>
      exact hLinked.of_filter _ rfl (channelTable.endOf_mem_without hLinked.channelThere owner id)
        (fun row hRow _ => hLinked.thingThere row hRow)
  | alreadyConnected owner channelId thingId => exact hLinked
  | connected hOwner hNew hChannel hThing => exact hLinked.concat hNew hChannel hThing
  | disconnected hJoined =>
      refine hLinked.of_filter _ rfl ?_ ?_
      · exact fun row hRow _ => hLinked.channelThere row hRow
      · exact fun row hRow _ => hLinked.thingThere row hRow
  | messagesSaved batch rows =>
      exact hLinked.of_subset rfl (fun _ hMem => hMem) (fun _ hMem => hMem)

/-- Runs keep connections sound. -/
theorem run (hLinked : store.Linked) (steps : List Step) : (store.run steps).Linked :=
  store.run_preserves (fun _ _ _ _ => effect) steps hLinked

end Linked

/-- After every run each connection joins a stored channel and a stored thing of its one owner, and
no two connections join the same channel and thing. Steps of the run may fail, and the storage
engine may be made to report any errors. -/
theorem connections_sound (supply : Identifier.Supply) (steps : List Step) :
    let store := (empty supply).run steps
    (∀ row ∈ store.connections,
      row.channelOwner = row.thingOwner ∧
      (∃ channel ∈ store.channels, channel.id = row.channelId ∧ channel.owner = row.channelOwner) ∧
      (∃ thing ∈ store.things, thing.id = row.thingId ∧ thing.owner = row.thingOwner)) ∧
    store.connections.Pairwise fun first second =>
      ¬ (first.channelId = second.channelId ∧ first.thingId = second.thingId) := by
  have hLinked : ((empty supply).run steps).Linked := (Linked.empty supply).run steps
  refine ⟨?_, ?_⟩
  · intro row hRow
    obtain ⟨channel, hChannel, hChannelEnd⟩ := List.mem_map.mp (hLinked.channelThere row hRow)
    obtain ⟨thing, hThing, hThingEnd⟩ := List.mem_map.mp (hLinked.thingThere row hRow)
    exact ⟨hLinked.oneOwner row hRow, ⟨channel, hChannel, Prod.mk.inj hChannelEnd⟩,
      ⟨thing, hThing, Prod.mk.inj hThingEnd⟩⟩
  · refine (List.pairwise_map.mp hLinked.pairsDiffer).imp ?_
    intro first second hDiffer hSame
    exact hDiffer (Prod.ext hSame.1 hSame.2)

end Store

end DeviceRegistry
