import DeviceRegistry.Proofs.Store.ConnectOutcome

/-! Disconnecting is the inverse of connecting. A call to disconnect asks neither things nor
channels: the owner of both ends is stored with a connection, and is right in every run. -/
namespace DeviceRegistry.Store

variable {store : Store} {owner channelId thingId : String}

/-- No connection is stored twice. -/
theorem Linked.connections_nodup (hLinked : store.Linked) : store.connections.Nodup :=
  hLinked.pairsDiffer.of_map

/-- Disconnecting takes the one connection of the pair and the owner away, if there is one. -/
theorem disconnect_eq (hLinked : store.Linked) (owner channelId thingId : String) :
    store.disconnect (.text owner) (.text channelId) (.text thingId) none =
      if ⟨channelId, owner, thingId, owner⟩ ∈ store.connections then
        ⟨{ store with connections := store.connections.erase ⟨channelId, owner, thingId, owner⟩ },
          .ok (), []⟩
      else .failed store (.absent .connection) := by
  have hAny : (store.connections.any fun row => row.joins (.text channelId) (.text thingId) &&
      row.isOf (.text owner)) =
      decide (⟨channelId, owner, thingId, owner⟩ ∈ store.connections) := by
    rw [Bool.eq_iff_iff, List.any_eq_true, decide_eq_true_eq]
    simp only [ConnectionRow.ends_iff, exists_eq_right]
  have hRest : (store.connections.filter fun row =>
      !(row.joins (.text channelId) (.text thingId) && row.isOf (.text owner))) =
      store.connections.erase ⟨channelId, owner, thingId, owner⟩ := by
    rw [hLinked.connections_nodup.erase_eq_filter]
    refine List.filter_congr fun row _ => ?_
    rw [Bool.eq_iff_iff, Bool.not_eq_true', ← Bool.not_eq_true, ConnectionRow.ends_iff, bne_iff_ne]
  simp only [disconnect, hAny, hRest, decide_eq_true_eq]
  rfl

/-- One connection of a pair is gone, with which the pair is connected no longer, and nothing else
has changed. -/
structure DisconnectedFor (store after : Store) (owner channelId thingId : String) : Prop where
  connected : ⟨channelId, owner, thingId, owner⟩ ∈ store.connections
  apart : ¬ after.Joins channelId thingId
  tables : after =
    { store with connections := store.connections.erase ⟨channelId, owner, thingId, owner⟩ }

/-- No second connection joins the pair of one that is taken away. -/
theorem Linked.not_joins_erase (hLinked : store.Linked)
    (hRow : ⟨channelId, owner, thingId, owner⟩ ∈ store.connections) :
    ¬ Joins { store with connections := store.connections.erase ⟨channelId, owner, thingId, owner⟩ }
      channelId thingId := by
  rintro ⟨other, hOther, rfl, rfl⟩
  rw [hLinked.connections_nodup.mem_erase_iff] at hOther
  exact hOther.1 (List.inj_on_of_nodup_map hLinked.pairsDiffer hOther.2 hRow rfl)

/-- A pair is connected for the owner of both of its ends, if it is connected at all. -/
theorem mem_connections_iff (hLinked : store.Linked) (hIdentified : store.Identified) :
    ⟨channelId, owner, thingId, owner⟩ ∈ store.connections ↔
      store.Joins channelId thingId ∧ store.HasEnds owner channelId thingId :=
  ⟨fun hRow => ⟨⟨_, hRow, rfl, rfl⟩, hasEnds_of_mem hLinked hRow⟩,
    fun ⟨hJoins, hEnds⟩ => hEnds.mem_connections hLinked hIdentified hJoins⟩

structure SameRows (store other : Store) : Prop where
  things : store.things.Perm other.things
  channels : store.channels.Perm other.channels
  connections : store.connections.Perm other.connections
  messages : store.messages.Perm other.messages

/-- A connection that is there is taken away and nothing else. -/
theorem disconnect_of_mem (hLinked : store.Linked)
    (hRow : ⟨channelId, owner, thingId, owner⟩ ∈ store.connections) :
    ∃ after, store.disconnect (.text owner) (.text channelId) (.text thingId) none =
      ⟨after, .ok (), []⟩ ∧
      store.DisconnectedFor after owner channelId thingId := by
  rw [disconnect_eq hLinked, if_pos hRow]
  exact ⟨_, rfl, hRow, hLinked.not_joins_erase hRow, rfl⟩

/-- A connection that was made is found again, and the tables are left as they were before it. -/
theorem disconnect_connect (hLinked : store.Linked) (hIdentified : store.Identified)
    (hEnds : store.HasEnds owner channelId thingId) (hApart : ¬ store.Joins channelId thingId) :
    let connected := (store.connect (.text owner) (.text channelId) (.text thingId) none).store
    connected.disconnect (.text owner) (.text channelId) (.text thingId) none =
      ⟨store, .ok (), []⟩ := by
  have hChannel := (channelTable.owns_iff_has _ _ _).mpr hEnds.1
  have hThing := (thingTable.owns_iff_has _ _ _).mpr hEnds.2
  have hNew : ¬ ⟨channelId, owner, thingId, owner⟩ ∈ store.connections :=
    fun hRow => hApart ⟨_, hRow, rfl, rfl⟩
  have hConcat : Linked
      { store with connections := store.connections ++ [⟨channelId, owner, thingId, owner⟩] } :=
    hLinked.concat (Bool.eq_false_iff.mpr (mt joins_iff.mpr hApart)) hChannel hThing
  rw [connect_of_owned hIdentified hChannel hThing hApart]
  simp only [disconnect_eq hConcat]
  simp [List.erase_append_right _ hNew]

/-- A connection that was taken away can be made again. It is then the last of all connections. -/
theorem connect_disconnect (hLinked : store.Linked) (hIdentified : store.Identified)
    (hRow : ⟨channelId, owner, thingId, owner⟩ ∈ store.connections) :
    let disconnected :=
      (store.disconnect (.text owner) (.text channelId) (.text thingId) none).store
    let again := disconnected.connect (.text owner) (.text channelId) (.text thingId) none
    again.answer = .ok () ∧ again.store.SameRows store := by
  obtain ⟨after, hOutcome, -, hApart, hAfter⟩ := disconnect_of_mem hLinked hRow
  have hEnds := hasEnds_of_mem hLinked hRow
  -- Things and channels are those of before, so that both ends are found and valid.
  have hStill : after.Identified := by
    rw [hAfter]
    exact ⟨hIdentified.things, hIdentified.channels⟩
  have hChannel : channelTable.owns after (.text owner) channelId = true := by
    rw [hAfter]
    exact (channelTable.owns_iff_has _ _ _).mpr hEnds.1
  have hThing : thingTable.owns after (.text owner) thingId = true := by
    rw [hAfter]
    exact (thingTable.owns_iff_has _ _ _).mpr hEnds.2
  have hRows : (after.connections ++ [ConnectionRow.mk channelId owner thingId owner]).Perm
      store.connections := by
    rw [hAfter]
    exact (List.perm_append_singleton _ _).trans (List.perm_cons_erase hRow).symm
  rw [hOutcome]
  simp only [connect_of_owned hStill hChannel hThing hApart]
  rw [hAfter] at hRows ⊢
  exact ⟨trivial, .refl _, .refl _, hRows, .refl _⟩

/-- Disconnecting is the exact inverse of connecting. After every run an owner can disconnect a
channel and a thing exactly if the two are connected and are both the owner's. Their one connection
is gone then, and nothing else, and any other call changes nothing and is told that there was no
such connection. What is connected and disconnected again leaves the tables as they were, and so
does what is disconnected and connected again, but for the order of the connections. -/
theorem disconnect_exact (supply : Identifier.Supply) (steps : List Step)
    (owner channelId thingId : String) :
    let store := (empty supply).run steps
    let connect (tables : Store) :=
      tables.connect (.text owner) (.text channelId) (.text thingId) none
    let disconnect (tables : Store) :=
      tables.disconnect (.text owner) (.text channelId) (.text thingId) none
    ((disconnect store).answer = .ok () ↔
      store.Joins channelId thingId ∧ store.HasEnds owner channelId thingId) ∧
    ((disconnect store).answer = .ok () →
      store.DisconnectedFor (disconnect store).store owner channelId thingId) ∧
    ((disconnect store).answer ≠ .ok () → disconnect store = .failed store (.absent .connection)) ∧
    (¬ store.Joins channelId thingId → (connect store).answer = .ok () →
      (disconnect (connect store).store).answer = .ok () ∧
      (disconnect (connect store).store).store = store) ∧
    (⟨channelId, owner, thingId, owner⟩ ∈ store.connections →
      (disconnect store).answer = .ok () ∧ (connect (disconnect store).store).answer = .ok () ∧
      (connect (disconnect store).store).store.SameRows store) := by
  intro store connect disconnect
  have hLinked : store.Linked := (Linked.empty supply).run steps
  have hIdentified : store.Identified := (Identified.empty supply).run steps
  rw [← mem_connections_iff hLinked hIdentified]
  by_cases hRow : ⟨channelId, owner, thingId, owner⟩ ∈ store.connections
  · obtain ⟨after, hOutcome, hAfter⟩ := disconnect_of_mem hLinked hRow
    have hDone : (disconnect store).answer = .ok () := congrArg Outcome.answer hOutcome
    refine ⟨iff_of_true hDone hRow, fun _ => ?_, fun hFailed => absurd hDone hFailed,
      fun hApart => ?_, fun _ => ?_⟩
    · rw [congrArg Outcome.store hOutcome]
      exact hAfter
    · exact absurd ⟨_, hRow, rfl, rfl⟩ hApart
    · exact ⟨hDone, connect_disconnect hLinked hIdentified hRow⟩
  · have hOutcome : disconnect store = .failed store (.absent .connection) := by
      exact (disconnect_eq hLinked owner channelId thingId).trans (if_neg hRow)
    have hNotDone : (disconnect store).answer ≠ .ok () := by
      rw [hOutcome]
      nofun
    refine ⟨iff_of_false hNotDone hRow, fun hDone => absurd hDone hNotDone, fun _ => hOutcome,
      fun hApart hDone => ?_,
      fun hMem => absurd hMem hRow⟩
    have hEnds : store.HasEnds owner channelId thingId := by
      by_contra hMissing
      rw [show connect store = _ from connect_of_not_hasEnds hMissing hApart] at hDone
      cases hDone
    have hBack : disconnect (connect store).store = ⟨store, .ok (), []⟩ :=
      disconnect_connect hLinked hIdentified hEnds hApart
    rw [hBack]
    exact ⟨rfl, rfl⟩

/-- The owner disconnects what is connected, and what was connected just before. Someone else calls
in vain. -/
theorem disconnect_exact_owner :
    let store := empty.run contested
    let channelId := "00000000-0000-0000-0000-0000000000c1"
    let thingId := "00000000-0000-0000-0000-0000000000d1"
    let otherId := "00000000-0000-0000-0000-0000000000d2"
    let connect (thingId : String) (tables : Store) :=
      tables.connect (.text "ada") (.text channelId) (.text thingId) none
    let disconnect (owner thingId : String) (tables : Store) :=
      tables.disconnect (.text owner) (.text channelId) (.text thingId) none
    store.DisconnectedFor (disconnect "ada" thingId store).store "ada" channelId thingId ∧
    (connect thingId (disconnect "ada" thingId store).store).store.SameRows store ∧
    disconnect "eve" thingId store = .failed store (.absent .connection) ∧
    (disconnect "ada" otherId (connect otherId store).store).store = store := by
  intro store channelId thingId otherId connect disconnect
  have hOwn (id : String) (hThing : thingTable.owns store (.text "ada") id = true) :
      store.HasEnds "ada" channelId id :=
    hasEnds_iff.mp (Bool.and_eq_true_iff.mpr ⟨rfl, hThing⟩)
  have hForeign : ¬ store.HasEnds "eve" channelId thingId := by
    rw [← hasEnds_iff]
    exact Bool.eq_false_iff.mp rfl
  have hConnected : ⟨channelId, "ada", thingId, "ada"⟩ ∈ store.connections := List.mem_cons_self
  have hApart : ¬ store.Joins channelId otherId :=
    fun hJoins => Bool.false_ne_true (joins_iff.mp hJoins)
  obtain ⟨hDoneIff, hGone, -, -, hAgain⟩ :=
    disconnect_exact .counting contested "ada" channelId thingId
  obtain ⟨hForeignIff, -, hFailed, -⟩ :=
    disconnect_exact .counting contested "eve" channelId thingId
  obtain ⟨-, -, -, hBack, -⟩ := disconnect_exact .counting contested "ada" channelId otherId
  obtain ⟨_, _, hMade, -⟩ :=
    (hOwn otherId rfl).connected ((Linked.empty .counting).run contested)
    ((Identified.empty .counting).run contested)
  exact ⟨hGone (hDoneIff.mpr ⟨⟨_, hConnected, rfl, rfl⟩, hOwn thingId rfl⟩),
    (hAgain hConnected).2.2,
    hFailed fun hDone => hForeign (hForeignIff.mp hDone).2,
    (hBack hApart (congrArg Outcome.answer hMade)).2⟩

end DeviceRegistry.Store
