import DeviceRegistry.Proofs.Store.SeparateReads
import DeviceRegistry.Proofs.Store.WriteOutcomes

/-! What becomes of a call to connect. The pair is looked up before its ends are, so that the owner
who calls is not asked for where the pair is connected already. -/
namespace DeviceRegistry.Store

variable {store : Store} {owner channelId thingId : String}

def HasEnds (store : Store) (owner channelId thingId : String) : Prop :=
  store.HasChannel owner channelId ∧ store.HasThing owner thingId

/-- The ends are looked up as the claimed owner has them. -/
theorem hasEnds_iff :
    (channelTable.owns store (.text owner) channelId &&
      thingTable.owns store (.text owner) thingId) = true ↔
    store.HasEnds owner channelId thingId := by
  rw [Bool.and_eq_true, channelTable.owns_iff_has, thingTable.owns_iff_has]
  exact Iff.rfl

theorem HasEnds.isValid (hEnds : store.HasEnds owner channelId thingId)
    (hIdentified : store.Identified) :
    (Identifier.isValid channelId && Identifier.isValid thingId) = true := by
  rw [Bool.and_eq_true]
  exact ⟨hIdentified.channels.isValid_of_owns ((channelTable.owns_iff_has _ _ _).mpr hEnds.1),
    hIdentified.things.isValid_of_owns ((thingTable.owns_iff_has _ _ _).mpr hEnds.2)⟩

/-- A connection of an owner has both of its ends. -/
theorem hasEnds_of_mem (hLinked : store.Linked)
    (hRow : ⟨channelId, owner, thingId, owner⟩ ∈ store.connections) :
    store.HasEnds owner channelId thingId :=
  hasEnds_iff.mp (Bool.and_eq_true_iff.mpr ⟨(channelTable.owns_iff store owner channelId).mpr
    (hLinked.channelThere _ hRow), (thingTable.owns_iff store owner thingId).mpr
      (hLinked.thingThere _ hRow)⟩)

/-- The connection of a pair whose ends an owner has is the owner's. -/
theorem HasEnds.mem_connections (hEnds : store.HasEnds owner channelId thingId)
    (hLinked : store.Linked) (hIdentified : store.Identified)
    (hJoins : store.Joins channelId thingId) :
    ⟨channelId, owner, thingId, owner⟩ ∈ store.connections :=
  mem_connections_of_joined hLinked hIdentified (joins_iff.mp hJoins)
    ((channelTable.owns_iff_has _ _ _).mpr hEnds.1)

/-- Whoever calls, a pair that is connected stays as it is. -/
theorem connect_of_joins (hLinked : store.Linked) (hIdentified : store.Identified)
    (hJoins : store.Joins channelId thingId) :
    store.connect (.text owner) (.text channelId) (.text thingId) none =
      ⟨store, .ok (), [.alreadyConnected thingId channelId]⟩ := by
  obtain ⟨holder, hRow⟩ := (joined_iff hLinked channelId thingId).mp (joins_iff.mp hJoins)
  rw [connect_text, (hasEnds_of_mem hLinked hRow).isValid hIdentified, joins_iff.mp hJoins]
  rfl

/-- A pair that is not connected is connected by nobody but the owner of both ends. -/
theorem connect_of_not_hasEnds (hMissing : ¬ store.HasEnds owner channelId thingId)
    (hApart : ¬ store.Joins channelId thingId) :
    store.connect (.text owner) (.text channelId) (.text thingId) none =
      .failed store (.absent .endpoint) := by
  rw [connect_text, if_neg (mt joins_iff.mpr hApart), if_neg (mt hasEnds_iff.mp hMissing), ite_self]

/-- What an owner of both ends gets from a call to connect. There is one row for the pair, of that
owner, and nothing else has changed. -/
structure ConnectedFor (store after : Store) (owner channelId thingId : String) : Prop where
  pair : after.connections.filter (ConnectionRow.joins (.text channelId) (.text thingId)) =
    [⟨channelId, owner, thingId, owner⟩]
  others : (after.connections.filter fun row => !row.joins (.text channelId) (.text thingId)) =
    store.connections.filter fun row => !row.joins (.text channelId) (.text thingId)
  tables : after = { store with connections := after.connections }

/-- An owner of both ends is connected, whether or not the pair was before. -/
theorem HasEnds.connected (hEnds : store.HasEnds owner channelId thingId) (hLinked : store.Linked)
    (hIdentified : store.Identified) :
    ∃ after log, store.connect (.text owner) (.text channelId) (.text thingId) none =
      ⟨after, .ok (), log⟩ ∧
      store.ConnectedFor after owner channelId thingId ∧ after.Joins channelId thingId := by
  have hOwn : ConnectionRow.joins (.text channelId) (.text thingId)
      ⟨channelId, owner, thingId, owner⟩ = true :=
    (ConnectionRow.joins_text_iff channelId thingId _).mpr rfl
  by_cases hJoins : store.Joins channelId thingId
  · refine ⟨store, _, connect_of_joins hLinked hIdentified hJoins, ⟨?_, rfl, rfl⟩, hJoins⟩
    exact filter_eq_singleton hLinked.pairsDiffer (hEnds.mem_connections hLinked hIdentified hJoins)
      (ConnectionRow.joins_text_iff channelId thingId)
  · have hNone : store.connections.filter (ConnectionRow.joins (.text channelId) (.text thingId)) =
        [] := by
      rw [List.filter_eq_nil_iff]
      exact fun row hRow hSame => hJoins (joins_iff.mpr (List.any_eq_true.mpr ⟨row, hRow, hSame⟩))
    refine ⟨_, _, connect_of_owned hIdentified ((channelTable.owns_iff_has _ _ _).mpr hEnds.1)
      ((thingTable.owns_iff_has _ _ _).mpr hEnds.2) hJoins, ⟨?_, ?_, rfl⟩, ?_⟩
    · simp [List.filter_append, hNone, hOwn]
    · simp [List.filter_append, hOwn]
    · exact ⟨_, List.mem_concat_self, rfl, rfl⟩

/-- A call to connect asks for the owner only where the pair is not connected yet. After every run
the owner of both ends succeeds, is left with one connection of the pair, and finds nothing more to
do at a second call. Anyone else changes nothing, and is told that the ends were not found, unless
the pair is connected for the owner whose ends they are: then the call succeeds, too. -/
theorem connect_exact (supply : Identifier.Supply) (steps : List Step)
    (owner channelId thingId : String) :
    let store := (empty supply).run steps
    let outcome := store.connect (.text owner) (.text channelId) (.text thingId) none
    (store.HasEnds owner channelId thingId →
      outcome.answer = .ok () ∧ store.ConnectedFor outcome.store owner channelId thingId ∧
      (outcome.store.connect (.text owner) (.text channelId) (.text thingId) none).store =
        outcome.store ∧
      (outcome.store.connect (.text owner) (.text channelId) (.text thingId) none).answer =
        .ok ()) ∧
    (¬ store.HasEnds owner channelId thingId →
      outcome.store = store ∧
      (outcome.answer = .ok () ↔ ∃ holder, holder ≠ owner ∧ store.HasEnds holder channelId thingId ∧
        ⟨channelId, holder, thingId, holder⟩ ∈ store.connections) ∧
      (outcome.answer ≠ .ok () → outcome.answer = .error (.absent .endpoint))) := by
  intro store outcome
  have hLinked : store.Linked := (Linked.empty supply).run steps
  have hIdentified : store.Identified := (Identified.empty supply).run steps
  refine ⟨fun hEnds => ?_, fun hMissing => ?_⟩
  · obtain ⟨after, log, hFirst, hConnected, hJoins⟩ := hEnds.connected hLinked hIdentified
    have hAfter : outcome.store = after := congrArg Outcome.store hFirst
    -- The tables after the first call are those of a longer run, so that the second call finds them
    -- sound, too.
    have hStep : after = (empty supply).run
        (steps ++ [⟨.connect (.text owner) (.text channelId) (.text thingId), none⟩]) := by
      rw [run_concat]
      exact hAfter.symm
    have hSecond : after.connect (.text owner) (.text channelId) (.text thingId) none = _ :=
      connect_of_joins (hStep ▸ (Linked.empty supply).run _)
        (hStep ▸ (Identified.empty supply).run _) hJoins
    rw [hAfter, hSecond]
    exact ⟨congrArg Outcome.answer hFirst, hConnected, rfl, rfl⟩
  · by_cases hJoins : store.Joins channelId thingId
    · have hOutcome : outcome = ⟨store, .ok (), [.alreadyConnected thingId channelId]⟩ :=
        connect_of_joins hLinked hIdentified hJoins
      rw [hOutcome]
      refine ⟨rfl, iff_of_true rfl ?_, fun hFailed => absurd rfl hFailed⟩
      obtain ⟨holder, hRow⟩ := (joined_iff hLinked channelId thingId).mp (joins_iff.mp hJoins)
      have hHolds := hasEnds_of_mem hLinked hRow
      exact ⟨holder, fun hSame => hMissing (hSame ▸ hHolds), hHolds, hRow⟩
    · have hOutcome : outcome = .failed store (.absent .endpoint) :=
        connect_of_not_hasEnds hMissing hJoins
      rw [hOutcome]
      refine ⟨rfl, iff_of_false nofun ?_, fun _ => rfl⟩
      rintro ⟨holder, -, -, hRow⟩
      exact hJoins ⟨_, hRow, rfl, rfl⟩

/-- Someone else calls for a pair that is connected and for one that is not. The owner calls for the
second one. -/
theorem connect_exact_foreign :
    let store := empty.run contested
    let channelId := "00000000-0000-0000-0000-0000000000c1"
    let thingId := "00000000-0000-0000-0000-0000000000d1"
    let otherId := "00000000-0000-0000-0000-0000000000d2"
    let connect (owner thingId : String) :=
      store.connect (.text owner) (.text channelId) (.text thingId) none
    ¬ store.HasEnds "eve" channelId thingId ∧ (connect "eve" thingId).answer = .ok () ∧
    (connect "eve" thingId).store = store ∧ (connect "eve" otherId).answer =
      .error (.absent .endpoint) ∧
    (connect "ada" otherId).answer = .ok () ∧
    store.ConnectedFor (connect "ada" otherId).store "ada" channelId otherId := by
  intro store channelId thingId otherId connect
  have hForeign (thingId : String) : ¬ store.HasEnds "eve" channelId thingId := by
    rw [← hasEnds_iff]
    exact Bool.eq_false_iff.mp rfl
  have hOwn (id : String) (hThing : thingTable.owns store (.text "ada") id = true) :
      store.HasEnds "ada" channelId id :=
    hasEnds_iff.mp (Bool.and_eq_true_iff.mpr ⟨rfl, hThing⟩)
  have hConnections : store.connections = [⟨channelId, "ada", thingId, "ada"⟩] := rfl
  have hConnected : ⟨channelId, "ada", thingId, "ada"⟩ ∈ store.connections := List.mem_cons_self
  obtain ⟨hSame, hAnswer, -⟩ :=
    (connect_exact .counting contested "eve" channelId thingId).2 (hForeign thingId)
  obtain ⟨-, hDoneIff, hFailed⟩ :=
    (connect_exact .counting contested "eve" channelId otherId).2 (hForeign otherId)
  have hAbsent := hFailed fun hDone => by
    obtain ⟨holder, -, -, hRow⟩ := hDoneIff.mp hDone
    rw [hConnections, List.mem_singleton, ConnectionRow.mk.injEq] at hRow
    exact absurd hRow.2.2.1 (by decide)
  obtain ⟨hDone, hRow, -⟩ :=
    (connect_exact .counting contested "ada" channelId otherId).1 (hOwn otherId rfl)
  exact ⟨hForeign thingId, hAnswer.mpr ⟨"ada", by decide, hOwn thingId rfl, hConnected⟩, hSame,
    hAbsent, hDone, hRow⟩

end DeviceRegistry.Store
