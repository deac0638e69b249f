import DeviceRegistry.Proofs.Store.Authorization

/-! Authorization by a key across two transactions. The key is looked up in one transaction and
the connection of its thing in another one, and steps of other clients may come between the two.
A thing that is accepted held the key at the first and is connected at the second. It need not
have been both at any one time: between the two reads the key may be revoked and the thing be
connected afterwards. -/
namespace DeviceRegistry

namespace Moment

variable {moment : Moment} {channelId thingId key : String}

/-- A key that a thing loses in a step is revoked by the step. -/
theorem held_or_revokes (moment : Moment) (hHolds : moment.tables.Holds thingId key) :
    moment.after.Holds thingId key ∨ moment.revokesKey key = true := by
  have hEffect := moment.effect
  unfold revokesKey
  generalize moment.step.operation = operation, moment.after = after,
    moment.answer = answer at hEffect ⊢
  rw [Store.holds_iff] at hHolds ⊢
  cases hEffect with
  | thingSaved hFields hAccepts =>
      left
      exact List.map_append ▸ List.mem_append_left _ hHolds
  | @thingUpdated fields thing text hFields hUpdates =>
      left
      have hCredentials : (thingTable.updated moment.tables thing text).things.map
          ThingRow.credential =
          moment.tables.things.map ThingRow.credential :=
        thingTable.map_updated moment.tables thing text fun _ _ _ => rfl
      exact hCredentials ▸ hHolds
  | @keyChanged owner id newKey hOwned hFree =>
      obtain ⟨row, hRow, hCredential⟩ := List.mem_map.mp hHolds
      obtain ⟨rfl, hKey⟩ := Prod.mk.inj hCredential
      by_cases hOf : thingTable.isOf owner id row = true
      · cases hSame : newKey.equalsText key with
        | true =>
            left
            refine List.mem_map.mpr ⟨_, List.mem_map.mpr ⟨row, hRow, if_pos hOf⟩, ?_⟩
            exact Prod.ext rfl (Value.equalsText_iff.mp hSame)
        | false =>
            right
            refine Bool.and_eq_true_iff.mpr
              ⟨by rw [hSame]; rfl, List.any_eq_true.mpr ⟨row, hRow, ?_⟩⟩
            exact Bool.and_eq_true_iff.mpr ⟨hOf, beq_iff_eq.mpr hKey⟩
      · exact Or.inl (List.mem_map.mpr ⟨row, List.mem_map.mpr ⟨row, hRow, if_neg hOf⟩, hCredential⟩)
  | thingRemoved owner id =>
      obtain ⟨row, hRow, hCredential⟩ := List.mem_map.mp hHolds
      by_cases hOf : thingTable.isOf owner id row = true
      · right
        refine List.any_eq_true.mpr ⟨row, hRow, ?_⟩
        exact Bool.and_eq_true_iff.mpr ⟨hOf, beq_iff_eq.mpr (congrArg Prod.snd hCredential)⟩
      · left
        refine List.mem_map.mpr ⟨row, List.mem_filter.mpr ⟨hRow, ?_⟩, hCredential⟩
        simpa using hOf
  | _ => exact Or.inl hHolds

/-- A change of keys revokes a key that its thing holds, unless it gives the same one again. -/
theorem revokesKey_of_rekeyed {owner id newKey : Value} {answer : Answer}
    (hStep : moment.step.operation = .updateKey owner id newKey)
    (hDone : moment.answer = .ok answer) :
    moment.revokesKey key =
      (!newKey.equalsText key && moment.tables.things.any fun row => thingTable.isOf owner id row &&
        row.key == .text key) := by
  rw [revokesKey, hStep, hDone]

/-- A pair that is connected after a step and was not before it has been connected by the step, and
the step did nothing to things. -/
theorem joined_or_connects (hJoins : moment.after.Joins channelId thingId) :
    moment.tables.Joins channelId thingId ∨
      (∃ owner, moment.step.operation = .connect owner (.text channelId) (.text thingId)) ∧
        moment.after.things = moment.tables.things := by
  have hEffect := moment.effect
  generalize moment.step.operation = operation, moment.after = after,
    moment.answer = answer at hEffect hJoins ⊢
  obtain ⟨connection, hConnection, rfl, rfl⟩ := hJoins
  cases hEffect with
  | thingRemoved owner id => exact Or.inl ⟨connection, (List.mem_filter.mp hConnection).1, rfl, rfl⟩
  | channelRemoved owner id =>
      exact Or.inl ⟨connection, (List.mem_filter.mp hConnection).1, rfl, rfl⟩
  | @connected owner name channelId thingId hOwner hNew hChannel hThing =>
      rcases List.mem_append.mp hConnection with hOld | hAdded
      · exact Or.inl ⟨connection, hOld, rfl, rfl⟩
      · rw [List.mem_singleton.mp hAdded]
        exact Or.inr ⟨⟨owner, rfl⟩, rfl⟩
  | disconnected hJoined => exact Or.inl ⟨connection, (List.mem_filter.mp hConnection).1, rfl, rfl⟩
  | _ => exact Or.inl ⟨connection, hConnection, rfl, rfl⟩

end Moment

namespace Store

variable {store : Store} {channelId thingId key : String}

/-- A key that a thing holds before a run and no longer after it is revoked on the way. -/
theorem exists_revokes_of_not_holds (hHolds : store.Holds thingId key) {steps : List Step}
    (hLost : ¬ (store.run steps).Holds thingId key) :
    ∃ moment ∈ store.trace steps, moment.revokesKey key = true := by
  induction steps generalizing store with
  | nil => exact absurd hHolds hLost
  | cons step steps ih =>
      rw [trace]
      rcases Moment.held_or_revokes ⟨store, step⟩ hHolds with hHeld | hRevokes
      · obtain ⟨moment, hMoment, hRevokes⟩ := ih hHeld hLost
        exact ⟨moment, List.mem_cons_of_mem _ hMoment, hRevokes⟩
      · exact ⟨_, List.mem_cons_self, hRevokes⟩

/-- A pair that is connected after a run and was not before it is connected by a step on the way. -/
theorem exists_connects_of_joins (hApart : ¬ store.Joins channelId thingId) {steps : List Step}
    (hJoins : (store.run steps).Joins channelId thingId) :
    ∃ earlier step later, steps = earlier ++ step :: later ∧
      (∃ owner, step.operation = .connect owner (.text channelId) (.text thingId)) ∧
      ¬ (store.run earlier).Joins channelId thingId ∧
      (store.run (earlier ++ [step])).Joins channelId thingId ∧
      (store.run (earlier ++ [step])).things = (store.run earlier).things := by
  induction steps using List.reverseRecOn with
  | nil => exact absurd hJoins hApart
  | append_singleton steps step ih =>
      by_cases hBefore : (store.run steps).Joins channelId thingId
      · obtain ⟨earlier, connecting, later, rfl, hConnects⟩ := ih hBefore
        exact ⟨earlier, connecting, later ++ [step], by simp, hConnects⟩
      · have hStep : (Moment.after ⟨store.run steps, step⟩).Joins channelId thingId := by
          rw [run_concat] at hJoins
          exact hJoins
        obtain ⟨hConnects, hThings⟩ := (Moment.joined_or_connects hStep).resolve_left hBefore
        refine ⟨steps, step, [], rfl, hConnects, hBefore, hJoins, ?_⟩
        rw [run_concat]
        exact hThings

/-- Between the two reads a thing that is accepted held the key while it was connected, or else a
step that connects it comes after one that revokes the key. -/
theorem held_while_joined_or_revoked {channelId thingId key : String}
    (hHolds : store.Holds thingId key) {others : List Step}
    (hJoins : (store.run others).Joins channelId thingId) :
    (∃ earlier later, others = earlier ++ later ∧ (store.run earlier).Holds thingId key ∧
      (store.run earlier).Joins channelId thingId) ∨
    ∃ earlier step later, others = earlier ++ step :: later ∧
      (∃ moment ∈ store.trace earlier, moment.revokesKey key = true) ∧
      (∃ owner, step.operation = .connect owner (.text channelId) (.text thingId)) ∧
      ¬ (store.run earlier).Holds thingId key ∧ ¬ (store.run earlier).Joins channelId thingId := by
  by_cases hStart : store.Joins channelId thingId
  · exact Or.inl ⟨[], others, rfl, hHolds, hStart⟩
  · obtain ⟨earlier, step, later, rfl, hConnects, hApart, hAfter, hThings⟩ :=
      exists_connects_of_joins hStart hJoins
    by_cases hHeld : (store.run earlier).Holds thingId key
    · refine Or.inl ⟨earlier ++ [step], later, by simp, ?_, hAfter⟩
      rw [Holds, hThings]
      exact hHeld
    · exact Or.inr ⟨earlier, step, later, rfl, exists_revokes_of_not_holds hHolds hHeld,
        hConnects, hHeld, hApart⟩

/-- What may come between the two reads: an owner gives a thing another key, and only then
connects it. -/
def rekeyedThenConnected (owner channelId thingId newKey : String) : List Step :=
  [⟨.updateKey (.text owner) (.text thingId) (.text newKey), none⟩,
    ⟨.connect (.text owner) (.text channelId) (.text thingId), none⟩]

section Race

variable {owner channelId thingId key newKey : String}

/-- The owner of a channel and of a thing that are not connected may connect them. -/
theorem connect_of_owned (hIdentified : store.Identified)
    (hChannel : channelTable.owns store (.text owner) channelId = true)
    (hThing : thingTable.owns store (.text owner) thingId = true)
    (hApart : ¬ store.Joins channelId thingId) :
    store.connect (.text owner) (.text channelId) (.text thingId) none =
      ⟨{ store with connections := store.connections ++ [⟨channelId, owner, thingId, owner⟩] },
        .ok (), []⟩ := by
  have hValid : (Identifier.isValid channelId && Identifier.isValid thingId) = true :=
    Bool.and_eq_true_iff.mpr ⟨hIdentified.channels.isValid_of_owns hChannel,
      hIdentified.things.isValid_of_owns hThing⟩
  have hNew : store.connections.any (ConnectionRow.joins (.text channelId) (.text thingId)) =
      false :=
    Bool.eq_false_iff.mpr fun hJoined => hApart (joins_iff.mpr hJoined)
  rw [connect_text, hValid, hNew, hChannel, hThing]
  rfl

variable (hThing : thingTable.owns store (.text owner) thingId = true)
  (hShort : (Cell.text newKey).length ≤ maxKeyLength)
  (hUnused : ∀ row ∈ store.things, row.key ≠ .text newKey)

include hThing hShort hUnused

/-- The owner of a thing may give it any short key that nothing has. -/
theorem perform_updateKey :
    store.perform ⟨.updateKey (.text owner) (.text thingId) (.text newKey), none⟩ =
      ⟨thingTable.change store (.text owner) (.text thingId) fun row =>
        { row with key := .text newKey },
        .ok .done, []⟩ := by
  have hOwned : store.things.any (thingTable.isOf (.text owner) (.text thingId)) = true := by
    obtain ⟨row, hRow, hIdentity⟩ :=
      List.mem_map.mp ((thingTable.owns_iff store owner thingId).mp hThing)
    obtain ⟨rfl, rfl⟩ := Prod.mk.inj hIdentity
    exact List.any_eq_true.mpr ⟨row, hRow, by simp [EntityTable.isOf, thingTable]⟩
  have hFree : store.keyRefusal? (.text owner) (.text thingId) (.text newKey) = none :=
    keyRefusal?_eq_none_iff.mpr ⟨by simp, hShort, fun row hRow _ => hUnused row hRow⟩
  have hBound : ∃ cells, Cell.ofValues (Value.text newKey ::
      ((Value.text owner).comparisonParameters ++ (Value.text thingId).comparisonParameters)) =
        .ok cells :=
    ⟨_, rfl⟩
  obtain ⟨cells, hCells⟩ := hBound
  have hColumn : (Value.text newKey).toColumnCell = .text newKey := rfl
  simp only [perform, updateKey, hCells, hOwned, hColumn, hFree, Bool.not_true,
    Bool.false_eq_true, if_false]
  rfl

variable (hIdentified : store.Identified) (hKeyed : store.Keyed) (hHolds : store.Holds thingId key)

include hIdentified hKeyed hHolds

/-- A thing that is given another key loses the one it had. -/
theorem not_holds_after_updateKey :
    ¬ (thingTable.change store (.text owner) (.text thingId) fun row =>
      { row with key := .text newKey }).Holds
      thingId key := by
  let rekeying : Moment := ⟨store, ⟨.updateKey (.text owner) (.text thingId) (.text newKey), none⟩⟩
  have hPerform : store.perform rekeying.step = _ := perform_updateKey hThing hShort hUnused
  have hDone : rekeying.answer = .ok .done := congrArg Outcome.answer hPerform
  have hRevokes : rekeying.revokesKey key = true := by
    obtain ⟨row, hRow, rfl, hKey⟩ := hHolds
    obtain ⟨owned, hOwned, hIdentity⟩ :=
      List.mem_map.mp ((thingTable.owns_iff store owner row.id).mp hThing)
    obtain ⟨hId, rfl⟩ := Prod.mk.inj hIdentity
    obtain rfl := List.inj_on_of_nodup_map hIdentified.things.nodup hOwned hRow hId
    have hOther : (Value.text newKey).equalsText key = false := by
      rw [Value.equalsText_text, decide_eq_false_iff_not]
      rintro rfl
      exact hUnused owned hRow hKey
    rw [show rekeying.revokesKey key = _ from Moment.revokesKey_of_rekeyed rfl hDone, hOther]
    exact List.any_eq_true.mpr ⟨owned, hRow, by simp [EntityTable.isOf, thingTable, hKey]⟩
  have hLost := Moment.not_holds_of_revokesKey hKeyed hRevokes thingId
  rwa [Moment.after, hPerform] at hLost

variable (hChannel : channelTable.owns store (.text owner) channelId = true)
  (hApart : ¬ store.Joins channelId thingId)

include hChannel hApart

/-- Between the two reads the owner of a thing that is not connected can always revoke its key and
connect it, so that the revoked key is accepted. -/
theorem accepted_after_revocation :
    let others := rekeyedThenConnected owner channelId thingId newKey
    store.authorizedAcross (store.run others) (.text channelId) (.text key) = .ok thingId ∧
      ∀ earlier later, others = earlier ++ later →
        ¬ ((store.run earlier).Holds thingId key ∧
          (store.run earlier).Joins channelId thingId) := by
  intro others
  let rekeyed :=
    thingTable.change store (.text owner) (.text thingId) fun row =>
      { row with key := .text newKey }
  have hRekeyed : store.run [⟨.updateKey (.text owner) (.text thingId) (.text newKey), none⟩] =
      rekeyed :=
    congrArg Outcome.store (perform_updateKey hThing hShort hUnused)
  have hThings : thingTable.owns rekeyed (.text owner) thingId = true := by
    rw [thingTable.owns_iff] at hThing ⊢
    refine thingTable.subset_change store _ _ ?_ hThing
    exact fun _ => rfl
  have hLast : store.run others =
      { rekeyed with connections := rekeyed.connections ++
        [⟨channelId, owner, thingId, owner⟩] } := by
    have hStill : rekeyed.Identified := hRekeyed ▸ hIdentified.run _
    have hConnected : rekeyed.connect (.text owner) (.text channelId) (.text thingId) none = _ :=
      connect_of_owned hStill hChannel hThings hApart
    rw [show others = [_] ++ [_] from rfl, run_append, hRekeyed]
    exact congrArg Outcome.store hConnected
  have hLost : ¬ rekeyed.Holds thingId key :=
    not_holds_after_updateKey hThing hShort hUnused hIdentified hKeyed hHolds
  refine ⟨?_, fun earlier later hSplit => ?_⟩
  · rw [authorizedAcross_eq_ok_iff hKeyed, hLast]
    exact ⟨hHolds, ⟨channelId, owner, thingId, owner⟩, by simp, rfl, rfl⟩
  · -- The two are not connected before the second step, and the key is lost after the first.
    cases earlier with
    | nil => exact fun hBoth => hApart hBoth.2
    | cons first earlier =>
        obtain ⟨rfl, hRest⟩ := List.cons.inj hSplit
        cases earlier with
        | nil =>
            rw [hRekeyed]
            exact fun hBoth => hLost hBoth.1
        | cons second earlier =>
            obtain ⟨rfl, hNone⟩ := List.cons.inj hRest
            obtain ⟨rfl, -⟩ := List.append_eq_nil_iff.mp hNone.symm
            rw [show [_, _] = others from rfl, hLast]
            exact fun hBoth => hLost hBoth.1

end Race

/-- Authorization by a key in two reads is exact, and not atomic. After every run, and whatever
steps come between the two reads, a thing is accepted exactly if it held the key at the first read
and is connected at the second. Either it was both at some time between and including the two, or a
step in between revoked the key and a later one connected the thing, which then did not have the
key. Wherever an owner has a thing and a channel that are not connected, two steps of the owner have
this outcome: the revoked key is accepted although the thing never had it while it was connected.
Without steps in between, the two reads are one. -/
theorem separate_reads_exact (supply : Identifier.Supply) (steps : List Step) (key : String) :
    let first := (empty supply).run steps
    let answer (others : List Step) (channelId : String) :=
      first.authorizedAcross (first.run others) (.text channelId) (.text key)
    let isAtomic (others : List Step) (channelId thingId : String) :=
      ∃ earlier later, others = earlier ++ later ∧
        (first.run earlier).Holds thingId key ∧ (first.run earlier).Joins channelId thingId
    (∀ channelId, answer [] channelId = first.authorizedByKey (.text channelId) (.text key)) ∧
    (∀ others channelId thingId, answer others channelId = .ok thingId ↔
      first.Holds thingId key ∧ (first.run others).Joins channelId thingId) ∧
    (∀ others channelId thingId, answer others channelId = .ok thingId →
      isAtomic others channelId thingId ∨
      ∃ earlier step later, others = earlier ++ step :: later ∧
        (∃ moment ∈ first.trace earlier, moment.revokesKey key = true) ∧
        (∃ owner, step.operation = .connect owner (.text channelId) (.text thingId)) ∧
        ¬ (first.run earlier).Holds thingId key ∧ ¬ (first.run earlier).Joins channelId thingId) ∧
    ∀ owner channelId thingId newKey, first.Holds thingId key →
      thingTable.owns first (.text owner) thingId = true →
      channelTable.owns first (.text owner) channelId = true →
      ¬ first.Joins channelId thingId → (Cell.text newKey).length ≤ maxKeyLength →
      (∀ row ∈ first.things, row.key ≠ .text newKey) →
      let others := rekeyedThenConnected owner channelId thingId newKey
      answer others channelId = .ok thingId ∧ ¬ isAtomic others channelId thingId := by
  intro first answer isAtomic
  have hIdentified : first.Identified := (Identified.empty supply).run steps
  have hKeyed : first.Keyed := (Keyed.empty supply).run (Identified.empty supply) steps
  refine ⟨fun _ => rfl, fun _ _ _ => authorizedAcross_eq_ok_iff hKeyed, ?_, ?_⟩
  · intro others channelId thingId hAccepted
    obtain ⟨hHolds, hJoins⟩ := (authorizedAcross_eq_ok_iff hKeyed).mp hAccepted
    exact held_while_joined_or_revoked hHolds hJoins
  · intro owner channelId thingId newKey hHolds hThing hChannel hApart hShort hUnused others
    obtain ⟨hAccepted, hNever⟩ :=
      accepted_after_revocation hThing hShort hUnused hIdentified hKeyed hHolds hChannel hApart
    refine ⟨hAccepted, ?_⟩
    rintro ⟨earlier, later, hSplit, hBoth⟩
    exact hNever earlier later hSplit hBoth

/-- An owner has a channel and a thing with a key, and they are not connected. -/
def unconnected : List Step :=
  [⟨.saveChannel [(.text "id", .text "00000000-0000-0000-0000-0000000000c1"),
    (.text "owner", .text "ada")], none⟩,
      ⟨.saveThing [(.text "id", .text "00000000-0000-0000-0000-0000000000d1"),
        (.text "owner", .text "ada"),
      (.text "key", .text "k")], none⟩]

theorem separate_reads_exact_raced :
    let first := empty.run unconnected
    let channelId := "00000000-0000-0000-0000-0000000000c1"
    let thingId := "00000000-0000-0000-0000-0000000000d1"
    let others := rekeyedThenConnected "ada" channelId thingId "n"
    first.authorizedAcross (first.run others) (.text channelId) (.text "k") = .ok thingId ∧
      (∃ moment ∈ first.trace others, moment.revokesKey "k" = true) ∧
      ¬ ∃ earlier later, others = earlier ++ later ∧ (first.run earlier).Holds thingId "k" ∧
        (first.run earlier).Joins channelId thingId := by
  intro first channelId thingId others
  have hHolds : first.Holds thingId "k" := ⟨_, List.mem_singleton.mpr rfl, rfl, rfl⟩
  have hApart : ¬ first.Joins channelId thingId :=
    fun hJoins => Bool.false_ne_true (joins_iff.mp hJoins)
  have hUnused : ∀ row ∈ first.things, row.key ≠ .text "n" := by decide
  obtain ⟨hAccepted, hNever⟩ :=
    (separate_reads_exact .counting unconnected "k").2.2.2 "ada" channelId thingId "n" hHolds
    (by decide) (by decide) hApart (by decide) hUnused
  exact ⟨hAccepted, ⟨_, List.mem_cons_self, rfl⟩, hNever⟩

end Store

end DeviceRegistry
