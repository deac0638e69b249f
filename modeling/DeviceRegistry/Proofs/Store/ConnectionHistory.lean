import DeviceRegistry.Proofs.Store.Connect
import Mathlib.Data.List.Induction

/-! Which connections a run leaves. A pair is connected at the end exactly when an owner of
both ends connected it at some moment and has since neither disconnected it nor removed one
of its ends. -/
namespace DeviceRegistry

/-- The operation connects a channel and a thing in the name of an owner. -/
def Operation.connects (owner channelId thingId : String) : Operation → Bool
  | .connect (.text o) (.text c) (.text t) => o = owner && c = channelId && t = thingId
  | _ => false

/-- The operation ends the connection of an owner's channel and thing, if there is one. -/
def Operation.disconnects (owner channelId thingId : String) : Operation → Bool
  | .disconnect (.text o) (.text c) (.text t) => o = owner && c = channelId && t = thingId
  | .removeChannel (.text o) (.text c) => o = owner && c = channelId
  | .removeThing (.text o) (.text t) => o = owner && t = thingId
  | _ => false

def Operation.keepsConnections : Operation → Bool
  | .connect .. | .disconnect .. | .removeChannel .. | .removeThing .. => false
  | _ => true

/-- A pair is connected in the name of an owner who has both ends at that moment. -/
def Moment.connects (owner channelId thingId : String) (moment : Moment) : Bool :=
  moment.step.operation.connects owner channelId thingId &&
    channelTable.owns moment.tables (.text owner) channelId &&
      thingTable.owns moment.tables (.text owner) thingId

section Lasting

variable {α : Type}

/-- Something began at a place of the history, and nothing ended it after that place. -/
def Lasts (begins ends : α → Bool) (history : List α) : Prop :=
  ∃ earlier start later, history = earlier ++ start :: later ∧ begins start = true ∧
    ∀ moment ∈ later, ends moment = false

/-- Nothing lasts in an empty history. -/
theorem not_lasts_nil (begins ends : α → Bool) : ¬ Lasts begins ends [] := by
  rintro ⟨earlier, start, later, hSplit, _⟩
  simp at hSplit

theorem exists_begins_of_lasts {begins ends : α → Bool} {history : List α}
    (hLasts : Lasts begins ends history) :
    ∃ moment ∈ history, begins moment = true := by
  obtain ⟨earlier, start, later, rfl, hBegins, -⟩ := hLasts
  exact ⟨start, List.mem_append_right earlier List.mem_cons_self, hBegins⟩

/-- What lasts to the end of a longer history begins last or lasted before and does not end last. -/
theorem lasts_concat (begins ends : α → Bool) (history : List α) (last : α) :
    Lasts begins ends (history ++ [last]) ↔
      begins last = true ∨ (Lasts begins ends history ∧ ends last = false) := by
  constructor
  · rintro ⟨earlier, start, later, hSplit, hBegins, hLasts⟩
    rcases List.eq_nil_or_concat later with rfl | ⟨before, final, rfl⟩
    · obtain ⟨-, hLast⟩ := List.append_inj' hSplit rfl
      cases hLast
      exact Or.inl hBegins
    · rw [List.concat_eq_append, ← List.cons_append, ← List.append_assoc] at hSplit
      obtain ⟨hHistory, hLast⟩ := List.append_inj' hSplit rfl
      cases hLast
      refine Or.inr ⟨⟨earlier, start, before, hHistory, hBegins, ?_⟩, hLasts _ (by simp)⟩
      exact fun moment hMoment => hLasts moment (by simp [hMoment])
  · rintro (hBegins | ⟨⟨earlier, start, later, rfl, hBegins, hLasts⟩, hEnds⟩)
    · exact ⟨history, last, [], rfl, hBegins, by simp⟩
    · refine ⟨earlier, start, later ++ [last], by simp, hBegins, ?_⟩
      intro moment hMoment
      rcases List.mem_append.mp hMoment with hLater | hLast
      · exact hLasts moment hLater
      · rw [List.mem_singleton.mp hLast]
        exact hEnds

end Lasting

namespace Store

variable {store : Store}

/-- After a call to connect, the connections of an owner are those of before and the called one, if
the owner has both of its ends. -/
theorem mem_connections_connect (hLinked : store.Linked) (hIdentified : store.Identified)
    (caller owner channel channelId thing thingId : String) :
    ⟨channelId, owner, thingId, owner⟩ ∈
        (store.connect (.text caller) (.text channel) (.text thing) none).store.connections ↔
      ((caller = owner ∧ channel = channelId ∧ thing = thingId) ∧
        channelTable.owns store (.text owner) channelId = true ∧
        thingTable.owns store (.text owner) thingId = true) ∨
      ⟨channelId, owner, thingId, owner⟩ ∈ store.connections := by
  rw [connect_text]
  split
  · rename_i hInvalid
    refine ⟨Or.inr, ?_⟩
    rintro (⟨⟨rfl, rfl, rfl⟩, hChannel, hThing⟩ | hMem)
    · simp [hIdentified.channels.isValid_of_owns hChannel,
        hIdentified.things.isValid_of_owns hThing] at hInvalid
    · exact hMem
  · split
    · rename_i hJoined
      refine ⟨Or.inr, ?_⟩
      rintro (⟨⟨rfl, rfl, rfl⟩, hChannel, hThing⟩ | hMem)
      · exact mem_connections_of_joined hLinked hIdentified hJoined hChannel
      · exact hMem
    · split
      · rename_i hEnds
        rw [Bool.and_eq_true] at hEnds
        simp only [List.mem_append, List.mem_singleton, ConnectionRow.mk.injEq]
        constructor
        · rintro (hMem | ⟨rfl, rfl, rfl, -⟩)
          · exact Or.inr hMem
          · exact Or.inl ⟨⟨rfl, rfl, rfl⟩, hEnds⟩
        · rintro (⟨⟨rfl, rfl, rfl⟩, -⟩ | hMem)
          · exact Or.inr ⟨rfl, rfl, rfl, rfl⟩
          · exact Or.inl hMem
      · rename_i hEnds
        refine ⟨Or.inr, ?_⟩
        rintro (⟨⟨rfl, rfl, rfl⟩, hOwns⟩ | hMem)
        · exact absurd (Bool.and_eq_true_iff.mpr hOwns) hEnds
        · exact hMem

/-- A call to disconnect leaves the connections of an owner but the called one. -/
theorem mem_connections_disconnect (caller owner channel channelId thing thingId : String) :
    ⟨channelId, owner, thingId, owner⟩ ∈
        (store.disconnect (.text caller) (.text channel) (.text thing) none).store.connections ↔
      ⟨channelId, owner, thingId, owner⟩ ∈ store.connections ∧
        ¬ (caller = owner ∧ channel = channelId ∧ thing = thingId) := by
  have hEnds :
      (ConnectionRow.joins (.text channel) (.text thing) ⟨channelId, owner, thingId, owner⟩ &&
      ConnectionRow.isOf (.text caller) ⟨channelId, owner, thingId, owner⟩) = true ↔
      caller = owner ∧ channel = channelId ∧ thing = thingId := by
    rw [ConnectionRow.ends_iff, ConnectionRow.mk.injEq]
    grind
  rw [disconnect_text, List.mem_filter, Bool.not_eq_true', ← Bool.not_eq_true, hEnds]

/-- An operation that neither makes nor ends connections leaves all of them. -/
theorem connections_perform (store : Store) (step : Step)
    (hKeeps : step.operation.keepsConnections = true) :
    (store.perform step).store.connections = store.connections := by
  have hEffect := store.perform_effect step
  generalize step.operation = operation at hEffect hKeeps
  generalize (store.perform step).store = after, (store.perform step).answer = answer at hEffect
  cases hEffect with
  | thingRemoved owner id => cases hKeeps
  | channelRemoved owner id => cases hKeeps
  | connected hOwner hNew hChannel hThing => cases hKeeps
  | disconnected hJoined => cases hKeeps
  | _ => rfl

/-- One plain step makes the connection of an owner or keeps it, and it keeps every connection that
it does not end in the owner's name. -/
theorem mem_connections_perform (hLinked : store.Linked)
    (hIdentified : store.Identified) {step : Step} (hPlain : step.isPlain = true)
    (owner channelId thingId : String) :
    ⟨channelId, owner, thingId, owner⟩ ∈ (store.perform step).store.connections ↔
      Moment.connects owner channelId thingId ⟨store, step⟩ = true ∨
        (⟨channelId, owner, thingId, owner⟩ ∈ store.connections ∧
          step.operation.disconnects owner channelId thingId = false) := by
  obtain ⟨operation, rfl, hTexts⟩ := Step.eq_of_isPlain hPlain
  cases operation with
  | connect caller channel thing =>
      obtain ⟨caller, channel, thing, rfl, rfl, rfl⟩ := Value.eq_texts_of_and_and hTexts
      refine (mem_connections_connect hLinked hIdentified caller owner channel channelId thing
        thingId).trans ?_
      simp [Moment.connects, Operation.connects, Operation.disconnects, and_assoc]
  | disconnect caller channel thing =>
      obtain ⟨caller, channel, thing, rfl, rfl, rfl⟩ := Value.eq_texts_of_and_and hTexts
      refine (mem_connections_disconnect caller owner channel channelId thing thingId).trans ?_
      simp [Moment.connects, Operation.connects, Operation.disconnects]
  | removeThing caller thing =>
      obtain ⟨caller, thing, rfl, rfl⟩ := Value.eq_texts_of_and hTexts
      change _ ∈ (thingTable.without store (.text caller) (.text thing)).connections ↔ _
      simp [EntityTable.without, thingTable, Moment.connects, Operation.connects,
        Operation.disconnects, imp_iff_not_or]
  | removeChannel caller channel =>
      obtain ⟨caller, channel, rfl, rfl⟩ := Value.eq_texts_of_and hTexts
      change _ ∈ (channelTable.without store (.text caller) (.text channel)).connections ↔ _
      simp [EntityTable.without, channelTable, Moment.connects, Operation.connects,
        Operation.disconnects, imp_iff_not_or]
  | _ =>
      rw [connections_perform]
      · simp [Moment.connects, Operation.connects, Operation.disconnects]
      · rfl

/-- The connections that a plain run leaves to an owner are those that last in its record. -/
theorem mem_connections_run {supply : Identifier.Supply} {steps : List Step}
    (hPlain : steps.all Step.isPlain = true) (owner channelId thingId : String) :
    ⟨channelId, owner, thingId, owner⟩ ∈ ((empty supply).run steps).connections ↔
      Lasts (Moment.connects owner channelId thingId)
        (fun moment => moment.step.operation.disconnects owner channelId thingId)
        ((empty supply).trace steps) := by
  induction steps using List.reverseRecOn with
  | nil => simp [empty, trace, not_lasts_nil]
  | append_singleton steps step ih =>
      obtain ⟨hBefore, hStep⟩ := Step.isPlain_concat hPlain
      rw [run_concat, trace_concat, lasts_concat,
        mem_connections_perform ((Linked.empty supply).run steps)
          ((Identified.empty supply).run steps) hStep, ih hBefore]

/-- Connection history is exact. After a plain run a channel and a thing are connected, and the
thing may publish on the channel, exactly when some owner connected them at a moment of the run at
which the owner had both, and no later step of the run disconnected them or removed one of them in
the name of that owner. -/
theorem connected_iff_lasts (supply : Identifier.Supply) (steps : List Step)
    (hPlain : steps.all Step.isPlain = true) (channelId thingId : String) :
    let store := (empty supply).run steps
    let history := ∃ owner, Lasts (Moment.connects owner channelId thingId)
      (fun moment => moment.step.operation.disconnects owner channelId thingId)
      ((empty supply).trace steps)
    (store.connected (.text channelId) (.text thingId) = .ok true ↔ history) ∧
      (store.authorize (.text channelId) (.text thingId) = .ok () ↔ history) := by
  intro store history
  have hJoined : store.connections.any (ConnectionRow.joins (.text channelId) (.text thingId)) =
      true ↔
      history := by
    rw [joined_iff ((Linked.empty supply).run steps)]
    exact exists_congr fun owner => mem_connections_run hPlain owner channelId thingId
  have hConnected : store.connected (.text channelId) (.text thingId) =
      .ok (store.connections.any (ConnectionRow.joins (.text channelId) (.text thingId))) := rfl
  constructor
  · rw [hConnected, Except.ok.injEq, hJoined]
  · rw [← hJoined, authorize, hConnected]
    cases store.connections.any (ConnectionRow.joins (.text channelId) (.text thingId)) with
    | true => exact iff_of_true rfl rfl
    | false => exact iff_of_false (fun hOk => nomatch hOk) (fun hTrue => nomatch hTrue)

/-- A channel and a thing are connected, the thing is removed and saved again under its identifier,
and only then another owner disconnects them. -/
def removedAndSavedAgain : List Step :=
  let channelId := Value.text "00000000-0000-0000-0000-0000000000c1"
  let thingId := Value.text "00000000-0000-0000-0000-0000000000d1"
  let channel : Mapping := [(.text "id", channelId), (.text "owner", .text "ada")]
  let thing : Mapping :=
    [(.text "id", thingId), (.text "owner", .text "ada"), (.text "key", .text "k")]
  [⟨.saveChannel channel, none⟩, ⟨.saveThing thing, none⟩,
    ⟨.connect (.text "ada") channelId thingId, none⟩, ⟨.removeThing (.text "ada") thingId, none⟩,
    ⟨.saveThing thing, none⟩, ⟨.disconnect (.text "bob") channelId thingId, none⟩]

theorem connected_iff_lasts_removed :
    removedAndSavedAgain.all Step.isPlain = true ∧
    let store := empty.run removedAndSavedAgain
    let channelId := "00000000-0000-0000-0000-0000000000c1"
    let thingId := "00000000-0000-0000-0000-0000000000d1"
    let history := ∃ owner, Lasts (Moment.connects owner channelId thingId)
      (fun moment => moment.step.operation.disconnects owner channelId thingId)
      (empty.trace removedAndSavedAgain)
    (store.connected (.text channelId) (.text thingId) = .ok true ↔ history) ∧
      (store.authorize (.text channelId) (.text thingId) = .ok () ↔ history) :=
  ⟨by decide, connected_iff_lasts .counting removedAndSavedAgain (by decide) _ _⟩

end Store

end DeviceRegistry
