import DeviceRegistry.Proofs.Store.Batch

/-! Operations that fail leave the tables as they were, wherever they fail: at a check before the
write, at a rule of the tables, at one message among many, or at an error that the storage engine
reports in place of the write. The tables are also all that reading looks at, so that nothing that
is read later tells of an operation that failed. -/
namespace DeviceRegistry

/-- The two hold the same rows in each of the four tables. The identifiers still to be
drawn may differ. -/
structure Store.SameTables (first second : Store) : Prop where
  things : first.things = second.things
  channels : first.channels = second.channels
  connections : first.connections = second.connections
  messages : first.messages = second.messages

namespace Effect

variable {store after : Store} {operation : Operation} {answer : Except Failure Answer}

/-- Of the ways of changing the tables none is answered with a failure. -/
theorem sameTables_of_error {failure : Failure}
    (hEffect : Effect store operation after (.error failure)) :
    after.SameTables store := by
  cases hEffect with
  | read hReading => exact ⟨rfl, rfl, rfl, rfl⟩
  | refused drawn failure => exact ⟨rfl, rfl, rfl, rfl⟩

/-- None of the ways of changing the tables is one of reading. -/
theorem sameTables_of_reading (hEffect : Effect store operation after answer)
    (hReading : operation.isReading = true) : after.SameTables store := by
  cases hEffect with
  | read _ => exact ⟨rfl, rfl, rfl, rfl⟩
  | refused drawn failure => exact ⟨rfl, rfl, rfl, rfl⟩
  | alreadyConnected owner channelId thingId => exact ⟨rfl, rfl, rfl, rfl⟩
  | _ => cases hReading

end Effect

namespace Store

/-- Reading looks at nothing but the tables. -/
theorem SameTables.answer_eq {first second : Store} (hSame : first.SameTables second)
    {reading : Step} (hReading : reading.operation.isReading = true) :
    (first.perform reading).answer = (second.perform reading).answer := by
  obtain ⟨things, channels, connections, messages, drawn⟩ := first
  obtain ⟨rfl, rfl, rfl, rfl⟩ := hSame
  obtain ⟨operation, injected⟩ := reading
  cases operation with
  | readMessages channelId window query =>
      simp only [perform, readMessages, Outcome.answering]
      cases Filter.Query.conditions query <;> rfl
  | saveThing _ | updateThing _ | updateKey _ _ _ | removeThing _ _ | saveChannel _
  | updateChannel _
  | removeChannel _ _ | connect _ _ _ | disconnect _ _ _ | saveMessages _ => cases hReading
  | _ => rfl

/-- Failures leave the tables alone. Whatever an operation fails at, all four tables are as before,
and every later reading answers as it would have without that operation. A batch of messages fails
as a whole at any message of it, and reading leaves the tables alone even where it succeeds. -/
theorem failures_leave_tables (store : Store) (step : Step) :
    let after := (store.perform step).store
    (∀ failure, (store.perform step).answer = .error failure →
      after.SameTables store ∧ ∀ reading : Step, reading.operation.isReading = true →
        (after.perform reading).answer = (store.perform reading).answer) ∧
    (∀ batch, step.operation = .saveMessages batch →
      (∃ fields ∈ batch, Message.IsUnstorable fields) →
      ∃ failure, (store.perform step).answer = .error failure) ∧
    (step.operation.isReading = true → after.SameTables store) := by
  intro after
  have hEffect := store.perform_effect step
  refine ⟨fun failure hFailed => ?_, ?_, hEffect.sameTables_of_reading⟩
  · rw [hFailed] at hEffect
    exact ⟨hEffect.sameTables_of_error, fun reading => hEffect.sameTables_of_error.answer_eq⟩
  · obtain ⟨operation, injected⟩ := step
    rintro batch rfl ⟨fields, hFields, hUnstorable⟩
    exact store.exists_failure_of_isUnstorable hFields hUnstorable injected

/-- Two things with keys of their own, the first of them connected. -/
def contested : List Step :=
  let channelId := Value.text "00000000-0000-0000-0000-0000000000c1"
  let thingId (n : String) := Value.text ("00000000-0000-0000-0000-0000000000d" ++ n)
  let thing (n : String) : Mapping :=
    [(.text "id", thingId n), (.text "owner", .text "ada"), (.text "key", .text n)]
  [⟨.saveChannel [(.text "id", channelId), (.text "owner", .text "ada")], none⟩,
    ⟨.saveThing (thing "1"), none⟩, ⟨.saveThing (thing "2"), none⟩,
    ⟨.connect (.text "ada") channelId (thingId "1"), none⟩]

theorem failures_leave_tables_contested :
    let store := empty.run contested
    let message (time : Binary64) : Mapping :=
      [(.text "channel", .text "c"), (.text "publisher", .text "p"),
        (.text "protocol", .text "mqtt"), (.text "time", .real time)]
    let rekeyed : Step :=
      ⟨.updateKey (.text "ada") (.text "00000000-0000-0000-0000-0000000000d1") (.text "2"), none⟩
    let batch : Step := ⟨.saveMessages [message .zero, message .nan], none⟩
    (store.perform rekeyed).answer = .error (.conflict .thing) ∧
    (store.perform rekeyed).store.SameTables store ∧ (store.perform batch).store.SameTables store ∧
    (store.perform ⟨.hasThing (.text "00000000-0000-0000-0000-0000000000c1") (.text "1"),
      none⟩).store.SameTables
      store := by
  intro store message rekeyed batch
  have hConflict : (store.perform rekeyed).answer = .error (.conflict .thing) := rfl
  have hUnstorable : Message.IsUnstorable (message .nan) := by
    intro found hFound
    cases hFound
    rfl
  obtain ⟨failure, hFailed⟩ := (failures_leave_tables store batch).2.1 _ rfl
    ⟨message .nan, List.mem_cons_of_mem _ List.mem_cons_self, hUnstorable⟩
  exact ⟨hConflict, ((failures_leave_tables store rekeyed).1 _ hConflict).1,
    ((failures_leave_tables store batch).1 failure hFailed).1,
    (failures_leave_tables store _).2.2 rfl⟩

end Store

end DeviceRegistry
