import DeviceRegistry.Proofs.Store.Batch

/-! The log of messages after runs. Messages are only ever added to it, numbered one after the
other, and none of them has a time that is not a number. -/
namespace DeviceRegistry

def Operation.savesMessages : Operation → Bool
  | .saveMessages _ => true
  | _ => false

namespace Store

/-- An operation that saves no messages leaves the log as it is. -/
theorem messages_perform_of_other (store : Store) (step : Step)
    (hOther : step.operation.savesMessages = false) :
    (store.perform step).store.messages = store.messages := by
  have hEffect := store.perform_effect step
  generalize step.operation = operation at hEffect hOther
  generalize (store.perform step).store = after, (store.perform step).answer = answer at hEffect
  cases hEffect with
  | messagesSaved batch rows => cases hOther
  | _ => rfl

/-- A step adds to the log what is kept of the messages that it saves. -/
theorem messages_perform (store : Store) (step : Step) :
    ∃ kept, List.Forall₂ Message.IsKeptAs (Moment.saved ⟨store, step⟩) kept ∧
      (store.perform step).store.messages = store.messages ++ store.messageRows kept := by
  obtain ⟨operation, injected⟩ := step
  have hSame (hUnsaved : Moment.saved ⟨store, operation, injected⟩ = [])
      (hMessages : (store.perform ⟨operation, injected⟩).store.messages = store.messages) :
      ∃ kept, List.Forall₂ Message.IsKeptAs (Moment.saved ⟨store, operation, injected⟩) kept ∧
        (store.perform ⟨operation, injected⟩).store.messages =
          store.messages ++ store.messageRows kept :=
    ⟨[], by rw [hUnsaved]; exact .nil, by rw [hMessages]; exact (List.append_nil _).symm⟩
  cases operation with
  | saveMessages batch =>
      rcases store.perform_saveMessages batch injected with
        ⟨⟨failure, hFailed⟩, hStore⟩ | ⟨messages, kept, hBatch, hKept, hDone, hAfter⟩
      · exact hSame (Moment.saved_of_error hFailed) (congrArg Store.messages hStore)
      · refine ⟨kept, ?_, congrArg Store.messages hAfter⟩
        rw [Moment.saved, Moment.answer, hDone]
        simp only [hBatch]
        exact hKept
  | _ => exact hSame rfl (store.messages_perform_of_other _ rfl)

/-- The messages of the log are numbered in the order of their arrival, and have times that
are numbers. -/
structure Logged (store : Store) : Prop where
  numbers : store.messages.map MessageRow.number = List.range' 1 store.messages.length
  times : ∀ row ∈ store.messages, row.message.time.isNaN = false

namespace Logged

variable {store : Store}

theorem empty (supply : Identifier.Supply) : (Store.empty supply).Logged where
  numbers := rfl
  times := by simp [Store.empty]

/-- Messages are numbered from the end of the log on. -/
theorem map_number_messageRows (store : Store) (messages : List Message) :
    (store.messageRows messages).map MessageRow.number =
      List.range' (1 + store.messages.length) messages.length := by
  rw [messageRows, List.map_map, Nat.add_comm 1, ← List.zipIdx_map_snd]
  rfl

theorem length_messageRows (store : Store) (messages : List Message) :
    (store.messageRows messages).length = messages.length := by
  rw [messageRows, List.length_map, List.length_zipIdx]

theorem perform (hLogged : store.Logged) (step : Step) : (store.perform step).store.Logged := by
  obtain ⟨kept, hKept, hMessages⟩ := store.messages_perform step
  constructor
  · rw [hMessages, List.map_append, hLogged.numbers, map_number_messageRows, List.length_append,
      length_messageRows, List.range'_append_1]
  · rw [hMessages]
    intro row hRow
    rcases List.mem_append.mp hRow with hOld | hNew
    · exact hLogged.times row hOld
    · obtain ⟨⟨message, number⟩, hMem, rfl⟩ := List.mem_map.mp hNew
      obtain ⟨_, -, hMessage⟩ := exists_mem_of_forall₂ hKept.flip (List.fst_mem_of_mem_zipIdx hMem)
      exact hMessage.isNaN_kept

/-- Runs keep the log in order. -/
theorem run (hLogged : store.Logged) (steps : List Step) : (store.run steps).Logged := by
  induction steps generalizing store with
  | nil => exact hLogged
  | cons step steps ih => exact ih (hLogged.perform step)

end Logged

end Store

end DeviceRegistry
