import DeviceRegistry.Proofs.Store.Identified
import DeviceRegistry.Proofs.Store.Run

/-! What a write has done when it is answered with success. The answer tells which of the ways of
changing the tables was taken, and with it what the tables hold afterwards. -/
namespace DeviceRegistry

namespace Moment

def after (moment : Moment) : Store := (moment.tables.perform moment.step).store

variable {moment : Moment} {fields : Mapping}

theorem effect (moment : Moment) :
    Effect moment.tables moment.step.operation moment.after moment.answer :=
  moment.tables.perform_effect moment.step

/-- A step that is done had one of the ways of changing the tables that its operation has. -/
theorem effect_done {operation : Operation} {answer : Answer}
    (hStep : moment.step.operation = operation) (hDone : moment.answer = .ok answer) :
    Effect moment.tables operation moment.after (.ok answer) :=
  hStep ▸ hDone ▸ moment.effect

/-- A save that is answered with an identifier has added the row of that identifier. -/
theorem thing_saved {answer : Answer} (hStep : moment.step.operation = .saveThing fields)
    (hDone : moment.answer = .ok answer) :
    ∃ thing text, Thing.ofFields fields = .valid thing ∧
    thingTable.Accepts moment.tables thing text ∧
      answer = .identifier (thingTable.newRow moment.tables thing text).id ∧
      moment.after = thingTable.added moment.tables thing text := by
  have hEffect := effect_done hStep hDone
  generalize moment.after = after at hEffect ⊢
  cases hEffect with
  | read hReading => cases hReading
  | @thingSaved _ thing text hFields hAccepts => exact ⟨thing, text, hFields, hAccepts, rfl, rfl⟩

/-- A change of a key that is done has replaced the key of its own rows, and no other row has
that key. -/
theorem key_changed {owner id key : Value} {answer : Answer}
    (hStep : moment.step.operation = .updateKey owner id key) (hDone : moment.answer = .ok answer) :
    moment.tables.things.any (thingTable.isOf owner id) = true ∧
      moment.tables.keyRefusal? owner id key.toColumnCell = none ∧
      moment.after = thingTable.change moment.tables owner id fun row =>
        { row with key := key.toColumnCell } := by
  have hEffect := effect_done hStep hDone
  generalize moment.after = after at hEffect ⊢
  cases hEffect with
  | read hReading => cases hReading
  | keyChanged hOwned hFree => exact ⟨hOwned, hFree, rfl⟩

/-- A removal that is done has left the other rows. -/
theorem thing_removed {owner id : Value} {answer : Answer}
    (hStep : moment.step.operation = .removeThing owner id) (hDone : moment.answer = .ok answer) :
    moment.after = thingTable.without moment.tables owner id := by
  have hEffect := effect_done hStep hDone
  generalize moment.after = after at hEffect ⊢
  cases hEffect with
  | read hReading => cases hReading
  | thingRemoved owner id => rfl

end Moment

end DeviceRegistry
