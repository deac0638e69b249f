import DeviceRegistry.Store.Cell

/-! Which values the storage engine takes. It takes all values of a statement or none of them, so
that values may be looked at in parts. -/
namespace DeviceRegistry.Cell

def AreTaken (values : List Value) : Prop := ∀ value ∈ values, ∃ cell, value.toCell = .ok cell

/-- Values are taken one by one. -/
theorem areTaken_append (first second : List Value) :
    AreTaken (first ++ second) ↔ AreTaken first ∧ AreTaken second := List.forall_mem_append

theorem areTaken_texts (texts : List String) : AreTaken (texts.map .text) := by
  intro value hMem
  obtain ⟨s, -, rfl⟩ := List.mem_map.mp hMem
  exact ⟨.text s, rfl⟩

/-- Values are handed over exactly if each of them is taken. -/
theorem ofValuesFrom_isOk_iff (place : Nat) (values : List Value) :
    (∃ cells, ofValuesFrom place values = .ok cells) ↔ AreTaken values := by
  induction values generalizing place with
  | nil => exact iff_of_true ⟨[], rfl⟩ (by simp [AreTaken])
  | cons value values ih =>
      rw [AreTaken, List.forall_mem_cons, ← AreTaken, ← ih (place + 1), ofValuesFrom]
      cases value.toCell with
      | ok cell => cases ofValuesFrom (place + 1) values <;> simp [Except.map]
      | error fault => cases fault <;> simp

/-- Values that are taken from a part of a statement do not depend on the rest of it. -/
theorem ofValues_isOk_iff (values : List Value) :
    (∃ cells, ofValues values = .ok cells) ↔ AreTaken values :=
  ofValuesFrom_isOk_iff 1 values

end DeviceRegistry.Cell
