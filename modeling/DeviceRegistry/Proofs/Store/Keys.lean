import DeviceRegistry.Proofs.Store.Done

/-! Keys of things. No two things that are stored have one key, so that a key stands for one thing
at a time. A thing comes by its key only through a save or a change of its key, and loses it only
through another key or its removal. -/
namespace DeviceRegistry

theorem Value.equalsCell_text_iff (text : String) {cell : Cell} :
    (Value.text text).equalsCell cell = true ↔ cell = .text text := by
  simp [equalsCell, toColumnCell, toCell, Cell.inTextColumn]
  grind

/-- A value equals a text exactly if it is compared as that text. -/
theorem Value.equalsText_iff {value : Value} {text : String} :
    value.equalsText text = true ↔ value.toColumnCell = .text text := by
  simp [equalsText, equalsCell]

/-- What a thing is called and how it proves itself. -/
def ThingRow.credential (row : ThingRow) : String × Cell := (row.id, row.key)

namespace EntityTable

/-- Rows that are of one owner and identifier have that identifier. -/
theorem id_eq_of_isOf {Row Entity : Type} (table : EntityTable Row Entity) {owner id : Value}
    {first second : Row} (hFirst : table.isOf owner id first = true)
    (hSecond : table.isOf owner id second = true) :
    table.id first = table.id second := by
  rw [isOf, Bool.and_eq_true] at hFirst hSecond
  have hFirstId := Value.equalsText_iff.mp hFirst.2
  have hSecondId := Value.equalsText_iff.mp hSecond.2
  exact Cell.text.inj (hFirstId.symm.trans hSecondId)

/-- A new thing has a key of its own. -/
theorem Accepts.key_ne {store : Store} {thing : Thing} {text : String}
    (hAccepts : thingTable.Accepts store thing text) :
    ∀ other ∈ store.things, other.key ≠ (thingTable.newRow store thing text).key :=
  (refusal?_eq_none_iff.mp hAccepts.free).2 ⟨"key", ThingRow.key⟩ (.tail _ (.head _))

end EntityTable

namespace Store

/-- The thing of an identifier is stored, and the text is its key. -/
def Holds (store : Store) (thingId key : String) : Prop :=
  ∃ row ∈ store.things, row.id = thingId ∧ row.key = .text key

def Keyed (store : Store) : Prop := (store.things.map ThingRow.key).Nodup

theorem holds_iff {store : Store} {thingId key : String} :
    store.Holds thingId key ↔ (thingId, Cell.text key) ∈ store.things.map ThingRow.credential := by
  simp [Holds, ThingRow.credential]

/-- A key that the tables take is one, is short, and is that of no other thing. -/
theorem keyRefusal?_eq_none_iff {store : Store} {owner id : Value} {key : Cell} :
    store.keyRefusal? owner id key = none ↔
      key ≠ .null ∧ key.length ≤ maxKeyLength ∧
        ∀ row ∈ store.things, thingTable.isOf owner id row = false → row.key ≠ key := by
  unfold keyRefusal?
  grind

namespace Keyed

variable {store after : Store}

theorem empty (supply : Identifier.Supply) : (Store.empty supply).Keyed := List.nodup_nil

/-- Two rows with one key are one row. -/
theorem eq_of_key_eq (hKeyed : store.Keyed) {first second : ThingRow}
    (hFirst : first ∈ store.things) (hSecond : second ∈ store.things)
    (hKey : first.key = second.key) : first = second :=
  List.inj_on_of_nodup_map hKeyed hFirst hSecond hKey

/-- A key has one holder. -/
theorem holder_unique (hKeyed : store.Keyed) {key first second : String}
    (hFirst : store.Holds first key) (hSecond : store.Holds second key) : first = second := by
  obtain ⟨row, hRow, rfl, hKey⟩ := hFirst
  obtain ⟨other, hOther, rfl, hOtherKey⟩ := hSecond
  rw [hKeyed.eq_of_key_eq hRow hOther (hKey.trans hOtherKey.symm)]

/-- A key that the tables take keeps keys apart. Identifiers do not repeat, so that only one thing
gets it. -/
theorem change (hKeyed : store.Keyed) (hIdentified : store.Identified)
    {owner id : Value} {key : Cell} (hFree : store.keyRefusal? owner id key = none) :
    (thingTable.change store owner id fun row => { row with key := key }).Keyed := by
  have hOthers := (keyRefusal?_eq_none_iff.mp hFree).2.2
  change ((store.things.map _).map ThingRow.key).Nodup
  rw [List.map_map]
  refine hIdentified.things.nodup.of_map ThingRow.id |>.map_on ?_
  intro first hFirst second hSecond hKey
  simp only [Function.comp] at hKey
  split at hKey
  · rename_i hFirstOf
    split at hKey
    · rename_i hSecondOf
      exact List.inj_on_of_nodup_map hIdentified.things.nodup hFirst hSecond
        (thingTable.id_eq_of_isOf hFirstOf hSecondOf)
    · rename_i hSecondOf
      exact absurd hKey.symm (hOthers second hSecond (Bool.eq_false_iff.mpr hSecondOf))
  · rename_i hFirstOf
    split at hKey
    · exact absurd hKey (hOthers first hFirst (Bool.eq_false_iff.mpr hFirstOf))
    · exact hKeyed.eq_of_key_eq hFirst hSecond hKey

/-- Every effect keeps keys apart. -/
theorem effect {operation : Operation} {answer : Except Failure Answer}
    (hEffect : Effect store operation after answer) (hIdentified : store.Identified)
    (hKeyed : store.Keyed) :
    after.Keyed := by
  cases hEffect with
  | @thingSaved fields thing text hFields hAccepts =>
      change ((store.things ++ [thingTable.newRow store thing text]).map ThingRow.key).Nodup
      rw [List.map_append, List.map_singleton, List.nodup_append_comm, List.singleton_append,
        List.nodup_cons, List.mem_map]
      refine ⟨?_, hKeyed⟩
      rintro ⟨other, hOther, hKey⟩
      exact hAccepts.key_ne other hOther hKey
  | @thingUpdated fields thing text hFields hUpdates =>
      have hKeys : (thingTable.updated store thing text).things.map ThingRow.key =
          store.things.map ThingRow.key :=
        thingTable.map_updated _ _ _ fun _ _ _ => rfl
      rw [Keyed, hKeys]
      exact hKeyed
  | keyChanged hOwned hFree => exact hKeyed.change hIdentified hFree
  | thingRemoved owner id => exact hKeyed.sublist (List.filter_sublist.map _)
  | _ => exact hKeyed

/-- Runs keep keys apart. -/
theorem run (hKeyed : store.Keyed) (hIdentified : store.Identified) (steps : List Step) :
    (store.run steps).Keyed := by
  have hBoth : (store.run steps).Identified ∧ (store.run steps).Keyed :=
    store.run_preserves
      (fun before _ _ _ hEffect (hHolds : before.Identified ∧ before.Keyed) =>
        ⟨hHolds.1.effect hEffect, hHolds.2.effect hEffect hHolds.1⟩)
      steps ⟨hIdentified, hKeyed⟩
  exact hBoth.2

end Keyed

end Store

namespace Moment

variable {moment : Moment} {thingId key : String}

/-- A save or a change of keys is done, and this is the key that it gives. A key that is not given
to a save is drawn. -/
def givesKey (key : String) (moment : Moment) : Bool :=
  match moment.step.operation, moment.answer with
  | .saveThing fields, .ok _ =>
    match Thing.ofFields fields with
    | .valid thing => ((moment.tables.supply.orDrawn thing.id).2.orDrawn thing.key).1 = key
    | .faulty _ => false
  | .updateKey _ _ newKey, .ok _ => newKey.equalsText key
  | _, _ => false

def servesThing (thingId : String) (moment : Moment) : Bool :=
  match moment.step.operation, moment.answer with
  | .saveThing _, .ok (.identifier stored) => stored = thingId
  | .updateKey _ id _, .ok _ => id.equalsText thingId
  | _, _ => false

/-- The thing that holds the key is given another one, or it is removed. -/
def revokesKey (key : String) (moment : Moment) : Bool :=
  match moment.step.operation, moment.answer with
  | .updateKey owner id newKey, .ok _ =>
    !newKey.equalsText key && moment.tables.things.any fun row => thingTable.isOf owner id row &&
      row.key == .text key
  | .removeThing owner id, .ok _ =>
    moment.tables.things.any fun row => thingTable.isOf owner id row && row.key == .text key
  | _, _ => false

/-- A thing that holds a key after a step was given it by the step or held it before. -/
theorem gives_or_held (moment : Moment) (hHolds : moment.after.Holds thingId key) :
    (moment.givesKey key && moment.servesThing thingId) = true ∨
    moment.tables.Holds thingId key := by
  have hEffect := moment.effect
  rw [Store.holds_iff] at hHolds ⊢
  unfold givesKey servesThing
  generalize moment.step.operation = operation, moment.after = after,
    moment.answer = answer at hEffect hHolds ⊢
  cases hEffect with
  | @thingSaved fields thing text hFields hAccepts =>
      change _ ∈ (moment.tables.things ++ [thingTable.newRow _ thing text]).map
        ThingRow.credential at hHolds
      rw [List.map_append, List.map_singleton, List.mem_append, List.mem_singleton] at hHolds
      rcases hHolds with hOld | hNew
      · exact Or.inr hOld
      · obtain ⟨rfl, hKey⟩ := Prod.mk.inj hNew
        left
        simp only [hFields, Bool.and_eq_true, decide_eq_true_eq, and_true]
        exact (Cell.text.inj hKey).symm
  | @thingUpdated fields thing text hFields hUpdates =>
      have hSame : (thingTable.updated moment.tables thing text).things.map ThingRow.credential =
          moment.tables.things.map ThingRow.credential :=
            thingTable.map_updated _ _ _ fun _ _ _ => rfl
      exact Or.inr (hSame ▸ hHolds)
  | @keyChanged owner id newKey hOwned hFree =>
      obtain ⟨changed, hChanged, hCredential⟩ := List.mem_map.mp hHolds
      obtain ⟨row, hRow, rfl⟩ := List.mem_map.mp hChanged
      by_cases hOf : thingTable.isOf owner id row = true
      · rw [if_pos hOf] at hCredential
        obtain ⟨rfl, hKey⟩ := Prod.mk.inj hCredential
        exact Or.inl
          (Bool.and_eq_true_iff.mpr ⟨Value.equalsText_iff.mpr hKey,
            (Bool.and_eq_true_iff.mp hOf).2⟩)
      · rw [if_neg hOf] at hCredential
        exact Or.inr (List.mem_map.mpr ⟨row, hRow, hCredential⟩)
  | thingRemoved owner id => exact Or.inr ((List.filter_sublist.map _).subset hHolds)
  | _ => exact Or.inr hHolds

/-- A key that a step gives is held afterwards, by a thing that the step is for. -/
theorem exists_holder (hGives : moment.givesKey key = true) :
    ∃ thingId, moment.servesThing thingId = true ∧ moment.after.Holds thingId key := by
  unfold givesKey at hGives
  split at hGives
  · rename_i fields answer hStep hDone
    obtain ⟨thing, text, hFields, -, rfl, hAfter⟩ := thing_saved hStep hDone
    rw [hFields] at hGives
    refine ⟨(thingTable.newRow moment.tables thing text).id, by
      simp [servesThing, hStep, hDone], ?_⟩
    refine ⟨thingTable.newRow moment.tables thing text,
      hAfter ▸ List.mem_append_right _ List.mem_cons_self, rfl, ?_⟩
    exact congrArg Cell.text (of_decide_eq_true hGives)
  · rename_i owner id newKey answer hStep hDone
    obtain ⟨hOwned, -, hAfter⟩ := key_changed hStep hDone
    obtain ⟨row, hRow, hOf⟩ := List.any_eq_true.mp hOwned
    have hId : id.equalsText row.id = true := (Bool.and_eq_true_iff.mp hOf).2
    refine ⟨row.id, by simpa [servesThing, hStep, hDone] using hId, ?_⟩
    rw [hAfter]
    refine ⟨{ row with key := newKey.toColumnCell },
      List.mem_map.mpr ⟨row, hRow, if_pos hOf⟩, rfl, ?_⟩
    exact Value.equalsText_iff.mp hGives
  · cases hGives

/-- A key that a step revokes is held by nothing afterwards. -/
theorem not_holds_of_revokesKey (hKeyed : moment.tables.Keyed)
    (hRevokes : moment.revokesKey key = true) (thingId : String) :
    ¬ moment.after.Holds thingId key := by
  rintro ⟨row, hRow, -, hKey⟩
  unfold revokesKey at hRevokes
  split at hRevokes
  · rename_i owner id newKey answer hStep hDone
    obtain ⟨hOther, hHeld⟩ := Bool.and_eq_true_iff.mp hRevokes
    obtain ⟨holder, hHolder, hHolds⟩ := List.any_eq_true.mp hHeld
    obtain ⟨hOf, hHolderKey⟩ := Bool.and_eq_true_iff.mp hHolds
    rw [(key_changed hStep hDone).2.2] at hRow
    obtain ⟨old, hOld, rfl⟩ := List.mem_map.mp hRow
    by_cases hOldOf : thingTable.isOf owner id old = true
    · rw [if_pos hOldOf] at hKey
      simp [Value.equalsText_iff.mpr hKey] at hOther
    · rw [if_neg hOldOf] at hKey
      have hSame := hKeyed.eq_of_key_eq hOld hHolder (hKey.trans (beq_iff_eq.mp hHolderKey).symm)
      exact hOldOf (hSame ▸ hOf)
  · rename_i owner id answer hStep hDone
    obtain ⟨holder, hHolder, hHolds⟩ := List.any_eq_true.mp hRevokes
    obtain ⟨hOf, hHolderKey⟩ := Bool.and_eq_true_iff.mp hHolds
    rw [thing_removed hStep hDone] at hRow
    obtain ⟨hOld, hKept⟩ := List.mem_filter.mp hRow
    have hSame := hKeyed.eq_of_key_eq hOld hHolder (hKey.trans (beq_iff_eq.mp hHolderKey).symm)
    simp [hSame, hOf] at hKept
  · cases hRevokes

end Moment

end DeviceRegistry
