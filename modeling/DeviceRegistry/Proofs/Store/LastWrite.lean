import DeviceRegistry.Proofs.Store.Documented
import DeviceRegistry.Proofs.Store.WriteSteps

/-! Writes are read back. What an owner reads of a thing or of a channel after a run follows from
the owner's own successful writes to it, whatever else happened in between. -/
namespace DeviceRegistry

namespace EntityTable

variable {Row Entity κ : Type} {table : EntityTable Row Entity}
  {holdsKey : Row → κ → Prop} {store : Store} {owner id : String}

/-- What a row shows can be read. -/
theorem Shows.load {row : Row} {entry : Content × κ} (hShows : table.Shows holdsKey row entry) :
    ∃ text read, Metadata.encode (.map entry.1.metadata) = .ok text ∧
    Metadata.decode (.text text) = .ok read ∧
      table.load row = .ok (row, read) := by
  obtain ⟨-, -, text, hText, hMetadata⟩ := hShows
  have hRead := Metadata.decode_encode hText
  refine ⟨text, _, hText, hRead, ?_⟩
  rw [EntityTable.load, hMetadata, Cell.toValue, hRead]
  rfl

/-- The row of an entity follows the history of the entity through a plain run, if it does in
each step. -/
theorem follows_run {saved : Moment → Option (Content × κ)} {removes : Moment → Bool}
    {updated : Moment → Option Content} {rekeyed : Moment → Option κ} {supply : Identifier.Supply}
    (hEmpty : table.rows (.empty supply) = [])
    (hStep : ∀ {store : Store} {step : Step}, step.isPlain = true →
      ∀ {entry : Option (Content × κ)}, table.Follows holdsKey store owner id entry →
        table.Follows holdsKey (store.perform step).store owner id
          (rewritten (saved ⟨store, step⟩) (removes ⟨store, step⟩) (updated ⟨store, step⟩)
            (rekeyed ⟨store, step⟩)
            entry))
    {steps : List Step} (hPlain : steps.all Step.isPlain = true) :
    table.Follows holdsKey ((Store.empty supply).run steps) owner id
      (written saved removes updated rekeyed ((Store.empty supply).trace steps)) := by
  induction steps using List.reverseRecOn with
  | nil =>
      change Option.Rel _ ((table.rows (.empty supply)).find? _) none
      rw [hEmpty]
      exact .none
  | append_singleton steps step ih =>
      obtain ⟨hBefore, hLast⟩ := Step.isPlain_concat hPlain
      rw [Store.run_concat, Store.trace_concat, written_concat]
      exact hStep hLast (ih hBefore)

/-- The row that is found is stored under the owner and the identifier. -/
theorem row?_eq_some {row : Row} (hRow : table.row? store owner id = some row) :
    row ∈ table.rows store ∧ table.owner row = owner ∧ table.id row = id := by
  have hIdentity := List.find?_some hRow
  rw [decide_eq_true_eq, identity_eq_iff] at hIdentity
  exact ⟨List.mem_of_find?_eq_some hRow, hIdentity⟩

/-- The entity of an owner is read from its row. What is no identifier is not looked up, and has
no row. -/
theorem entity_text (hIdentifies : table.Identifies (table.rows store)) (owner id : String) :
    table.entity store (.text owner) (.text id) =
      (table.row? store owner id).elim (.error (.absent (.entity table.kind))) table.shown := by
  have hCells : Cell.ofValues (.text id :: (Value.text owner).comparisonParameters) =
      .ok [.text id, .text owner] := rfl
  rw [entity, row?, ← isOf_text]
  cases hValid : Identifier.isValid id with
  | true =>
      simp only [Bool.not_true, Bool.false_eq_true, ↓reduceIte, hCells]
      cases (table.rows store).find? (table.isOf (.text owner) (.text id)) <;> rfl
  | false =>
      have hNone : table.row? store owner id = none := by
        cases hRow : table.row? store owner id with
        | none => rfl
        | some row =>
            obtain ⟨hMem, -, rfl⟩ := row?_eq_some hRow
            rw [hIdentifies.valid (table.id row) (List.mem_map_of_mem hMem)] at hValid
            cases hValid
      rw [row?, ← isOf_text] at hNone
      rw [hNone]
      rfl

/-- An entity is read as it is written, and one of which nothing is written is absent. -/
theorem Follows.entity (hIdentifies : table.Identifies (table.rows store))
    {entry : Option (Content × κ)} (hFollows : table.Follows holdsKey store owner id entry)
    (built : Content → κ → Mapping → Entity)
    (hBuilt : ∀ row content key read, table.id row = id → table.owner row = owner →
      table.name row = content.name → holdsKey row key →
      table.toEntity (row, read) = .ok (built content key read)) :
    match entry with
    | none => table.entity store (.text owner) (.text id) = .error (.absent (.entity table.kind))
    | some (content, key) => ∃ text read, Metadata.encode (.map content.metadata) = .ok text ∧
        Metadata.decode (.text text) = .ok read ∧
        table.entity store (.text owner) (.text id) = .ok (built content key read) := by
  rw [entity_text hIdentifies]
  rw [Follows] at hFollows
  cases hRow : table.row? store owner id with
  | none =>
      rw [hRow] at hFollows
      cases hFollows
      rfl
  | some row =>
      rw [hRow] at hFollows
      obtain ⟨-, hOwner, hId⟩ := row?_eq_some hRow
      cases hFollows with
      | @some _ entry hShows =>
          obtain ⟨text, read, hText, hRead, hLoad⟩ := hShows.load
          refine ⟨text, read, hText, hRead, ?_⟩
          change (table.load row >>= table.toEntity) = _
          rw [hLoad]
          exact hBuilt row entry.1 entry.2 read hId hOwner hShows.1 hShows.2.1

end EntityTable

namespace Store

/-- The writes of an owner are read back after every plain run. A thing or a channel that the owner
did not save successfully, or removed since, is absent. Otherwise it has the name and the metadata
of the owner's last successful update since the last successful save, or else of that save, and a
thing has the key that it was last given in the same way. Metadata comes back as what its stored
text denotes. -/
theorem writes_read_back (supply : Identifier.Supply) (steps : List Step)
    (hPlain : steps.all Step.isPlain = true) (owner id : String) :
    let store := (empty supply).run steps
    (match thingWritten owner id ((empty supply).trace steps) with
      | none => store.thing (.text owner) (.text id) = .error (.absent (.entity .thing))
      | some (content, key) => ∃ text read, Metadata.encode (.map content.metadata) = .ok text ∧
          Metadata.decode (.text text) = .ok read ∧
          store.thing (.text owner) (.text id) = .ok ⟨id, owner, content.name, key, read⟩) ∧
      match channelWritten owner id ((empty supply).trace steps) with
      | none => store.channel (.text owner) (.text id) = .error (.absent (.entity .channel))
      | some (content, _) => ∃ text read, Metadata.encode (.map content.metadata) = .ok text ∧
          Metadata.decode (.text text) = .ok read ∧
          store.channel (.text owner) (.text id) = .ok ⟨id, owner, content.name, read⟩ := by
  intro store
  have hIdentified : store.Identified := (Identified.empty supply).run steps
  have hThing : thingTable.Follows ThingRow.HoldsKey store owner id
      (thingWritten owner id ((empty supply).trace steps)) :=
        EntityTable.follows_run rfl follows_thing hPlain
  have hChannel : channelTable.Follows ChannelRow.HoldsKey store owner id
      (channelWritten owner id ((empty supply).trace steps)) :=
    EntityTable.follows_run rfl follows_channel hPlain
  constructor
  · have hRead :=
      hThing.entity hIdentified.things
        (fun content key read => ⟨id, owner, content.name, key, read⟩) (by
      rintro row content key read rfl rfl hName hKey
      exact hName ▸ ThingRow.toThing_text hKey read)
    generalize thingWritten owner id _ = entry at hRead ⊢
    cases entry with
    | none => exact hRead
    | some entry => exact hRead
  · have hRead :=
      hChannel.entity hIdentified.channels
        (fun content _ read => ⟨id, owner, content.name, read⟩) (by
      rintro row content _ read rfl rfl hName -
      exact hName ▸ rfl)
    generalize channelWritten owner id _ = entry at hRead ⊢
    cases entry with
    | none => exact hRead
    | some entry => exact hRead

/-- A thing is saved, updated by its owner under another key, given a new key, and updated by
someone else. -/
def relabelled : List Step :=
  let thingId := Value.text "00000000-0000-0000-0000-0000000000d1"
  let thing (owner name key : String) : Mapping :=
    [(.text "id", thingId), (.text "owner", .text owner), (.text "name", .text name),
      (.text "key", .text key),
      (.text "metadata", .map [(.text "place", .tuple [.int 2, .text name])])]
  [⟨.saveThing (thing "ada" "lamp" "first"), none⟩,
    ⟨.updateThing (thing "ada" "desk lamp" "second"), none⟩,
    ⟨.updateKey (.text "ada") thingId (.text "third"), none⟩,
    ⟨.updateThing (thing "bob" "mine" "fourth"), none⟩]

theorem writes_read_back_relabelled :
    relabelled.all Step.isPlain = true ∧
    let store := empty.run relabelled
    let id := "00000000-0000-0000-0000-0000000000d1"
    let metadata : Mapping := [(.text "place", .tuple [.int 2, .text "desk lamp"])]
    (∃ text read, Metadata.encode (.map metadata) = .ok text ∧
      Metadata.decode (.text text) = .ok read ∧
      store.thing (.text "ada") (.text id) = .ok ⟨id, "ada", "desk lamp", "third", read⟩) ∧
    store.thing (.text "bob") (.text id) = .error (.absent (.entity .thing)) := by
  have hPlain : relabelled.all Step.isPlain = true := by decide
  have hAda :=
    (writes_read_back .counting relabelled hPlain "ada" "00000000-0000-0000-0000-0000000000d1").1
  have hBob :=
    (writes_read_back .counting relabelled hPlain "bob" "00000000-0000-0000-0000-0000000000d1").1
  exact ⟨hPlain, hAda, hBob⟩

end Store

end DeviceRegistry
