import DeviceRegistry.Proofs.Store.Connect
import DeviceRegistry.Proofs.Store.Share

/-! What steps do to the share of an owner. The steps of other owners leave it as it is, and the
owner's own steps do to the tables of all owners what they do to the share, unless an identifier or
a key turns out to be taken. -/
namespace DeviceRegistry

/-- The owner in whose name an operation changes the tables. Fields that describe nothing
change nothing. -/
def Operation.owner? : Operation → Option String
  | .saveThing fields | .updateThing fields =>
    match Thing.ofFields fields with
    | .valid thing => some thing.owner
    | .faulty _ => none
  | .saveChannel fields | .updateChannel fields =>
    match Channel.ofFields fields with
    | .valid channel => some channel.owner
    | .faulty _ => none
  | .updateKey (.text owner) _ _ | .removeThing (.text owner) _ | .removeChannel (.text owner) _
  | .connect (.text owner) _ _ | .disconnect (.text owner) _ _ => some owner
  | _ => none

/-- What is saved has an identifier, and a thing has a key, so that none is drawn for it. -/
def Operation.namesSaved : Operation → Bool
  | .saveThing fields =>
    match Thing.ofFields fields with
    | .valid thing => thing.id ≠ "" && thing.key ≠ ""
    | .faulty _ => true
  | .saveChannel fields =>
    match Channel.ofFields fields with
    | .valid channel => channel.id ≠ ""
    | .faulty _ => true
  | _ => true

def Step.isOf (owner : String) (step : Step) : Bool := step.operation.owner? = some owner

namespace Outcome

variable {α : Type}

def conflicts (outcome : Outcome α) : Bool :=
  match outcome.answer with
  | .error (.conflict _) => true
  | _ => false

@[simp] theorem conflicts_answering (outcome : Outcome α) (answer : α → Answer) :
    (outcome.answering answer).conflicts = outcome.conflicts := by
  obtain ⟨store, content, log⟩ := outcome
  cases content with
  | ok content => rfl
  | error failure => cases failure <;> rfl

/-- A write that would make two rows share what may not be shared is a conflict. -/
theorem conflicts_refused (store : Store) (kind : EntityKind) {error : EngineError}
    (hUnique : error.violation? = some .unique) :
    (refused store kind (.engine error) : Outcome α).conflicts = true := by
  simp [refused, Failure.ofEntityWrite, EngineError.ofEntityWrite, hUnique, conflicts]

end Outcome

def Moment.conflicts (moment : Moment) : Bool := (moment.tables.perform moment.step).conflicts

/-- A table refuses a row for what others have, or it refuses it whatever others have. -/
theorem EntityTable.refusal?_eq_some {Row Entity : Type}
    {table : EntityTable Row Entity} {row : Row} {others : List Row} {error : EngineError}
    (hRefused : table.refusal? row others = some error) :
    error.violation? = some .unique ∨ ∀ rows, table.refusal? row rows = some error := by
  simp only [refusal?] at hRefused ⊢
  cases hLong : table.limits.find? fun limit => limit.2 < (limit.1.content row).length with
  | some limit =>
      rw [hLong] at hRefused
      exact Or.inr fun _ => hRefused
  | none =>
      rw [hLong] at hRefused
      obtain ⟨column, -, rfl⟩ := Option.map_eq_some_iff.mp hRefused
      exact Or.inl (EngineError.violation?_notUnique _)

/-- A key is refused for what other things have, or it is refused whatever they have. -/
theorem Store.keyRefusal?_eq_some {store : Store} {owner id : Value} {key : Cell}
    {error : EngineError} (hRefused : store.keyRefusal? owner id key = some error) :
    error.violation? = some .unique ∨
      ∀ other : Store, other.keyRefusal? owner id key = some error := by
  unfold keyRefusal? at hRefused ⊢
  grind [EngineError.violation?_notUnique]

namespace Store

theorem withChecked_valid {α β : Type} {store : Store} {checked : Checked α} {content : α}
    (hValid : checked = .valid content) (operate : α → Outcome β) :
    store.withChecked checked operate = operate content := by
  rw [withChecked, hValid]
  rfl

/-- A thing that is given an identifier and a key is stored under them, whatever the tables hold. -/
theorem newThing_eq (store : Store) {thing : Thing} (hId : thing.id ≠ "") (hKey : thing.key ≠ "")
    (text : String) :
    thingTable.newRow store thing text =
      ⟨thing.id, thing.owner, thing.name, .text thing.key, .text text⟩ := by
  simp [EntityTable.newRow, thingTable, ThingRow.ofThing, Identifier.Supply.orDrawn, hId, hKey]

/-- A channel that is given an identifier is stored under it, whatever the tables hold. -/
theorem newChannel_eq (store : Store) {channel : Channel} (hId : channel.id ≠ "") (text : String) :
    channelTable.newRow store channel text =
      ⟨channel.id, channel.owner, channel.name, .text text⟩ := by
  simp [EntityTable.newRow, channelTable, ChannelRow.ofChannel, Identifier.Supply.orDrawn, hId]

/-- Which identifiers are still to be drawn does not matter. -/
theorem Mirrors.of_supply {owner : String} {own store : Store} (hMirrors : Mirrors owner own store)
    (ownSupply supply : Identifier.Supply) :
    Mirrors owner { own with supply := ownSupply } { store with supply := supply } :=
  ⟨hMirrors.things, hMirrors.channels, hMirrors.connections⟩

end Store

namespace EntityTable

variable {Row Entity : Type} {table : EntityTable Row Entity} {owner other : String}
  {own store : Store}

variable (table) in
/-- A table is part of what an owner shares with the tables of all owners, and can be
changed by itself. -/
structure IsShared : Prop where
  mirrors : ∀ {owner own store}, Store.Mirrors owner own store → table.Mirrors owner own store
  withRows : ∀ {owner own store held all}, Store.Mirrors owner own store →
    (held = all.filter fun row => table.owner row = owner) →
      Store.Mirrors owner (table.withRows own held) (table.withRows store all)
  withOthers : ∀ {owner own store all}, Store.Mirrors owner own store →
    (table.rows own = all.filter fun row => table.owner row = owner) →
      Store.Mirrors owner own (table.withRows store all)

variable (hShared : table.IsShared) (hMirrors : Store.Mirrors owner own store)

include hShared hMirrors

/-- A row that is not refused by the tables of all owners is not refused by a share of them. -/
theorem IsShared.free {row : Row} (hFree : table.refusal? row (table.rows store) = none) :
    table.refusal? row (table.rows own) = none := by
  rw [refusal?_eq_none_iff] at hFree ⊢
  refine ⟨hFree.1, fun column hColumn held hHeld => hFree.2 column hColumn held ?_⟩
  rw [hShared.mirrors hMirrors] at hHeld
  exact (List.mem_filter.mp hHeld).1

/-- A save that is not in conflict does to the share what it does to all tables. -/
theorem IsShared.save {entity : Entity} (hOwner : (table.describe entity).owner = owner)
    (hNamed : ∀ text, table.newRow own entity text = table.newRow store entity text)
    (hFree : (table.save store entity none).conflicts = false) :
    Store.Mirrors owner (table.save own entity none).store
      (table.save store entity none).store := by
  unfold EntityTable.save at hFree ⊢
  dsimp only at hFree ⊢
  split
  · exact hMirrors
  · rename_i hValid
    rw [if_neg hValid] at hFree
    cases hWritten : Metadata.encode (.map (table.describe entity).metadata) with
    | error fault => exact hMirrors.of_supply _ _
    | ok text =>
        simp only [hWritten, Option.none_or, hNamed] at hFree ⊢
        cases hRefusal : table.refusal? (table.newRow store entity text) (table.rows store) with
        | some error =>
            rw [hRefusal] at hFree
            rcases refusal?_eq_some hRefusal with hUnique | hAlways
            · simp only [Outcome.conflicts_refused _ _ hUnique, Bool.true_eq_false] at hFree
            · rw [hAlways]
              exact hMirrors.of_supply _ _
        | none =>
            rw [hShared.free hMirrors hRefusal]
            refine hShared.withRows (hMirrors.of_supply _ _) ?_
            have hKept : table.owner (table.newRow store entity text) = owner := by
              rw [newRow, table.owner_ofEntity, hOwner]
            rw [hShared.mirrors hMirrors, hNamed, List.filter_append, List.filter_singleton, hKept]
            simp

/-- A change that leaves rows with their owners is made in both tables alike. -/
theorem IsShared.change (id : Value) {change : Row → Row}
    (hKeeps : ∀ row, table.owner (change row) = table.owner row) :
    Store.Mirrors owner (table.change own (.text owner) id change)
      (table.change store (.text owner) id change) := by
  refine hShared.withRows hMirrors ?_
  rw [filter_changed, hShared.mirrors hMirrors]
  intro row
  rw [hKeeps]

/-- An update does to the share what it does to all tables. -/
theorem IsShared.update {entity : Entity} (hOwner : (table.describe entity).owner = owner) :
    Store.Mirrors owner (table.update own entity none).store
      (table.update store entity none).store := by
  unfold EntityTable.update
  dsimp only
  cases Metadata.encode (.map (table.describe entity).metadata) with
  | error fault => exact hMirrors
  | ok text =>
      dsimp only
      rw [hOwner, (hShared.mirrors hMirrors).any_eq]
      split
      · exact hMirrors
      · split
        · exact hMirrors
        · simp only [EntityTable.updated, hOwner]
          exact hShared.change hMirrors _ fun row => table.owner_withContent row _ _

theorem IsShared.remove (id : Value) :
    Store.Mirrors owner (table.remove own (.text owner) id none).store
      (table.remove store (.text owner) id none).store := by
  unfold EntityTable.remove
  dsimp only
  split
  · exact hMirrors
  · have hRemoved : ((table.rows own).filter fun row => !table.isOf (.text owner) id row) =
        ((table.rows store).filter fun row => !table.isOf (.text owner) id row).filter fun row =>
          table.owner row = owner := by
      rw [hShared.mirrors hMirrors]
      exact filter_comm _
    have hRows := hShared.withRows hMirrors hRemoved
    refine ⟨hRows.things, hRows.channels, ?_⟩
    change List.filter _ own.connections = List.filter _ (List.filter _ store.connections)
    rw [hMirrors.connections]
    exact filter_comm _

/-- An owner has the same entities in a share of the tables. -/
theorem IsShared.owns_eq (id : String) :
    table.owns own (.text owner) id = table.owns store (.text owner) id := by
  rw [owns, owns, hShared.mirrors hMirrors, any_filter_of_imp]
  intro row _ hOwns
  simpa using (Bool.and_eq_true_iff.mp hOwns).2

/-- A row that another owner adds is not noticed. -/
theorem IsShared.added_other {entity : Entity} (hOther : (table.describe entity).owner ≠ owner)
    (text : String) :
    Store.Mirrors owner own (table.added store entity text) := by
  refine hShared.withOthers (hMirrors.of_supply own.supply _) ?_
  rw [hShared.mirrors hMirrors, List.filter_append, List.filter_singleton, newRow,
    table.owner_ofEntity]
  simp [hOther]

/-- A change to the rows of another owner that leaves them with that owner is not noticed. -/
theorem IsShared.change_other (hOther : other ≠ owner) (id : Value) {change : Row → Row}
    (hKeeps : ∀ row, table.owner (change row) = table.owner row) :
    Store.Mirrors owner own (table.change store (.text other) id change) := by
  refine hShared.withOthers hMirrors ?_
  rw [hShared.mirrors hMirrors]
  refine (filter_changed_of_other ?_ ?_).symm
  · intro row
    rw [hKeeps]
  · intro row _ hOf
    simp [owner_of_isOf hOf, hOther]

/-- The removal of what another owner has is not noticed. -/
theorem IsShared.without_other (hOther : other ≠ owner)
    (hEnds : ∀ connection ∈ store.connections, table.endOwner connection = connection.channelOwner)
    (id : Value) :
    Store.Mirrors owner own (table.without store (.text other) id) := by
  have hKept : table.rows own =
      ((table.rows store).filter fun row => !table.isOf (.text other) id row).filter
      fun row => table.owner row = owner := by
    rw [hShared.mirrors hMirrors]
    refine (filter_filter_of_imp ?_).symm
    intro row _ hKeep
    simp [isOf, of_decide_eq_true hKeep, hOther]
  have hRows := hShared.withOthers hMirrors hKept
  refine ⟨hRows.things, hRows.channels, ?_⟩
  rw [hMirrors.connections]
  refine (filter_filter_of_imp ?_).symm
  intro connection hConnection hKeep
  simp [hEnds connection hConnection, of_decide_eq_true hKeep, hOther]

end EntityTable

theorem thingTable.isShared : thingTable.IsShared where
  mirrors hMirrors := hMirrors.things
  withRows hMirrors hHeld := ⟨hHeld, hMirrors.channels, hMirrors.connections⟩
  withOthers hMirrors hHeld := ⟨hHeld, hMirrors.channels, hMirrors.connections⟩

theorem channelTable.isShared : channelTable.IsShared where
  mirrors hMirrors := hMirrors.channels
  withRows hMirrors hHeld := ⟨hMirrors.things, hHeld, hMirrors.connections⟩
  withOthers hMirrors hHeld := ⟨hMirrors.things, hHeld, hMirrors.connections⟩

namespace Store.Mirrors

variable {owner : String} {own store : Store}

/-- A key that is free in all tables is free in a share of them. -/
theorem key_free (hMirrors : Mirrors owner own store) {id : Value} {key : Cell}
    (hFree : store.keyRefusal? (.text owner) id key = none) :
    own.keyRefusal? (.text owner) id key = none := by
  unfold keyRefusal? at hFree ⊢
  have hSubset : ∀ row ∈ own.things, row ∈ store.things := by
    rw [show own.things = _ from hMirrors.things]
    exact fun row hRow => (List.mem_filter.mp hRow).1
  grind

theorem updateKey (hMirrors : Mirrors owner own store) (id key : Value)
    (hFree : (store.updateKey (.text owner) id key none).conflicts = false) :
    Mirrors owner (own.updateKey (.text owner) id key none).store
      (store.updateKey (.text owner) id key none).store := by
  unfold Store.updateKey at hFree ⊢
  dsimp only at hFree ⊢
  split
  · exact hMirrors
  · rename_i cells hCells
    rw [hCells] at hFree
    dsimp only at hFree
    rw [show own.things.any _ = store.things.any _ from hMirrors.things.any_eq id]
    split
    · exact hMirrors
    · rename_i hOwned
      rw [if_neg hOwned] at hFree
      cases hRefusal : store.keyRefusal? (.text owner) id key.toColumnCell with
      | some error =>
          rw [hRefusal] at hFree
          rcases keyRefusal?_eq_some hRefusal with hUnique | hAlways
          · simp only [Outcome.conflicts_refused _ _ hUnique, Bool.true_eq_false] at hFree
          · rw [hAlways]
            exact hMirrors
      | none =>
          rw [hMirrors.key_free hRefusal]
          exact thingTable.isShared.change hMirrors id fun _ => rfl

theorem disconnect (hMirrors : Mirrors owner own store) (channelId thingId : String) :
    Mirrors owner (own.disconnect (.text owner) (.text channelId) (.text thingId) none).store
      (store.disconnect (.text owner) (.text channelId) (.text thingId) none).store := by
  rw [disconnect_text, disconnect_text]
  refine ⟨hMirrors.things, hMirrors.channels, ?_⟩
  simp only [hMirrors.connections]
  exact filter_comm _

/-- A pair may be connected in the tables of all owners and not in the share of an owner, but then
the owner has not both of its ends. -/
theorem connect (hMirrors : Mirrors owner own store) (hLinked : store.Linked)
    (hIdentified : store.Identified) (channelId thingId : String) :
    Mirrors owner (own.connect (.text owner) (.text channelId) (.text thingId) none).store
      (store.connect (.text owner) (.text channelId) (.text thingId) none).store := by
  have hSubset : ∀ row ∈ own.connections, row ∈ store.connections := by
    rw [hMirrors.connections]
    exact fun row hRow => (List.mem_filter.mp hRow).1
  rw [connect_text, connect_text, channelTable.isShared.owns_eq hMirrors,
    thingTable.isShared.owns_eq hMirrors]
  split
  · exact hMirrors
  · by_cases hEnds :
      (channelTable.owns store (.text owner) channelId &&
        thingTable.owns store (.text owner) thingId) = true
    · have hJoined : own.connections.any (ConnectionRow.joins (.text channelId) (.text thingId)) =
          store.connections.any (ConnectionRow.joins (.text channelId) (.text thingId)) := by
        rw [Bool.eq_iff_iff]
        constructor
        · intro hAny
          obtain ⟨row, hRow, hJoins⟩ := List.any_eq_true.mp hAny
          exact List.any_eq_true.mpr ⟨row, hSubset row hRow, hJoins⟩
        · intro hAny
          have hMem :=
            mem_connections_of_joined hLinked hIdentified hAny (Bool.and_eq_true_iff.mp hEnds).1
          have hOwn : ⟨channelId, owner, thingId, owner⟩ ∈ own.connections := by
            rw [hMirrors.connections]
            exact List.mem_filter.mpr ⟨hMem, by simp⟩
          exact List.any_eq_true.mpr
            ⟨_, hOwn, (ConnectionRow.joins_text_iff channelId thingId _).mpr rfl⟩
      rw [hJoined, if_pos hEnds, if_pos hEnds]
      split
      · exact hMirrors
      · refine ⟨hMirrors.things, hMirrors.channels, ?_⟩
        simp [hMirrors.connections, List.filter_append]
    · have hKept : ∀ tables : Store,
          (if tables.connections.any (ConnectionRow.joins (.text channelId) (.text thingId)) =
            true then
            (⟨tables, .ok (), [.alreadyConnected thingId channelId]⟩ : Outcome Unit)
          else .failed tables (.absent .endpoint)).store = tables := by
        intro tables
        split <;> rfl
      simp only [hEnds, Bool.false_eq_true, ↓reduceIte, hKept]
      exact hMirrors

/-- A step of an owner that is no conflict does the same to the tables of all owners and to the
owner's share of them. -/
theorem perform_own (hMirrors : Mirrors owner own store) (hLinked : store.Linked)
    (hIdentified : store.Identified) {step : Step} (hPlain : step.isPlain = true)
    (hOf : step.isOf owner = true) (hNames : step.operation.namesSaved = true)
    (hFree : (store.perform step).conflicts = false) :
    Mirrors owner (own.perform step).store (store.perform step).store := by
  obtain ⟨operation, rfl, hTexts⟩ := Step.eq_of_isPlain hPlain
  rw [Step.isOf, decide_eq_true_eq] at hOf
  cases operation with
  | saveThing fields =>
      cases hFields : Thing.ofFields fields with
      | faulty faults => simp [Operation.owner?, hFields] at hOf
      | valid thing =>
          simp only [Operation.owner?, hFields, Option.some.injEq] at hOf
          simp only [Operation.namesSaved, hFields, Bool.and_eq_true, decide_eq_true_eq] at hNames
          simp only [perform, withChecked_valid hFields, Outcome.conflicts_answering] at hFree ⊢
          exact thingTable.isShared.save hMirrors hOf
            (fun text => by
              rw [newThing_eq own hNames.1 hNames.2, newThing_eq store hNames.1 hNames.2]) hFree
  | updateThing fields =>
      cases hFields : Thing.ofFields fields with
      | faulty faults => simp [Operation.owner?, hFields] at hOf
      | valid thing =>
          simp only [Operation.owner?, hFields, Option.some.injEq] at hOf
          simp only [perform, withChecked_valid hFields]
          exact thingTable.isShared.update hMirrors hOf
  | saveChannel fields =>
      cases hFields : Channel.ofFields fields with
      | faulty faults => simp [Operation.owner?, hFields] at hOf
      | valid channel =>
          simp only [Operation.owner?, hFields, Option.some.injEq] at hOf
          simp only [Operation.namesSaved, hFields, decide_eq_true_eq] at hNames
          simp only [perform, withChecked_valid hFields, Outcome.conflicts_answering] at hFree ⊢
          exact channelTable.isShared.save hMirrors hOf
            (fun text => by rw [newChannel_eq own hNames, newChannel_eq store hNames]) hFree
  | updateChannel fields =>
      cases hFields : Channel.ofFields fields with
      | faulty faults => simp [Operation.owner?, hFields] at hOf
      | valid channel =>
          simp only [Operation.owner?, hFields, Option.some.injEq] at hOf
          simp only [perform, withChecked_valid hFields]
          exact channelTable.isShared.update hMirrors hOf
  | updateKey caller id key =>
      obtain ⟨caller, _, _, rfl, -, -⟩ := Value.eq_texts_of_and_and hTexts
      obtain rfl : caller = owner := Option.some.inj hOf
      simp only [perform, Outcome.conflicts_answering] at hFree
      exact hMirrors.updateKey id key hFree
  | removeThing caller id =>
      obtain ⟨caller, _, rfl, -⟩ := Value.eq_texts_of_and hTexts
      obtain rfl : caller = owner := Option.some.inj hOf
      exact thingTable.isShared.remove hMirrors id
  | removeChannel caller id =>
      obtain ⟨caller, _, rfl, -⟩ := Value.eq_texts_of_and hTexts
      obtain rfl : caller = owner := Option.some.inj hOf
      exact channelTable.isShared.remove hMirrors id
  | connect caller channel thing =>
      obtain ⟨caller, channel, thing, rfl, rfl, rfl⟩ := Value.eq_texts_of_and_and hTexts
      obtain rfl : caller = owner := Option.some.inj hOf
      exact hMirrors.connect hLinked hIdentified channel thing
  | disconnect caller channel thing =>
      obtain ⟨caller, channel, thing, rfl, rfl, rfl⟩ := Value.eq_texts_of_and_and hTexts
      obtain rfl : caller = owner := Option.some.inj hOf
      exact hMirrors.disconnect channel thing
  | _ => cases hOf

/-- A step that is not one of an owner leaves the owner's share as it is, whatever it is
aimed at. -/
theorem perform_other (hMirrors : Mirrors owner own store) (hLinked : store.Linked) {step : Step}
    (hPlain : step.isPlain = true) (hOther : step.isOf owner = false) :
    Mirrors owner own (store.perform step).store := by
  have hEffect := store.perform_effect step
  rw [Step.isPlain, Bool.and_eq_true] at hPlain
  rw [Step.isOf, decide_eq_false_iff_not] at hOther
  obtain ⟨-, hTexts⟩ := hPlain
  generalize step.operation = operation at hEffect hTexts hOther
  generalize (store.perform step).store = after, (store.perform step).answer = answer at hEffect
  cases hEffect with
  | @thingSaved fields thing text hFields hAccepts =>
      have hNotKept : thing.owner ≠ owner := by simpa [Operation.owner?, hFields] using hOther
      exact thingTable.isShared.added_other hMirrors hNotKept text
  | @channelSaved fields channel text hFields hAccepts =>
      have hNotKept : channel.owner ≠ owner := by simpa [Operation.owner?, hFields] using hOther
      exact channelTable.isShared.added_other hMirrors hNotKept text
  | @thingUpdated fields thing text hFields hUpdates =>
      have hNotKept : thing.owner ≠ owner := by simpa [Operation.owner?, hFields] using hOther
      exact thingTable.isShared.change_other hMirrors hNotKept _ fun _ => rfl
  | @keyChanged caller id key hOwned hFree =>
      obtain ⟨caller, _, _, rfl, -, -⟩ := Value.eq_texts_of_and_and hTexts
      have hNotKept : caller ≠ owner := by simpa [Operation.owner?] using hOther
      exact thingTable.isShared.change_other hMirrors hNotKept _ fun _ => rfl
  | @channelUpdated fields channel text hFields hUpdates =>
      have hNotKept : channel.owner ≠ owner := by simpa [Operation.owner?, hFields] using hOther
      exact channelTable.isShared.change_other hMirrors hNotKept _ fun _ => rfl
  | thingRemoved caller id =>
      obtain ⟨caller, _, rfl, -⟩ := Value.eq_texts_of_and hTexts
      have hNotKept : caller ≠ owner := by simpa [Operation.owner?] using hOther
      exact thingTable.isShared.without_other hMirrors hNotKept
        (fun connection hConnection => (hLinked.oneOwner connection hConnection).symm) id
  | channelRemoved caller id =>
      obtain ⟨caller, _, rfl, -⟩ := Value.eq_texts_of_and hTexts
      have hNotKept : caller ≠ owner := by simpa [Operation.owner?] using hOther
      exact channelTable.isShared.without_other hMirrors hNotKept (fun _ _ => rfl) id
  | connected hOwner hNew hChannel hThing =>
      rename_i caller name channelId thingId
      obtain ⟨caller, _, _, rfl, -, -⟩ := Value.eq_texts_of_and_and hTexts
      obtain rfl : caller = name := Cell.text.inj hOwner
      have hNotKept : caller ≠ owner := by simpa [Operation.owner?] using hOther
      refine ⟨hMirrors.things, hMirrors.channels, ?_⟩
      simp [List.filter_append, hNotKept, hMirrors.connections]
  | disconnected hJoined =>
      rename_i caller channelId thingId
      obtain ⟨caller, _, _, rfl, -, -⟩ := Value.eq_texts_of_and_and hTexts
      have hNotKept : caller ≠ owner := by simpa [Operation.owner?] using hOther
      refine ⟨hMirrors.things, hMirrors.channels, ?_⟩
      rw [hMirrors.connections]
      refine (filter_filter_of_imp ?_).symm
      intro row _ hKeep
      simp [ConnectionRow.isOf, of_decide_eq_true hKeep, hNotKept]
  | _ => exact ⟨hMirrors.things, hMirrors.channels, hMirrors.connections⟩

end Store.Mirrors

end DeviceRegistry
