import DeviceRegistry.Proofs.Store.Run
import Mathlib.Data.List.Forall2

/-! Batches of messages. A batch is saved only if each of its descriptions is that of a message and
each message has a time that is a number, and then all of its messages are added to the log.
Otherwise nothing is. -/
namespace DeviceRegistry

section Kept

/-- A number is stored unless it is not a number. -/
theorem Binary64.stored?_eq_some_iff {x kept : Binary64} :
    x.stored? = some kept ↔ x.isNaN = false ∧ kept = x.withoutSignOfZero := by
  rw [stored?]
  cases x.isNaN with
  | true => exact iff_of_false nofun fun hNumber => nomatch hNumber.1
  | false =>
      exact ⟨fun hKept => ⟨rfl, (Option.some.inj hKept).symm⟩,
        fun hKept => congrArg some hKept.2.symm⟩

@[simp] theorem Binary64.isNaN_withoutSignOfZero (x : Binary64) :
    x.withoutSignOfZero.isNaN = x.isNaN := by
  rw [withoutSignOfZero]
  split
  · rename_i hZero
    have hRank : x.rank = 0 := of_decide_eq_true hZero
    rw [isNaN, isNaN, hRank]
    rfl
  · rfl

/-- Numbers that are there are kept, apart from the sign of zero. -/
theorem Binary64.bind_stored? {x : Option Binary64} (hNumber : ∀ y ∈ x, y.isNaN = false) :
    x.bind stored? = x.map withoutSignOfZero := by
  cases x with
  | none => rfl
  | some y => exact stored?_eq_some_iff.mpr ⟨hNumber y rfl, rfl⟩

namespace Message

/-- The message is kept as the other one. Nothing of it is lost but the sign of zero, as long as its
values are numbers. -/
structure IsKeptAs (message kept : Message) : Prop where
  hasTime : message.time.isNaN = false
  channel : kept.channel = message.channel
  publisher : kept.publisher = message.publisher
  protocol : kept.protocol = message.protocol
  subtopic : kept.subtopic = message.subtopic
  time : kept.time = message.time.withoutSignOfZero
  value : (∀ x ∈ message.value, x.isNaN = false) → kept.value =
    message.value.map Binary64.withoutSignOfZero
  boolValue : kept.boolValue = message.boolValue
  stringValue : kept.stringValue = message.stringValue
  dataValue : kept.dataValue = message.dataValue
  valueSum : (∀ x ∈ message.valueSum, x.isNaN = false) →
    kept.valueSum = message.valueSum.map Binary64.withoutSignOfZero
  oneValue : kept.valueCount ≤ 1

variable {fields : Mapping} {message kept : Message}

/-- A message carries one value at most. -/
theorem valueCount_le_one (hFields : ofFields fields = .valid message) :
    message.valueCount ≤ 1 := by
  rw [ofFields] at hFields
  generalize Checked.both _ _ = checked at hFields
  cases checked with
  | faulty faults => cases hFields
  | valid found =>
      rw [Checked.andThen] at hFields
      split at hFields
      · rename_i hOne
        cases hFields
        exact hOne
      · cases hFields

theorem IsKeptAs.isNaN_kept (hKept : message.IsKeptAs kept) : kept.time.isNaN = false := by
  rw [hKept.time, Binary64.isNaN_withoutSignOfZero]
  exact hKept.hasTime

/-- What is kept of a message is the message. -/
theorem isKeptAs_of_stored? (hKept : message.stored? = some kept) (hOne : message.valueCount ≤ 1) :
    message.IsKeptAs kept := by
  obtain ⟨time, hTime, rfl⟩ := Option.map_eq_some_iff.mp hKept
  obtain ⟨hNumber, rfl⟩ := Binary64.stored?_eq_some_iff.mp hTime
  refine ⟨hNumber, rfl, rfl, rfl, rfl, rfl, Binary64.bind_stored?, rfl, rfl, rfl,
    Binary64.bind_stored?, ?_⟩
  have hFewer : (message.value.bind Binary64.stored?).isSome.toNat ≤
      message.value.isSome.toNat := by
    cases message.value with
    | none => exact Nat.le_refl 0
    | some x => exact Bool.toNat_le _
  rw [valueCount] at hOne ⊢
  dsimp only
  omega

/-- A batch is stored message by message. -/
theorem mapM_stored?_eq_some_iff {messages kept : List Message} :
    messages.mapM stored? = some kept ↔
      List.Forall₂ (fun message kept => message.stored? = some kept) messages kept := by
  induction messages generalizing kept with
  | nil => cases kept <;> simp
  | cons message messages ih =>
      rw [List.mapM_cons, List.forall₂_cons_left_iff]
      constructor
      · intro hKept
        obtain ⟨first, hFirst, hKept⟩ := Option.bind_eq_some_iff.mp hKept
        obtain ⟨others, hOthers, hKept⟩ := Option.bind_eq_some_iff.mp hKept
        exact ⟨first, others, hFirst, ih.mp hOthers, (Option.some.inj hKept).symm⟩
      · rintro ⟨first, others, hFirst, hOthers, rfl⟩
        rw [hFirst, ih.mpr hOthers]
        rfl

end Message

end Kept

/-- No message whose time is a number comes of the fields. -/
def Message.IsUnstorable (fields : Mapping) : Prop :=
  ∀ message, ofFields fields = .valid message → message.time.isNaN = true

/-- Whatever stands on the one side of rows that correspond has something on the other side. -/
theorem exists_mem_of_forall₂ {α β : Type} {related : α → β → Prop} {first : List α}
    {second : List β} (hRelated : List.Forall₂ related first second) {item : α}
    (hItem : item ∈ first) :
    ∃ other ∈ second, related item other := by
  induction hRelated with
  | nil => cases hItem
  | cons hHead hTail ih =>
      rcases List.mem_cons.mp hItem with rfl | hItem
      · exact ⟨_, List.mem_cons_self, hHead⟩
      · obtain ⟨other, hOther, hItemOther⟩ := ih hItem
        exact ⟨other, List.mem_cons_of_mem _ hOther, hItemOther⟩

namespace Store

/-- A batch is understood exactly if each of its descriptions is that of a message. -/
theorem checkedBatch_eq_valid_iff {batch : List Mapping} {messages : List Message} :
    checkedBatch batch = .valid messages ↔
      List.Forall₂ (fun fields message => Message.ofFields fields =
        .valid message) batch messages := by
  induction batch generalizing messages with
  | nil => cases messages <;> simp [checkedBatch]
  | cons fields batch ih =>
      rw [checkedBatch, List.forall₂_cons_left_iff]
      cases Message.ofFields fields with
      | faulty faults => exact iff_of_false nofun nofun
      | valid message =>
          rw [Checked.andThen]
          cases hBatch : checkedBatch batch with
          | faulty faults =>
              refine iff_of_false nofun ?_
              rintro ⟨_, others, -, hOthers, -⟩
              rw [ih.mpr hOthers] at hBatch
              cases hBatch
          | valid others =>
              constructor
              · intro hMessages
                cases hMessages
                exact ⟨message, others, rfl, ih.mp hBatch, rfl⟩
              · rintro ⟨first, rest, hFirst, hRest, rfl⟩
                cases hFirst
                cases hBatch.symm.trans (ih.mpr hRest)
                rfl

/-- The messages of a batch are kept, each in its place. -/
theorem forall₂_isKeptAs {batch : List Mapping} {messages kept : List Message}
    (hBatch : checkedBatch batch = .valid messages)
    (hKept : messages.mapM Message.stored? = some kept) :
    List.Forall₂ Message.IsKeptAs messages kept := by
  have hOne : ∀ message ∈ messages, message.valueCount ≤ 1 := by
    intro message hMessage
    obtain ⟨fields, -, hValid⟩ :=
      exists_mem_of_forall₂ (checkedBatch_eq_valid_iff.mp hBatch).flip hMessage
    exact Message.valueCount_le_one hValid
  have hStored := Message.mapM_stored?_eq_some_iff.mp hKept
  exact ((List.forall₂_and_left messages kept).mpr ⟨hOne, hStored⟩).imp fun _ _ hBoth =>
    Message.isKeptAs_of_stored? hBoth.2 hBoth.1

/-- A batch is saved as a whole or not at all. -/
theorem perform_saveMessages (store : Store) (batch : List Mapping)
    (injected : Option EngineError) :
    let outcome := store.perform ⟨.saveMessages batch, injected⟩
    ((∃ failure, outcome.answer = .error failure) ∧ outcome.store = store) ∨
      ∃ messages kept, checkedBatch batch = .valid messages ∧
      List.Forall₂ Message.IsKeptAs messages kept ∧
        outcome.answer = .ok .done ∧
        outcome.store = { store with messages := store.messages ++ store.messageRows kept } := by
  intro outcome
  cases hBatch : checkedBatch batch with
  | faulty faults =>
      have hOutcome : outcome = .failed store (.invalidFields faults) := by
        simp only [outcome, perform, withChecked, hBatch, Checked.orFail]
      rw [hOutcome]
      exact Or.inl ⟨⟨_, rfl⟩, rfl⟩
  | valid messages =>
      have hOutcome : outcome = (store.saveMessages messages injected).answering
          fun _ => .done := by
        simp only [outcome, perform, withChecked, hBatch, Checked.orFail]
      rw [hOutcome]
      unfold saveMessages
      cases injected with
      | some error => exact Or.inl ⟨⟨_, rfl⟩, rfl⟩
      | none =>
          cases hKept : messages.mapM Message.stored? with
          | none => exact Or.inl ⟨⟨_, rfl⟩, rfl⟩
          | some kept => exact Or.inr ⟨messages, kept, rfl, forall₂_isKeptAs hBatch hKept, rfl, rfl⟩

/-- One message that cannot be stored keeps a batch from being saved. -/
theorem exists_failure_of_isUnstorable (store : Store) {batch : List Mapping} {fields : Mapping}
    (hFields : fields ∈ batch) (hUnstorable : Message.IsUnstorable fields)
    (injected : Option EngineError) :
    ∃ failure, (store.perform ⟨.saveMessages batch, injected⟩).answer = .error failure := by
  rcases store.perform_saveMessages batch injected with
    ⟨hFailed, -⟩ | ⟨messages, kept, hBatch, hKept, -, -⟩
  · exact hFailed
  · obtain ⟨message, hMessage, hValid⟩ :=
      exists_mem_of_forall₂ (checkedBatch_eq_valid_iff.mp hBatch) hFields
    obtain ⟨row, -, hRow⟩ := exists_mem_of_forall₂ hKept hMessage
    have hNaN := hUnstorable message hValid
    rw [hRow.hasTime] at hNaN
    cases hNaN

end Store

/-- The messages that the moment saves, which are those of its batch if it succeeds. -/
def Moment.saved (moment : Moment) : List Message :=
  match moment.step.operation, moment.answer with
  | .saveMessages batch, .ok _ =>
    match Store.checkedBatch batch with
    | .valid messages => messages
    | .faulty _ => []
  | _, _ => []

theorem Moment.saved_of_error {moment : Moment} {failure : Failure}
    (hFailed : moment.answer = .error failure) :
    moment.saved = [] := by
  rw [saved, hFailed]
  split
  · rename_i hAnswer
    cases hAnswer
  · rfl

end DeviceRegistry
