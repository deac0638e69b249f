import DeviceRegistry.Proofs.Store.WriteOutcomes

/-! What becomes of an error that the storage engine reports in place of a write. The error is
recognised as one violation or as none, and this and the kind of the write decide what callers are
told. No table changes. An operation that fails at a check of its own does not come to its write and
never sees the error. -/
namespace DeviceRegistry

namespace Operation

/-- The kind of the entity that an operation writes. Removing one is another kind of write. -/
def entityWritten? : Operation → Option EntityKind
  | .saveThing _ | .updateThing _ | .updateKey _ _ _ => some .thing
  | .saveChannel _ | .updateChannel _ => some .channel
  | _ => none

/-- The arguments pass every check that comes before the write of the operation. -/
inductive PassesChecks : Operation → Prop where
  | saveThing {fields : Mapping} {thing : Thing} (hFields : Thing.ofFields fields = .valid thing)
      (hId : thing.id = "" ∨ Identifier.isValid thing.id = true)
      (hMetadata : ¬ Metadata.IsRefused (.map thing.metadata)) : PassesChecks (.saveThing fields)
  | updateThing {fields : Mapping} {thing : Thing} (hFields : Thing.ofFields fields = .valid thing)
      (hMetadata : ¬ Metadata.IsRefused (.map thing.metadata)) : PassesChecks (.updateThing fields)
  | updateKey (owner id key : Value) : PassesChecks (.updateKey owner id key)
  | removeThing (owner id : Value) : PassesChecks (.removeThing owner id)
  | saveChannel {fields : Mapping} {channel : Channel}
      (hFields : Channel.ofFields fields = .valid channel)
      (hId : channel.id = "" ∨ Identifier.isValid channel.id = true)
      (hMetadata : ¬ Metadata.IsRefused (.map channel.metadata)) :
      PassesChecks (.saveChannel fields)
  | updateChannel {fields : Mapping} {channel : Channel}
      (hFields : Channel.ofFields fields = .valid channel)
      (hMetadata : ¬ Metadata.IsRefused (.map channel.metadata)) :
      PassesChecks (.updateChannel fields)
  | removeChannel (owner id : Value) : PassesChecks (.removeChannel owner id)
  | connect (owner : Value) {channelId thingId : String}
      (hChannel : Identifier.isValid channelId = true)
      (hThing : Identifier.isValid thingId = true) :
      PassesChecks (.connect owner (.text channelId) (.text thingId))
  | disconnect (owner channelId thingId : Value) :
      PassesChecks (.disconnect owner channelId thingId)
  | saveMessages {batch : List Mapping} {messages : List Message}
      (hBatch : Store.checkedBatch batch = .valid messages) : PassesChecks (.saveMessages batch)

/-- What an operation answers to an error that is reported in place of its write and recognised as
what is found. -/
inductive AnswersError (error : EngineError) :
    Operation → Option Violation → Except Failure Answer → Prop where
  | malformed {operation : Operation} {kind : EntityKind} {violation : Violation}
      (hWrites : operation.entityWritten? = some kind)
      (hText : violation = .invalidText ∨ violation = .truncation) :
      AnswersError error operation (some violation) (.error (.rejected error.message))
  | conflict {operation : Operation} {kind : EntityKind}
      (hWrites : operation.entityWritten? = some kind) :
      AnswersError error operation (some .unique) (.error (.conflict kind))
  | passedOn {operation : Operation} {kind : EntityKind} {found : Option Violation}
      (hWrites : operation.entityWritten? = some kind)
      (hOther : found = none ∨ found = some .foreignKey) :
      AnswersError error operation found (.error (.engine error))
  | alreadyConnected (owner channelId thingId : Value) :
      AnswersError error (.connect owner channelId thingId) (some .unique) (.ok .done)
  | endMissing (owner channelId thingId : Value) {violation : Violation}
      (hEnd : violation = .foreignKey ∨ violation = .invalidText) :
      AnswersError error (.connect owner channelId thingId) (some violation)
        (.error (.absent .endpoint))
  | notConnected (owner channelId thingId : Value) {found : Option Violation}
      (hOther : found = none ∨ found = some .truncation) :
      AnswersError error (.connect owner channelId thingId) found (.error (.engine error))
  | thingKept (owner id : Value) (found : Option Violation) :
      AnswersError error (.removeThing owner id) found (.error (.engine error))
  | channelKept (owner id : Value) (found : Option Violation) :
      AnswersError error (.removeChannel owner id) found (.error (.engine error))
  | connectionKept (owner channelId thingId : Value) (found : Option Violation) :
      AnswersError error (.disconnect owner channelId thingId) found (.error (.engine error))
  | messagesLost (batch : List Mapping) (found : Option Violation) :
      AnswersError error (.saveMessages batch) found (.error (.engine error))

/-- There is one answer to an error. -/
theorem AnswersError.eq {error : EngineError} {operation : Operation} {found : Option Violation}
    {answer other : Except Failure Answer} (hAnswer : operation.AnswersError error found answer)
    (hOther : operation.AnswersError error found other) : answer = other := by
  cases hAnswer <;> cases hOther <;> simp_all [entityWritten?]

theorem PassesChecks.isValid_thingId {owner channelId : Value} {thingId : String}
    (hPasses : PassesChecks (.connect owner channelId (.text thingId))) :
    Identifier.isValid thingId = true := by
  cases hPasses
  assumption

end Operation

/-- An operation leaves the tables as they were, and answers an error as the kind of
operation asks. -/
def Outcome.Absorbs (outcome : Outcome Answer) (before : Store) (operation : Operation)
    (error : EngineError) :
    Prop :=
  outcome.store.SameTables before ∧
    ∀ found, error.IsRecognisedAs found → operation.AnswersError error found outcome.answer

namespace Store

section Writes

variable (store : Store) (error : EngineError)

/-- Whatever write of an entity storage refuses, the same rule says what becomes of the error. -/
theorem absorbs_refused {α : Type} {after : Store} {operation : Operation} {kind : EntityKind}
    (hWrites : operation.entityWritten? = some kind) (hSame : after.SameTables store)
    (answer : α → Answer) :
    ((Outcome.refused after kind (.engine error)).answering answer).Absorbs store
      operation error := by
  refine ⟨hSame, fun found hFound => ?_⟩
  have hAnswer : ((Outcome.refused after kind (.engine error)).answering answer).answer =
      .error (error.ofEntityWrite kind).1 := rfl
  rw [hAnswer, EngineError.ofEntityWrite, EngineError.violation?_eq_iff.mpr hFound]
  cases found with
  | none => exact .passedOn hWrites (Or.inl rfl)
  | some violation =>
      cases violation with
      | unique => exact .conflict hWrites
      | foreignKey => exact .passedOn hWrites (Or.inr rfl)
      | invalidText => exact .malformed hWrites (Or.inl rfl)
      | truncation => exact .malformed hWrites (Or.inr rfl)

/-- A connection that is refused leaves the tables as they are. -/
theorem connectionRefused_store (channelId thingId : String) :
    (store.connectionRefused channelId thingId error).store = store := by
  unfold connectionRefused
  split <;> rfl

theorem absorbs_connectionRefused (owner : Value) (channelId thingId : String) :
    ((store.connectionRefused channelId thingId error).answering fun _ => .done).Absorbs store
      (.connect owner (.text channelId) (.text thingId)) error := by
  refine ⟨?_, fun found hFound => ?_⟩
  · rw [Outcome.answering, connectionRefused_store]
    exact ⟨rfl, rfl, rfl, rfl⟩
  · rw [connectionRefused, EngineError.violation?_eq_iff.mpr hFound]
    cases found with
    | none => exact .notConnected _ _ _ (Or.inl rfl)
    | some violation =>
        cases violation with
        | unique => exact .alreadyConnected _ _ _
        | foreignKey => exact .endMissing _ _ _ (Or.inl rfl)
        | invalidText => exact .endMissing _ _ _ (Or.inr rfl)
        | truncation => exact .notConnected _ _ _ (Or.inr rfl)

end Writes

end Store

namespace EntityTable

variable {Row Entity : Type} {table : EntityTable Row Entity} {entity : Entity} (store : Store)
  (error : EngineError)

/-- Where the checks of a save are passed, storage refuses it. -/
theorem save_of_passes
    (hId : (table.describe entity).id = "" ∨ Identifier.isValid (table.describe entity).id = true)
    (hMetadata : ¬ Metadata.IsRefused (.map (table.describe entity).metadata)) :
    table.save store entity (some error) = .refused (table.drawnFor store entity) table.kind
      (.engine error) := by
  obtain ⟨text, hText⟩ := (Metadata.encode_isOk_iff_not_isRefused _).mpr hMetadata
  unfold save
  dsimp only
  rw [if_neg (by grind), hText]
  rfl

/-- Where they are not passed, it does not matter what storage would do. -/
theorem save_of_not_passes
    (hNot : ¬ (((table.describe entity).id = "" ∨
      Identifier.isValid (table.describe entity).id = true) ∧
      ¬ Metadata.IsRefused (.map (table.describe entity).metadata))) :
    table.save store entity (some error) = table.save store entity none := by
  unfold save
  dsimp only
  split
  · rfl
  · cases hText : Metadata.encode (.map (table.describe entity).metadata) with
    | error fault => rfl
    | ok text =>
        have hMetadata := (Metadata.encode_isOk_iff_not_isRefused _).mp ⟨text, hText⟩
        exact absurd ⟨by grind, hMetadata⟩ hNot

/-- An update that passes its checks is refused with the error that is reported. -/
theorem update_of_passes
    (hMetadata : ¬ Metadata.IsRefused (.map (table.describe entity).metadata)) :
    table.update store entity (some error) = .refused store table.kind (.engine error) := by
  obtain ⟨text, hText⟩ := (Metadata.encode_isOk_iff_not_isRefused _).mpr hMetadata
  unfold update
  dsimp only
  rw [hText]

theorem update_of_not_passes
    (hNot : ¬ ¬ Metadata.IsRefused (.map (table.describe entity).metadata)) :
    table.update store entity (some error) = table.update store entity none := by
  unfold update
  dsimp only
  cases hText : Metadata.encode (.map (table.describe entity).metadata) with
  | error fault => rfl
  | ok text => exact absurd ((Metadata.encode_isOk_iff_not_isRefused _).mp ⟨text, hText⟩) hNot

end EntityTable

namespace Store

variable (store : Store) {operation : Operation} (error : EngineError)

variable {store error} in
/-- What is described is written as if it had been given itself. -/
theorem absorbs_withChecked {α : Type} {checked : Checked α} {content : α}
    (hValid : checked = .valid content) {operate : α → Outcome Answer}
    (hAbsorbs : (operate content).Absorbs store operation error) :
    (store.withChecked checked operate).Absorbs store operation error := by
  rw [hValid]
  exact hAbsorbs

theorem withChecked_congr {α β : Type} {checked : Checked α} {operate other : α → Outcome β}
    (hSame : ∀ content, checked = .valid content → operate content = other content) :
    store.withChecked checked operate = store.withChecked checked other := by
  cases checked with
  | valid content => exact hSame content rfl
  | faulty faults => rfl

/-- An operation that comes to its write absorbs the error that is reported in place
of the write. -/
theorem perform_absorbs (hPasses : operation.PassesChecks) :
    (store.perform ⟨operation, some error⟩).Absorbs store operation error := by
  have hSame : store.SameTables store := ⟨rfl, rfl, rfl, rfl⟩
  cases hPasses with
  | saveThing hFields hId hMetadata =>
      refine absorbs_withChecked hFields ?_
      rw [saveThing, EntityTable.save_of_passes store error hId hMetadata]
      exact store.absorbs_refused error rfl (thingTable.sameTables_drawnFor store _) _
  | updateThing hFields hMetadata =>
      refine absorbs_withChecked hFields ?_
      rw [updateThing, EntityTable.update_of_passes store error hMetadata]
      exact store.absorbs_refused error rfl hSame _
  | updateKey owner id key => exact store.absorbs_refused error rfl hSame _
  | saveChannel hFields hId hMetadata =>
      refine absorbs_withChecked hFields ?_
      rw [saveChannel, EntityTable.save_of_passes store error hId hMetadata]
      exact store.absorbs_refused error rfl (channelTable.sameTables_drawnFor store _) _
  | updateChannel hFields hMetadata =>
      refine absorbs_withChecked hFields ?_
      rw [updateChannel, EntityTable.update_of_passes store error hMetadata]
      exact store.absorbs_refused error rfl hSame _
  | @connect owner channelId thingId hChannel hThing =>
      have hConnect : store.connect owner (.text channelId) (.text thingId) (some error) =
          store.connectionRefused channelId thingId error := by
        simp only [connect, hChannel, hThing, Bool.and_self, Bool.not_true,
          Bool.false_eq_true, if_false]
      have hAbsorbs := store.absorbs_connectionRefused error owner channelId thingId
      rwa [← hConnect] at hAbsorbs
  | removeThing owner id => exact ⟨hSame, fun found _ => .thingKept owner id found⟩
  | removeChannel owner id => exact ⟨hSame, fun found _ => .channelKept owner id found⟩
  | disconnect owner channelId thingId => exact ⟨hSame, fun found _ => .connectionKept _ _ _ found⟩
  | saveMessages hBatch =>
      exact absorbs_withChecked hBatch ⟨hSame, fun found _ => .messagesLost _ found⟩

/-- An operation that does not come to its write never sees the error. -/
theorem perform_of_not_passesChecks (hNot : ¬ operation.PassesChecks) :
    store.perform ⟨operation, some error⟩ = store.perform ⟨operation, none⟩ := by
  cases operation with
  | saveThing fields =>
      refine store.withChecked_congr fun thing hFields => congrArg (Outcome.answering · _) ?_
      exact EntityTable.save_of_not_passes store error fun hChecks =>
        hNot (.saveThing hFields hChecks.1 hChecks.2)
  | updateThing fields =>
      refine store.withChecked_congr fun thing hFields => congrArg (Outcome.answering · _) ?_
      exact EntityTable.update_of_not_passes store error fun hMetadata =>
        hNot (.updateThing hFields hMetadata)
  | saveChannel fields =>
      refine store.withChecked_congr fun channel hFields => congrArg (Outcome.answering · _) ?_
      exact EntityTable.save_of_not_passes store error fun hChecks =>
        hNot (.saveChannel hFields hChecks.1 hChecks.2)
  | updateChannel fields =>
      refine store.withChecked_congr fun channel hFields => congrArg (Outcome.answering · _) ?_
      exact EntityTable.update_of_not_passes store error fun hMetadata =>
        hNot (.updateChannel hFields hMetadata)
  | saveMessages batch =>
      exact store.withChecked_congr fun messages hBatch => absurd (.saveMessages hBatch) hNot
  | connect owner channelId thingId =>
      refine congrArg (Outcome.answering · _) ?_
      unfold connect
      split
      · rename_i channelId thingId
        split
        · rfl
        · rename_i hIds
          simp only [Bool.not_eq_true', Bool.not_eq_false, Bool.and_eq_true] at hIds
          exact absurd (.connect owner hIds.1 hIds.2) hNot
      · rfl
  | updateKey owner id key => exact absurd (.updateKey owner id key) hNot
  | removeThing owner id => exact absurd (.removeThing owner id) hNot
  | removeChannel owner id => exact absurd (.removeChannel owner id) hNot
  | disconnect owner channelId thingId => exact absurd (.disconnect owner channelId thingId) hNot
  | _ => rfl

/-- Whatever code or message the storage engine gives, its error is recognised as one thing. An
operation that comes to its write answers by that and by the kind of the write, and no table
changes. An operation that fails at a check before its write does so as if there were no error. -/
theorem engine_errors_exact (store : Store) (operation : Operation) (error : EngineError) :
    let outcome := store.perform ⟨operation, some error⟩
    (∃! found, error.IsRecognisedAs found) ∧
    (operation.PassesChecks → outcome.store.SameTables store ∧
      ∀ found, error.IsRecognisedAs found → operation.AnswersError error found outcome.answer) ∧
    (¬ operation.PassesChecks → outcome = store.perform ⟨operation, none⟩) := by
  refine ⟨⟨error.violation?, error.isRecognisedAs_violation?, fun found hFound => ?_⟩, ?_, ?_⟩
  · exact (EngineError.violation?_eq_iff.mpr hFound).symm
  · exact store.perform_absorbs error
  · exact store.perform_of_not_passesChecks error

/-- An unknown code hides what the message says, and a message that speaks of two rules is read for
the one that is looked for first. The third operation does not come to its write. -/
theorem engine_errors_exact_ambiguous :
    let store := empty.run contested
    let channelId := Value.text "00000000-0000-0000-0000-0000000000c1"
    let thingId := Value.text "00000000-0000-0000-0000-0000000000d2"
    let coded : EngineError :=
      { kind := .integrity, sqlstate := some "", pgcode := some "23P01",
        message := "UNIQUE constraint failed" }
    let uncoded : EngineError :=
      { kind := .integrity,
        message := "CHECK constraint failed after FOREIGN KEY constraint failed" }
    let rekey := Operation.updateKey (.text "ada") thingId (.text "3")
    let join := Operation.connect (.text "ada") channelId thingId
    let misnamed := Operation.connect (.text "ada") channelId (.text "2")
    (store.perform ⟨rekey, some coded⟩).answer = .error (.engine coded) ∧
    (store.perform ⟨rekey, some uncoded⟩).answer = .error (.engine uncoded) ∧
    (store.perform ⟨join, some uncoded⟩).answer = .error (.absent .endpoint) ∧
    (store.perform ⟨join, some uncoded⟩).store.SameTables store ∧
    store.perform ⟨misnamed, some uncoded⟩ = store.perform ⟨misnamed, none⟩ := by
  intro store channelId thingId coded uncoded rekey join misnamed
  have hCoded : coded.IsRecognisedAs none :=
    .unknown (.second (by decide) rfl (by decide)) fun violation => by cases violation <;> decide
  have hUncoded : uncoded.IsRecognisedAs (some .foreignKey) := by
    refine .foreignKey (fun code hCode => ?_) (by decide) (by decide)
    rcases hCode with ⟨hCode, -⟩ | ⟨-, hCode, -⟩ <;> cases hCode
  have hJoin : join.PassesChecks := .connect _ (by decide) (by decide)
  have hMisnamed : ¬ misnamed.PassesChecks :=
    fun hPasses => absurd hPasses.isValid_thingId (by decide)
  have hRekey (error : EngineError) :=
    (engine_errors_exact store rekey error).2.1 (.updateKey _ _ _)
  obtain ⟨hSame, hAnswer⟩ := (engine_errors_exact store join uncoded).2.1 hJoin
  exact ⟨((hRekey coded).2 none hCoded).eq (.passedOn rfl (Or.inl rfl)),
    ((hRekey uncoded).2 _ hUncoded).eq (.passedOn rfl (Or.inr rfl)),
    (hAnswer _ hUncoded).eq (.endMissing _ _ _ (Or.inl rfl)), hSame,
    (engine_errors_exact store misnamed uncoded).2.2 hMisnamed⟩

end Store

end DeviceRegistry
