import DeviceRegistry.Proofs.Metadata.NormalForm
import DeviceRegistry.Proofs.Store.Atomicity
import DeviceRegistry.Proofs.Store.Keys
import DeviceRegistry.Proofs.Violation

/-! Why writes to entities fail. Before the write there are checks of its own, and then the tables
judge it: a text that is too long is noticed before an identifier or a key that is taken. The first
objection decides, and callers are told of its kind and never of the error by which the storage
engine reported it. -/
namespace DeviceRegistry

/-- What callers learn of a failed write besides its message. -/
inductive FailureKind where
  | malformed
  | conflict
  | absent
deriving DecidableEq

def Failure.kind? : Failure → Option FailureKind
  | .invalidIdentifier .. | .unwritableMetadata _ | .notNumeric .. | .notInstant ..
  | .unknownComparator _
  | .rejected _ => some .malformed
  | .conflict _ => some .conflict
  | .absent _ => some .absent
  | _ => none

/-- A reason for which a write fails, and the kind of its failure. -/
structure Objection where
  holds : Prop
  kind : FailureKind

namespace Outcome

variable {α : Type} {before failed : Store}

def FailsAs (outcome : Outcome α) (before : Store) (kind : FailureKind) : Prop :=
  outcome.store.SameTables before ∧ ∃ failure, outcome.answer = .error failure ∧
  failure.kind? = some kind

/-- The first of the objections that holds decides how a write fails. The write is done where none
of them holds. -/
def IsDecidedBy (outcome : Outcome α) (before : Store) (done : Store → α → Prop) :
    List Objection → Prop
  | [] => ∃ content, outcome.answer = .ok content ∧ done outcome.store content
  | objection :: others =>
    (objection.holds → outcome.FailsAs before objection.kind) ∧
      (¬ objection.holds → outcome.IsDecidedBy before done others)

section Objections

variable {outcome : Outcome α} {done : Store → α → Prop} {objection : Objection}
  {others : List Objection}

/-- An objection that holds decides by itself. -/
theorem isDecidedBy_first (hHolds : objection.holds)
    (hFails : outcome.FailsAs before objection.kind) :
    outcome.IsDecidedBy before done (objection :: others) :=
  ⟨fun _ => hFails, fun hSound => absurd hHolds hSound⟩

/-- An objection that does not hold leaves the decision to the others. -/
theorem isDecidedBy_other (hSound : ¬ objection.holds)
    (hOthers : outcome.IsDecidedBy before done others) :
    outcome.IsDecidedBy before done (objection :: others) :=
  ⟨fun hHolds => absurd hHolds hSound, fun _ => hOthers⟩

/-- A check before the rest of a write is the objection that comes first. -/
theorem isDecidedBy_ite {condition : Prop} [Decidable condition] {failing : Outcome α}
    (hHolds : objection.holds ↔ condition) (hFails : failing.FailsAs before objection.kind)
    (hOthers : ¬ objection.holds → outcome.IsDecidedBy before done others) :
    (if condition then failing else outcome).IsDecidedBy before done (objection :: others) := by
  split
  · rename_i hCondition
    exact isDecidedBy_first (hHolds.mpr hCondition) hFails
  · rename_i hCondition
    have hSound : ¬ objection.holds := mt hHolds.mp hCondition
    exact isDecidedBy_other hSound (hOthers hSound)

end Objections

theorem failsAs_failed (hSame : failed.SameTables before) {failure : Failure} {kind : FailureKind}
    (hKind : failure.kind? = some kind) :
    (Outcome.failed failed failure : Outcome α).FailsAs before kind :=
  ⟨hSame, failure, rfl, hKind⟩

/-- A text that is too long for the tables is malformed. -/
theorem failsAs_malformed (hSame : failed.SameTables before) (kind : EntityKind)
    {error : EngineError} (hLong : error.violation? = some .truncation) :
    (refused failed kind (.engine error) : Outcome α).FailsAs before .malformed := by
  have hRefused : (refused failed kind (.engine error) : Outcome α) =
      ⟨failed, .error (.rejected error.message), [.textRefused kind .truncation]⟩ := by
    rw [refused, Failure.ofEntityWrite, EngineError.ofEntityWrite, hLong]
  rw [hRefused]
  exact ⟨hSame, _, rfl, rfl⟩

/-- An identifier or a key that the tables have already is in conflict with them. -/
theorem failsAs_conflict (hSame : failed.SameTables before) (kind : EntityKind)
    {error : EngineError} (hTaken : error.violation? = some .unique) :
    (refused failed kind (.engine error) : Outcome α).FailsAs before .conflict := by
  have hAnswer : (refused failed kind (.engine error) : Outcome α).answer =
      .error (.conflict kind) := by
    rw [refused, Failure.ofEntityWrite, EngineError.ofEntityWrite, hTaken]
  exact ⟨hSame, _, hAnswer, rfl⟩

end Outcome

/-- What the tables find about a write: a text that is too long, or else an identifier or a key that
is taken, or nothing. -/
def Judges (long taken : Prop) : Option EngineError → Prop
  | none => ¬ long ∧ ¬ taken
  | some error =>
    (long ∧ error.violation? = some .truncation) ∨
    (¬ long ∧ taken ∧ error.violation? = some .unique)

/-- A write that is left to the tables fails for a text that is too long, or else for an identifier
or a key that is taken, or else it is done. -/
theorem Outcome.isDecidedBy_of_judges {α : Type} {before failed after : Store} {content : α}
    {done : Store → α → Prop} {long taken : Prop} {refusal : Option EngineError}
    (hJudges : Judges long taken refusal) (hSame : failed.SameTables before) (kind : EntityKind)
    (hDone : done after content) :
    IsDecidedBy
      (match refusal with
      | some error => refused failed kind (.engine error)
      | none => ⟨after, .ok content, []⟩)
      before done [⟨long, .malformed⟩, ⟨taken, .conflict⟩] := by
  cases refusal with
  | none =>
      obtain ⟨hShort, hFree⟩ := hJudges
      exact isDecidedBy_other hShort (isDecidedBy_other hFree ⟨content, rfl, hDone⟩)
  | some error =>
      rcases hJudges with ⟨hLong, hViolation⟩ | ⟨hShort, hTaken, hViolation⟩
      · exact isDecidedBy_first hLong (failsAs_malformed hSame kind hViolation)
      · apply isDecidedBy_other hShort
        exact isDecidedBy_first hTaken (failsAs_conflict hSame kind hViolation)

namespace EntityTable

variable {Row Entity : Type} {table : EntityTable Row Entity}

variable (table) in
def NamesLimits : Prop :=
  ∀ limit ∈ table.limits,
    (EngineError.tooLong table.title limit.1.title).violation? = some .truncation

/-- A new row needs texts that are short enough and in some columns what no other row has. -/
theorem judges_refusal? (hLimits : table.NamesLimits) (row : Row) (others : List Row) :
    Judges (∃ limit ∈ table.limits, limit.2 < (limit.1.content row).length)
      (∃ column ∈ table.uniques, ∃ other ∈ others, column.content other = column.content row)
      (table.refusal? row others) := by
  simp only [refusal?]
  cases hLong : table.limits.find? fun limit => limit.2 < (limit.1.content row).length with
  | some limit =>
      have hMem := List.mem_of_find?_eq_some hLong
      exact Or.inl ⟨⟨limit, hMem, by simpa using List.find?_some hLong⟩, hLimits limit hMem⟩
  | none =>
      have hShort : ¬ ∃ limit ∈ table.limits, limit.2 < (limit.1.content row).length := by
        simpa [List.find?_eq_none] using hLong
      cases hTaken : table.uniques.find? fun column =>
          others.any fun other => column.content other == column.content row with
      | some column =>
          refine Or.inr ⟨hShort, ⟨column, List.mem_of_find?_eq_some hTaken, ?_⟩,
            EngineError.violation?_notUnique _⟩
          simpa using List.find?_some hTaken
      | none => exact ⟨hShort, by simpa [List.find?_eq_none] using hTaken⟩

end EntityTable

theorem thingTable.namesLimits : thingTable.NamesLimits := by
  simp [EntityTable.NamesLimits, EntityTable.limits, thingTable, EngineError.violation?_tooLong]

theorem channelTable.namesLimits : channelTable.NamesLimits := by
  simp [EntityTable.NamesLimits, EntityTable.limits, channelTable, EngineError.violation?_tooLong]

/-- A new key of a thing has to be one that no other row has. -/
theorem Store.judges_keyRefusal? (store : Store) (owner id : Value) (key : String) :
    Judges (maxKeyLength < (Cell.text key).length)
      (∃ row ∈ store.things, thingTable.isOf owner id row = false ∧ row.key = .text key)
      (store.keyRefusal? owner id (.text key)) := by
  unfold keyRefusal?
  grind [Judges, EngineError.violation?_notUnique, EngineError.violation?_tooLong]

end DeviceRegistry
