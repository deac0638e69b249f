import DeviceRegistry.Proofs.Store.Effect

/-! Runs and what they leave on record. A run is remembered as its moments: each step together with
the tables on which it was performed, from which its answer follows. -/
namespace DeviceRegistry

/-- A step and the tables on which it is performed. -/
structure Moment where
  tables : Store
  step : Step

def Moment.answer (moment : Moment) : Except Failure Answer :=
  (moment.tables.perform moment.step).answer

def Value.isText : Value → Bool
  | .text _ => true
  | _ => false

/-- Whatever names an owner, an entity or a key in a change to the tables is a text. Entities that
are described by fields have texts there in any case. -/
def Operation.takesTexts : Operation → Bool
  | .updateKey owner id key => owner.isText && id.isText && key.isText
  | .removeThing owner id | .removeChannel owner id => owner.isText && id.isText
  | .connect owner channelId thingId | .disconnect owner channelId thingId =>
    owner.isText && channelId.isText && thingId.isText
  | _ => true

/-- The storage engine takes part as it should, and the operation is called with texts. -/
def Step.isPlain (step : Step) : Bool := step.injected.isNone && step.operation.takesTexts

theorem Value.eq_text_of_isText {value : Value} (hText : value.isText = true) :
    ∃ s, value = .text s := by
  cases value with
  | text s => exact ⟨s, rfl⟩
  | _ => cases hText

/-- Both values are texts. -/
theorem Value.eq_texts_of_and {first second : Value}
    (hTexts : (first.isText && second.isText) = true) :
    ∃ s t, first = .text s ∧ second = .text t := by
  rw [Bool.and_eq_true] at hTexts
  obtain ⟨s, hFirst⟩ := eq_text_of_isText hTexts.1
  obtain ⟨t, hSecond⟩ := eq_text_of_isText hTexts.2
  exact ⟨s, t, hFirst, hSecond⟩

theorem Value.eq_texts_of_and_and {first second third : Value}
    (hTexts : (first.isText && second.isText && third.isText) = true) :
    ∃ s t u, first = .text s ∧ second = .text t ∧ third = .text u := by
  rw [Bool.and_eq_true] at hTexts
  obtain ⟨s, t, hFirst, hSecond⟩ := eq_texts_of_and hTexts.1
  obtain ⟨u, hThird⟩ := eq_text_of_isText hTexts.2
  exact ⟨s, t, u, hFirst, hSecond, hThird⟩

/-- A plain step reports no error in place of its write, and has texts for arguments. -/
theorem Step.eq_of_isPlain {step : Step} (hPlain : step.isPlain = true) :
    ∃ operation, step = ⟨operation, none⟩ ∧ operation.takesTexts = true := by
  obtain ⟨operation, injected⟩ := step
  rw [isPlain, Bool.and_eq_true, Option.isNone_iff_eq_none] at hPlain
  obtain ⟨rfl, hTexts⟩ := hPlain
  exact ⟨operation, rfl, hTexts⟩

theorem Step.isPlain_concat {steps : List Step} {step : Step}
    (hPlain : (steps ++ [step]).all isPlain = true) :
    steps.all isPlain = true ∧ step.isPlain = true := by
  simpa using hPlain

theorem Step.takesTexts_of_isPlain {steps : List Step} (hPlain : steps.all isPlain = true) :
    steps.all (fun step => step.operation.takesTexts) = true := by
  rw [List.all_eq_true] at hPlain ⊢
  exact fun step hStep => (Bool.and_eq_true_iff.mp (hPlain step hStep)).2

@[simp] theorem Value.equalsText_text (s t : String) :
    (Value.text s).equalsText t = decide (s = t) := by
  simp [equalsText, equalsCell, toColumnCell, toCell, Cell.inTextColumn]

namespace Store

variable (store : Store)

def trace (store : Store) : List Step → List Moment
  | [] => []
  | step :: steps => ⟨store, step⟩ :: trace (store.perform step).store steps

@[simp] theorem run_nil : store.run [] = store := rfl

@[simp] theorem run_cons (step : Step) (steps : List Step) :
    store.run (step :: steps) = (store.perform step).store.run steps := rfl

/-- A run goes on from the tables that it came to. -/
theorem run_append (earlier later : List Step) :
    store.run (earlier ++ later) = (store.run earlier).run later := by
  simp [run, List.foldl_append]

@[simp] theorem run_concat (steps : List Step) (step : Step) :
    store.run (steps ++ [step]) = ((store.run steps).perform step).store := by
  simp [run_append]

/-- The trace of a run goes on with what comes later. -/
theorem trace_append (earlier later : List Step) :
    store.trace (earlier ++ later) = store.trace earlier ++ (store.run earlier).trace later := by
  induction earlier generalizing store with
  | nil => rfl
  | cons step steps ih => simp [trace, ih]

@[simp] theorem trace_concat (steps : List Step) (step : Step) :
    store.trace (steps ++ [step]) = store.trace steps ++ [⟨store.run steps, step⟩] := by
  rw [trace_append]
  rfl

/-- What every effect preserves is preserved by runs. -/
theorem run_preserves {holds : Store → Prop}
    (hEffect : ∀ store operation after answer, Effect store operation after answer →
      holds store → holds after)
    (steps : List Step) (hStart : holds store) : holds (store.run steps) := by
  induction steps generalizing store with
  | nil => exact hStart
  | cons step steps ih =>
      exact ih _ (hEffect _ _ _ _ (store.perform_effect step) hStart)

/-- What every effect of an operation on texts preserves is preserved by runs of such operations. -/
theorem run_preserves_of_takesTexts {holds : Store → Prop}
    (hEffect : ∀ store operation after answer, operation.takesTexts = true →
      Effect store operation after answer → holds store → holds after)
    (steps : List Step) (hTexts : steps.all (fun step => step.operation.takesTexts) = true)
    (hStart : holds store) :
    holds (store.run steps) := by
  induction steps generalizing store with
  | nil => exact hStart
  | cons step steps ih =>
      rw [List.all_cons, Bool.and_eq_true] at hTexts
      exact ih _ hTexts.2 (hEffect _ _ _ _ hTexts.1 (store.perform_effect step) hStart)

end Store

end DeviceRegistry
