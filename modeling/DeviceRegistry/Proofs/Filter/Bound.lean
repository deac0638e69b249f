import DeviceRegistry.Proofs.Calendar.LastYear
import DeviceRegistry.Proofs.Filter.InstantBound
import DeviceRegistry.Proofs.Number.Overflow

/-! Why a bound is refused. What is no number and no time is reported as such, but some bounds are
refused in another way before that: an integer that is too large for a number, a time after the end
of the calendar, and a value that cannot be shown in the report. -/
namespace DeviceRegistry

/-- A reason for which something is refused, and what is reported then. -/
structure Trouble where
  holds : Prop
  failure : Failure

/-- The first trouble that there is decides what is reported. Without any the answer is sound. -/
def DecidedByFirst {α : Type} (answer : Except Failure α) (sound : α → Prop) : List Trouble → Prop
  | [] => ∃ content, answer = .ok content ∧ sound content
  | trouble :: others =>
    (trouble.holds → answer = .error trouble.failure) ∧
    (¬ trouble.holds → DecidedByFirst answer sound others)

/-- A value that is no good is shown in the report, unless an integer in it has too many digits
for that. -/
def refusals (cause : Prop) (raw : Value) (failure : Failure) : List Trouble :=
  [⟨cause ∧ raw.holdsOversized = true, .oversizedInteger⟩, ⟨cause, failure⟩]

section Decided

variable {α β : Type} {answer : Except Failure α} {sound : α → Prop} {content : α}

/-- Where no trouble holds, the sound content is the answer. -/
theorem decidedByFirst_ok (hSound : sound content) {troubles : List Trouble}
    (hNone : ∀ trouble ∈ troubles, ¬ trouble.holds) :
    DecidedByFirst (.ok content) sound troubles := by
  induction troubles with
  | nil => exact ⟨content, rfl, hSound⟩
  | cons trouble troubles ih =>
      rw [List.forall_mem_cons] at hNone
      exact ⟨fun hHolds => absurd hHolds hNone.1, fun _ => ih hNone.2⟩

/-- One step after another has the troubles of the first before those of the second. -/
theorem DecidedByFirst.bind {next : α → Except Failure β} {done : β → Prop}
    {before after : List Trouble} (hFirst : DecidedByFirst answer sound before)
    (hNext : ∀ content, answer = .ok content → sound content →
      DecidedByFirst (next content) done after) :
    DecidedByFirst (answer >>= next) done (before ++ after) := by
  induction before with
  | nil =>
      obtain ⟨content, rfl, hSound⟩ := hFirst
      exact hNext content rfl hSound
  | cons trouble before ih =>
      refine ⟨fun hHolds => ?_, fun hNot => ih (hFirst.2 hNot)⟩
      rw [hFirst.1 hHolds]
      rfl

/-- What is made of a sound content is decided by the same troubles. -/
theorem DecidedByFirst.map {next : α → β} {done : β → Prop} {troubles : List Trouble}
    (hFirst : DecidedByFirst answer sound troubles)
    (hNext : ∀ content, sound content → done (next content)) :
    DecidedByFirst (answer.map next) done troubles := by
  induction troubles with
  | nil =>
      obtain ⟨content, rfl, hSound⟩ := hFirst
      exact ⟨next content, rfl, hNext content hSound⟩
  | cons trouble troubles ih =>
      refine ⟨fun hHolds => ?_, fun hNot => ih (hFirst.2 hNot)⟩
      rw [hFirst.1 hHolds]
      rfl

/-- What is reported is the failure of one of the troubles. -/
theorem DecidedByFirst.ok_or_error {troubles : List Trouble}
    (hDecided : DecidedByFirst answer sound troubles) :
    (∃ content, answer = .ok content ∧ sound content) ∨
      ∃ trouble ∈ troubles, trouble.holds ∧ answer = .error trouble.failure := by
  induction troubles with
  | nil => exact Or.inl hDecided
  | cons trouble troubles ih =>
      by_cases hHolds : trouble.holds
      · exact Or.inr ⟨trouble, List.mem_cons_self, hHolds, hDecided.1 hHolds⟩
      · refine (ih (hDecided.2 hHolds)).imp_right ?_
        rintro ⟨other, hMem, hOther⟩
        exact ⟨other, List.mem_cons_of_mem _ hMem, hOther⟩

/-- A value that is shown in the report decides between the two refusals by the length of its
integers. -/
theorem decidedByFirst_showing {cause : Prop} (hCause : cause) (raw : Value) (failure : Failure) :
    DecidedByFirst (.error (.showing raw failure)) sound (refusals cause raw failure) := by
  refine ⟨fun hOversized => ?_, fun hShown => ⟨fun _ => ?_, fun hNot => absurd hCause hNot⟩⟩
  · rw [Failure.showing, if_pos hOversized.2]
  · rw [Failure.showing, if_neg fun hOversized => hShown ⟨hCause, hOversized⟩]

theorem not_holds_of_mem_refusals {cause : Prop} (hNot : ¬ cause) {raw : Value}
    {failure : Failure} :
    ∀ trouble ∈ refusals cause raw failure, ¬ trouble.holds := by
  simp [refusals, hNot]

end Decided

namespace Filter

/-- The value denotes a number, which need not be one that is computed with. -/
inductive IsNumber : Value → Prop where
  | real (x : Binary64) : IsNumber (.real x)
  | bool (b : Bool) : IsNumber (.bool b)
  | int (n : Int) : IsNumber (.int n)
  | text {s : String} (hRead : (Number.readLeniently? s.toList).isSome = true) : IsNumber (.text s)
  | bytes {holder : ByteHolder} {content : List UInt8}
      (hRead : (Number.readLeniently? (bytewise content)).isSome = true) :
      IsNumber (.bytes holder content)

def IsTooLarge (raw : Value) : Prop := ∃ n, raw = .int n ∧ Binary64.overflowStart ≤ n.natAbs

/-- The value holds a text with a date and denotes a time. -/
def IsInstant (raw : Value) : Prop :=
  ∃ text ∈ dateText? raw, ∃ microseconds, Calendar.readInstant text = .ok microseconds

/-- The value holds a text with a date, and the time lies after the last day of the calendar. -/
def LiesPast (raw : Value) : Prop :=
  ∃ text ∈ dateText? raw, Calendar.readInstant text = .error .outOfRange

def numberTroubles (key : String) (raw : Value) : List Trouble :=
  ⟨IsTooLarge raw, .outOfRange⟩ :: refusals (¬ IsNumber raw) raw (.notNumeric key raw)

def timeTroubles (key : String) (raw : Value) : List Trouble :=
  ⟨IsTooLarge raw, .outOfRange⟩ :: ⟨¬ IsNumber raw ∧ LiesPast raw, .outOfRange⟩ ::
    refusals (¬ IsNumber raw ∧ ¬ IsInstant raw) raw (.notInstant key raw)

section Bounds

variable {raw : Value}

/-- Even an integer that is too large denotes a number. -/
theorem isNumber_of_isTooLarge (hLarge : IsTooLarge raw) : IsNumber raw := by
  obtain ⟨n, rfl, -⟩ := hLarge
  exact .int n

/-- A value denotes a number, or is too large for one, or is unreadable. -/
theorem realOf_cases (raw : Value) :
    (∃ x, realOf raw = .ok x ∧ IsNumber raw ∧ ¬ IsTooLarge raw) ∨
      (realOf raw = .error .outOfRange ∧ IsTooLarge raw) ∨ realOf raw = .error .unreadable ∧
      ¬ IsNumber raw := by
  have hRead (text : List Char) : (∃ x, Number.readLeniently? text = some x) ∨
      Number.readLeniently? text = none := by
    cases Number.readLeniently? text with
    | none => exact Or.inr rfl
    | some x => exact Or.inl ⟨x, rfl⟩
  have hSmall {raw : Value} (hOther : ∀ n, raw ≠ .int n) : ¬ IsTooLarge raw := fun hLarge =>
    hLarge.elim fun n hBoth => hOther n hBoth.1
  cases raw with
  | real x => exact Or.inl ⟨x, rfl, .real x, hSmall (by simp)⟩
  | bool b => exact Or.inl ⟨_, rfl, .bool b, hSmall (by simp)⟩
  | int n =>
      have hInfinite := Binary64.isInfinite_ofInt_iff n
      by_cases hLarge : Binary64.overflowStart ≤ n.natAbs
      · exact Or.inr (Or.inl ⟨if_pos (hInfinite.mpr hLarge), n, rfl, hLarge⟩)
      · refine Or.inl ⟨_, if_neg (mt hInfinite.mp hLarge), .int n, ?_⟩
        rintro ⟨_, ⟨⟩, hOther⟩
        exact hLarge hOther
  | text s =>
      rcases hRead s.toList with ⟨x, hSome⟩ | hNone
      · exact Or.inl ⟨x, by simp only [realOf, hSome], .text (by rw [hSome]; rfl), hSmall (by simp)⟩
      · refine Or.inr (Or.inr ⟨by simp only [realOf, hNone], ?_⟩)
        rintro (_ | _ | _ | hSome | _)
        rw [hNone] at hSome
        cases hSome
  | bytes holder content =>
      rcases hRead (bytewise content) with ⟨x, hSome⟩ | hNone
      · exact Or.inl
          ⟨x, by simp only [realOf, hSome], .bytes (by rw [hSome]; rfl), hSmall (by simp)⟩
      · refine Or.inr (Or.inr ⟨by simp only [realOf, hNone], ?_⟩)
        rintro (_ | _ | _ | _ | hSome)
        rw [hNone] at hSome
        cases hSome
  | _ => exact Or.inr (Or.inr ⟨rfl, fun hNumber => by cases hNumber⟩)

/-- A value denotes a time, or one after the end of the calendar, or none. -/
theorem instant_cases (raw : Value) :
    (∃ microseconds, (dateText? raw).map Calendar.readInstant = some (.ok microseconds) ∧
      IsInstant raw ∧
      ¬ LiesPast raw) ∨
    ((dateText? raw).map Calendar.readInstant = some (.error .outOfRange) ∧ LiesPast raw) ∨
    ((dateText? raw).map Calendar.readInstant = none ∨
      (dateText? raw).map Calendar.readInstant = some (.error .unreadable)) ∧ ¬ LiesPast raw ∧
        ¬ IsInstant raw := by
  unfold IsInstant LiesPast
  cases dateText? raw with
  | none => exact Or.inr (Or.inr ⟨Or.inl rfl, by simp, by simp⟩)
  | some text =>
      simp only [Option.map_some, Option.mem_some_iff, exists_eq_left']
      rcases Calendar.readInstant text with (_ | _) | microseconds <;> simp

/-- Only texts of the last year lie past the calendar. -/
theorem LiesPast.exists_isOfLastYear (hPast : LiesPast raw) :
    ∃ text ∈ dateText? raw, Calendar.IsOfLastYear text :=
  let ⟨text, hText, hRead⟩ := hPast
  ⟨text, hText, Calendar.isOfLastYear_of_outOfRange hRead⟩

/-- The end of the last day lies past the calendar, though no day begins then. -/
theorem liesPast_endOfDay (zone : Calendar.Zone) : LiesPast (.text (endOfDay .last zone)) := by
  refine ⟨_, dateText?_instantText .last 24 0 0 zone, ?_⟩
  rw [Calendar.readInstant_instantText (by decide) le_rfl (by decide) (by decide)
    (fun _ => ⟨rfl, rfl⟩) zone]
  exact if_pos ⟨rfl, rfl⟩

/-- A value bounds numbers unless there is trouble. -/
theorem numberBound_decided (key : String) (raw : Value) :
    DecidedByFirst (numberBound key raw) (fun _ => True) (numberTroubles key raw) := by
  rcases realOf_cases raw with ⟨x, hOk, hNumber, hFits⟩ | ⟨hRange, hLarge⟩ | ⟨hUnreadable, hNone⟩
  · rw [numberBound, hOk]
    refine decidedByFirst_ok trivial (List.forall_mem_cons.mpr ⟨hFits, ?_⟩)
    exact not_holds_of_mem_refusals (not_not_intro hNumber)
  · rw [numberBound, hRange]
    exact ⟨fun _ => rfl, fun hFits => absurd hLarge hFits⟩
  · rw [numberBound, hUnreadable]
    exact ⟨fun hLarge => absurd (isNumber_of_isTooLarge hLarge) hNone,
      fun _ => decidedByFirst_showing hNone _ _⟩

/-- A value bounds times unless there is trouble. -/
theorem timeBound_decided (key : String) (raw : Value) :
    DecidedByFirst (timeBound key raw) (fun _ => True) (timeTroubles key raw) := by
  rcases realOf_cases raw with ⟨x, hOk, hNumber, hFits⟩ | ⟨hRange, hLarge⟩ | ⟨hUnreadable, hNone⟩
  · rw [timeBound, hOk]
    refine decidedByFirst_ok trivial
      (List.forall_mem_cons.mpr ⟨hFits, List.forall_mem_cons.mpr ⟨?_, ?_⟩⟩)
    · exact fun hPast => hPast.1 hNumber
    · exact not_holds_of_mem_refusals fun hRefused => hRefused.1 hNumber
  · rw [timeBound, hRange]
    exact ⟨fun _ => rfl, fun hFits => absurd hLarge hFits⟩
  · rw [timeBound, hUnreadable]
    dsimp only
    refine ⟨fun hLarge => absurd (isNumber_of_isTooLarge hLarge) hNone, fun _ => ?_⟩
    rcases instant_cases raw with
      ⟨microseconds, hOk, hInstant, hWithin⟩ | ⟨hRange, hPast⟩ | ⟨hOther, hWithin, hNoInstant⟩
    · rw [hOk]
      refine decidedByFirst_ok trivial (List.forall_mem_cons.mpr ⟨fun hPast => hWithin hPast.2, ?_⟩)
      exact not_holds_of_mem_refusals fun hRefused => hRefused.2 hInstant
    · rw [hRange]
      exact ⟨fun _ => rfl, fun hWithin => absurd ⟨hNone, hPast⟩ hWithin⟩
    · rcases hOther with hOther | hOther <;> rw [hOther]
      all_goals exact ⟨fun hPast => absurd hPast.2 hWithin,
        fun _ => decidedByFirst_showing ⟨hNone, hNoInstant⟩ _ _⟩

end Bounds

end Filter

end DeviceRegistry
