import DeviceRegistry.Proofs.Filter.Bound
import DeviceRegistry.Proofs.Store.MessageQuery
import DeviceRegistry.Proofs.Store.Refusal

/-! How a query for messages fails. The bounds of a query are looked at one after the other, and the
first that there is trouble with decides the failure. Once all of them are understood nothing is
left to fail, for the storage engine takes numbers and texts, and every row is shown. -/
namespace DeviceRegistry

namespace Filter.Query

variable {entries : Mapping}

def IsTaken (condition : MessageCondition) : Prop := Cell.AreTaken condition.parameters

def comparatorTroubles (entries : Mapping) : List Trouble :=
  let name := (Mapping.value? entries (.text "comparator")).getD .null
  ⟨(¬ ∃ comparison, Chooses entries comparison) ∧ isComparable name = false,
    .comparatorNotComparable⟩ ::
    refusals (¬ ∃ comparison, Chooses entries comparison) name (.unknownComparator name)

def troublesUnder (entries : Mapping) (key : String) (troubles : Value → List Trouble) :
    List Trouble :=
  (Mapping.value? entries (.text key)).elim [] troubles

/-- The troubles with a query, in the order in which it is looked through. -/
def troubles (entries : Mapping) : List Trouble :=
  troublesUnder entries "from" (timeTroubles "from") ++
    (troublesUnder entries "to" (timeTroubles "to") ++
    (troublesUnder entries "value"
      (fun raw => comparatorTroubles entries ++ numberTroubles "value" raw) ++
      troublesUnder entries "valueSum" (numberTroubles "valueSum")))

def HasExactTexts (entries : Mapping) : Prop :=
  ∀ field : ExactField, ∀ raw ∈ Mapping.value? entries (.text field.key), ∃ text, raw = .text text

/-- A comparison is chosen, or its name cannot be looked up, or there is none of that name. -/
theorem comparison_cases (name : Value) :
    (∃ chosen, comparison name = .ok chosen) ∨
      (isComparable name = false ∧ comparison name = .error .comparatorNotComparable) ∨
      isComparable name = true ∧
      comparison name = .error (.showing name (.unknownComparator name)) := by
  unfold comparison
  by_cases hBlank : name.isBlank = true
  · exact Or.inl ⟨.equal, if_pos hBlank⟩
  rw [if_neg hBlank]
  cases hComparable : isComparable name with
  | false => exact Or.inr (Or.inl ⟨rfl, rfl⟩)
  | true =>
      simp only [Bool.not_true, Bool.false_eq_true, ↓reduceIte, true_and]
      split
      · exact Or.inl ⟨_, rfl⟩
      · exact Or.inr (Or.inr rfl)

/-- A query chooses a comparison unless there is trouble with the name. -/
theorem chosenComparison_decided (entries : Mapping) :
    DecidedByFirst (chosenComparison (.map entries))
      (fun _ => True) (comparatorTroubles entries) := by
  have hChosen : (∃ chosen, Chooses entries chosen) ↔
      ∃ chosen, chosenComparison (.map entries) = .ok chosen :=
    exists_congr fun chosen => chosenComparison_eq_ok_iff.symm
  rcases comparison_cases ((Mapping.value? entries (.text "comparator")).getD .null) with
    ⟨chosen, hOk⟩ | ⟨hKind, hFailed⟩ | ⟨hKind, hFailed⟩
  · have hChooses := hChosen.mpr ⟨chosen, hOk⟩
    rw [chosenComparison, hOk]
    refine decidedByFirst_ok trivial
      (List.forall_mem_cons.mpr ⟨fun hUnchosen => hUnchosen.1 hChooses, ?_⟩)
    exact not_holds_of_mem_refusals (not_not_intro hChooses)
  all_goals
    have hUnchosen : ¬ ∃ chosen, Chooses entries chosen := by
      rw [hChosen, chosenComparison, hFailed]
      rintro ⟨_, ⟨⟩⟩
    rw [chosenComparison, hFailed]
  · exact ⟨fun _ => rfl, fun hNone => absurd ⟨hUnchosen, hKind⟩ hNone⟩
  · refine ⟨fun hOther => ?_, fun _ => decidedByFirst_showing hUnchosen _ _⟩
    rw [hKind] at hOther
    cases hOther.2

/-- The condition of a key has the troubles with its entry. -/
theorem conditionOf_decided {key : String} {read : Except Failure MessageCondition}
    {found : Value → List Trouble}
    (hRead : ∀ raw, Mapping.value? entries (.text key) = some raw →
      DecidedByFirst read IsTaken (found raw)) :
    DecidedByFirst (conditionOf (.map entries) key read)
      (fun option => ∀ condition ∈ option, IsTaken condition)
      (troublesUnder entries key found) := by
  unfold troublesUnder
  cases hRaw : Mapping.value? entries (.text key) with
  | none =>
      refine ⟨none, ?_, nofun⟩
      rw [conditionOf, hasEntry, hRaw]
      rfl
  | some raw =>
      rw [conditionOf_of_isSome (by rw [hRaw]; rfl)]
      refine (hRead raw hRaw).map fun condition hTaken => ?_
      rintro _ ⟨⟩
      exact hTaken

theorem isTaken_real {condition : MessageCondition} {x : Binary64}
    (hReal : condition.parameters = [.real x]) :
    IsTaken condition := by
  rw [IsTaken, hReal, Cell.AreTaken, List.forall_mem_singleton]
  exact ⟨_, rfl⟩

/-- A bound that is read as a number is a condition that is taken. -/
theorem bound_decided {key : String} {read : Value → Except Failure Binary64}
    {found : Value → List Trouble}
    (hRead : ∀ raw, DecidedByFirst (read raw) (fun _ => True) (found raw))
    {make : Binary64 → MessageCondition} (hMake : ∀ x, (make x).parameters = [.real x]) :
    DecidedByFirst
      (conditionOf (.map entries) key do return make (← read (← entry (.map entries) key)))
      (fun option => ∀ condition ∈ option, IsTaken condition)
      (troublesUnder entries key found) := by
  refine conditionOf_decided fun raw hRaw => ?_
  rw [entry_map hRaw]
  exact (hRead raw).map fun x _ => isTaken_real (hMake x)

/-- A number to compare with is a condition that is taken. The comparison is chosen before
it is read. -/
theorem value_decided (entries : Mapping) :
    DecidedByFirst
      (conditionOf (.map entries) "value" do
        let comparison ← chosenComparison (.map entries)
        return .value comparison (← numberBound "value" (← entry (.map entries) "value")))
      (fun option => ∀ condition ∈ option, IsTaken condition)
      (troublesUnder entries "value" fun raw => comparatorTroubles entries ++
        numberTroubles "value" raw) := by
  refine conditionOf_decided fun raw hRaw => (chosenComparison_decided entries).bind
    fun comparison _ _ => ?_
  rw [entry_map hRaw]
  exact (numberBound_decided "value" raw).map fun x _ => isTaken_real rfl

/-- Exact fields that are texts are conditions that are taken. -/
theorem exists_exact_conditions (hTexts : HasExactTexts entries) :
    ∃ exact, ExactField.all.mapM (exactCondition (.map entries)) = .ok exact ∧
      ∀ option ∈ exact, ∀ condition ∈ option, IsTaken condition := by
  have hField (field : ExactField) : ∃ option, exactCondition (.map entries) field = .ok option ∧
      ∀ condition ∈ option, IsTaken condition := by
    obtain ⟨found, hFinds⟩ := exists_finds (hTexts field)
    refine ⟨_, exactCondition_of_finds field hFinds, ?_⟩
    simp only [Option.forall_mem_map]
    intro text _
    exact Cell.areTaken_texts [text]
  obtain ⟨subtopic, hSubtopic, hSubtopicTaken⟩ := hField .subtopic
  obtain ⟨publisher, hPublisher, hPublisherTaken⟩ := hField .publisher
  obtain ⟨protocol, hProtocol, hProtocolTaken⟩ := hField .protocol
  refine ⟨[subtopic, publisher, protocol], ?_, ?_⟩
  · simp only [ExactField.all, List.mapM_cons, List.mapM_nil, hSubtopic, hPublisher, hProtocol]
    rfl
  · simp only [List.forall_mem_cons, List.not_mem_nil, false_imp_iff, implies_true, and_true]
    exact ⟨hSubtopicTaken, hPublisherTaken, hProtocolTaken⟩

/-- The conditions of a query are all taken, unless there is trouble with one of its bounds. -/
theorem conditions_decided (hTexts : HasExactTexts entries) :
    DecidedByFirst (conditions (.map entries)) (fun found => ∀ condition ∈ found, IsTaken condition)
      (troubles entries) := by
  obtain ⟨exact, hExact, hTaken⟩ := exists_exact_conditions hTexts
  rw [conditions_map, hExact]
  change DecidedByFirst (conditionOf (.map entries) "from" _ >>= _) _ _
  refine (bound_decided (timeBound_decided "from") fun _ => rfl).bind
    fun notBefore _ hNotBefore => ?_
  refine (bound_decided (timeBound_decided "to") fun _ => rfl).bind fun notAfter _ hNotAfter => ?_
  refine (value_decided entries).bind fun value _ hValue => ?_
  refine (bound_decided (numberBound_decided "valueSum") fun _ => rfl).map fun valueSum hSum => ?_
  rw [Conditions.forall_mem_ofOptions, List.forall_mem_append]
  simp only [List.forall_mem_cons, List.not_mem_nil, false_imp_iff, implies_true, and_true]
  exact ⟨hTaken, hNotBefore, hNotAfter, hValue, hSum⟩

def boundKeys : List String := ["from", "to", "value", "valueSum"]

/-- Nothing in a query is reported otherwise than as malformed. Its integers are small enough for
numbers and for messages, its times lie within the calendar, and its comparison can be looked up. -/
structure IsManageable (entries : Mapping) : Prop where
  small : ∀ key ∈ boundKeys, ∀ raw ∈ Mapping.value? entries (.text key), ¬ IsTooLarge raw
  within : ∀ key ∈ ["from", "to"], ∀ raw ∈ Mapping.value? entries (.text key), ¬ LiesPast raw
  shown : ∀ key ∈ "comparator" :: boundKeys, ∀ raw ∈ Mapping.value? entries (.text key),
    raw.holdsOversized = false
  comparable : ∀ name ∈ Mapping.value? entries (.text "comparator"), isComparable name = true

section Malformed

variable {key : String} {raw : Value} {trouble : Trouble}

theorem malformed_of_refusals {cause : Prop} {failure : Failure}
    (hShown : raw.holdsOversized = false) (hMalformed : failure.kind? = some .malformed) :
    ∀ trouble ∈ refusals cause raw failure,
      trouble.holds → trouble.failure.kind? = some .malformed := by
  simp [refusals, hShown, hMalformed]

theorem malformed_of_numberTroubles (hSmall : ¬ IsTooLarge raw)
    (hShown : raw.holdsOversized = false) :
    ∀ trouble ∈ numberTroubles key raw, trouble.holds → trouble.failure.kind? = some .malformed :=
  List.forall_mem_cons.mpr ⟨fun hLarge => absurd hLarge hSmall, malformed_of_refusals hShown rfl⟩

/-- A time that is neither too large nor past the calendar is refused as malformed, if it is
refused. -/
theorem malformed_of_timeTroubles (hSmall : ¬ IsTooLarge raw) (hWithin : ¬ LiesPast raw)
    (hShown : raw.holdsOversized = false) :
    ∀ trouble ∈ timeTroubles key raw, trouble.holds → trouble.failure.kind? = some .malformed :=
  List.forall_mem_cons.mpr ⟨fun hLarge => absurd hLarge hSmall,
    List.forall_mem_cons.mpr ⟨fun hPast => absurd hPast.2 hWithin,
      malformed_of_refusals hShown rfl⟩⟩

theorem malformed_of_comparatorTroubles (hManageable : IsManageable entries) :
    ∀ trouble ∈ comparatorTroubles entries,
      trouble.holds → trouble.failure.kind? = some .malformed := by
  have hName : isComparable ((Mapping.value? entries (.text "comparator")).getD .null) = true ∧
      ((Mapping.value? entries (.text "comparator")).getD .null).holdsOversized = false := by
    cases hName : Mapping.value? entries (.text "comparator") with
    | none => exact ⟨rfl, rfl⟩
    | some name =>
        exact ⟨hManageable.comparable name hName, hManageable.shown _ (by decide) name hName⟩
  refine List.forall_mem_cons.mpr ⟨fun hKind => ?_, malformed_of_refusals hName.2 rfl⟩
  rw [hName.1] at hKind
  cases hKind.2

theorem forall_mem_troublesUnder {found : Value → List Trouble} {property : Trouble → Prop}
    (hFound : ∀ raw ∈ Mapping.value? entries (.text key), ∀ trouble ∈ found raw, property trouble) :
    ∀ trouble ∈ troublesUnder entries key found, property trouble := by
  unfold troublesUnder
  cases hRaw : Mapping.value? entries (.text key) with
  | none => exact List.forall_mem_nil _
  | some raw => exact hFound raw hRaw

/-- Whatever trouble there is with a manageable query is reported as malformed. -/
theorem malformed_of_manageable (hManageable : IsManageable entries) :
    ∀ trouble ∈ troubles entries, trouble.holds → trouble.failure.kind? = some .malformed := by
  have hTimes (key : String) (hKey : key ∈ boundKeys) (hTime : key ∈ ["from", "to"]) :
      ∀ trouble ∈ troublesUnder entries key (timeTroubles key),
        trouble.holds → trouble.failure.kind? = some .malformed :=
    forall_mem_troublesUnder fun raw hRaw => malformed_of_timeTroubles
      (hManageable.small key hKey raw hRaw)
      (hManageable.within key hTime raw hRaw)
      (hManageable.shown key (List.mem_cons_of_mem _ hKey) raw hRaw)
  have hNumbers (key : String) (hKey : key ∈ boundKeys) (raw : Value)
      (hRaw : raw ∈ Mapping.value? entries (.text key)) :
      ∀ trouble ∈ numberTroubles key raw, trouble.holds → trouble.failure.kind? = some .malformed :=
    malformed_of_numberTroubles (hManageable.small key hKey raw hRaw)
      (hManageable.shown key (List.mem_cons_of_mem _ hKey) raw hRaw)
  simp only [troubles, List.forall_mem_append]
  refine ⟨hTimes "from" (by decide) (by decide), hTimes "to" (by decide) (by decide),
    forall_mem_troublesUnder fun raw hRaw => ?_,
    forall_mem_troublesUnder fun raw hRaw => hNumbers "valueSum" (by decide) raw hRaw⟩
  exact List.forall_mem_append.mpr
    ⟨malformed_of_comparatorTroubles hManageable, hNumbers "value" (by decide) raw hRaw⟩

end Malformed

end Filter.Query

namespace Store

open DeviceRegistry.Filter (LiesPast)
open DeviceRegistry.Filter.Query (HasExactTexts IsManageable malformed_of_manageable)

variable {store : Store} {channel : String} {entries : Mapping} {offset limit : Int}

/-- A query that is understood is answered with a page. -/
theorem exists_page_of_conditions (hLogged : store.Logged)
    {conditions : Filter.Conditions Filter.MessageCondition}
    (hConditions : Filter.Query.conditions (.map entries) = .ok conditions)
    (hTaken : ∀ condition ∈ conditions, Filter.Query.IsTaken condition)
    (hOffset : Number.fitsWord offset = true) (hLimit : Number.fitsWord limit = true) :
    ∃ page : Page Message,
      (store.readMessages (.text channel) ⟨some offset, some limit⟩ (.map entries)).answer =
        .ok page ∧
        page.offset = offset ∧ page.limit = limit := by
  have hParameters : Cell.AreTaken ((Value.text channel).comparisonParameters ++
      conditions.flatMap Filter.MessageCondition.parameters) := by
    refine (Cell.areTaken_append _ _).mpr ⟨Cell.areTaken_texts [channel], fun value hValue => ?_⟩
    obtain ⟨condition, hCondition, hMem⟩ := List.mem_flatMap.mp hValue
    exact hTaken condition hCondition value hMem
  have hLists := lists_messagesSelected hLogged hConditions hParameters
  have hPage := hLists.page offset limit hOffset hLimit
  rw [mapM_toMessage] at hPage
  exact ⟨_, hPage, rfl, rfl⟩

/-- A read is decided by the first trouble with its query. -/
theorem readMessages_decided (channel : String) (hLogged : store.Logged)
    (hTexts : HasExactTexts entries) (hOffset : Number.fitsWord offset = true)
    (hLimit : Number.fitsWord limit = true) :
    DecidedByFirst (store.readMessages (.text channel) ⟨some offset, some limit⟩
      (.map entries)).answer
      (fun page => page.offset = offset ∧ page.limit = limit) (Filter.Query.troubles entries) := by
  have hDecided := Filter.Query.conditions_decided hTexts
  have hAnswer : (store.readMessages (.text channel) ⟨some offset, some limit⟩
      (.map entries)).answer =
      (Filter.Query.conditions (.map entries) >>= fun _ =>
        (store.readMessages (.text channel) ⟨some offset, some limit⟩ (.map entries)).answer) := by
    rw [readMessages]
    cases Filter.Query.conditions (.map entries) <;> rfl
  rw [hAnswer, ← List.append_nil (Filter.Query.troubles entries)]
  exact hDecided.bind fun conditions hConditions hTaken =>
    exists_page_of_conditions hLogged hConditions hTaken hOffset hLimit

/-- A query whose exact fields are texts is answered with a page unless there is trouble with one
of its bounds, and the first trouble decides the failure, whatever the tables hold. A query that
is manageable fails as malformed only. The other failures of a query that consists of a `Value`
are those of an integer that is too large for a number, of a comparison that cannot be looked up,
of a report with an integer that has too many digits, and of a time past the calendar. Such a
time is written with the last year, and the end of the last day is one. A value of a kind that
`Value` leaves out, such as a decimal number or a window on bytes that can be changed, may fail
in other ways. -/
theorem query_failures_exact (supply : Identifier.Supply) (steps : List Step) (channel : String)
    (entries : Mapping) (offset limit : Int) (hTexts : HasExactTexts entries)
    (hOffset : Number.fitsWord offset = true) (hLimit : Number.fitsWord limit = true) :
    let answer :=
      (((empty supply).run steps).readMessages (.text channel) ⟨some offset, some limit⟩
        (.map entries)).answer
    DecidedByFirst answer (fun page => page.offset = offset ∧ page.limit = limit)
      (Filter.Query.troubles entries) ∧
    (IsManageable entries →
      (∃ page, answer = .ok page) ∨
        ∃ failure, answer = .error failure ∧ failure.kind? = some .malformed) ∧
    (∀ raw, LiesPast raw → ∃ text ∈ Filter.dateText? raw, Calendar.IsOfLastYear text) ∧
    ∀ zone, LiesPast (.text (Filter.endOfDay .last zone)) := by
  intro answer
  have hLogged : ((empty supply).run steps).Logged := (Logged.empty supply).run steps
  have hDecided := readMessages_decided channel hLogged hTexts hOffset hLimit
  refine ⟨hDecided, fun hManageable => ?_, fun _ => LiesPast.exists_isOfLastYear,
    Filter.liesPast_endOfDay⟩
  rcases hDecided.ok_or_error with ⟨page, hPage, -⟩ | ⟨trouble, hMem, hHolds, hFailed⟩
  · exact Or.inl ⟨page, hPage⟩
  · exact Or.inr ⟨trouble.failure, hFailed, malformed_of_manageable hManageable trouble hMem hHolds⟩

/-- A sum that is too large, the end of the last day and a list for a comparison are not reported as
malformed. A word for a time is. -/
theorem query_failures_exact_past_the_end :
    let read (entries : Mapping) :=
      ((empty.run metered).readMessages (.text "c") ⟨some 0, some 10⟩ (.map entries)).answer
    read [(.text "valueSum", .int (2 ^ 1024 : Nat))] = .error .outOfRange ∧
    read [(.text "from", .text "9999-12-31T24:00:00Z")] = .error .outOfRange ∧
    read [(.text "comparator", .list [.null]), (.text "value", .int 1)] =
      .error .comparatorNotComparable ∧
    ((∃ page, read [(.text "to", .text "soon")] = .ok page) ∨
      ∃ failure, read [(.text "to", .text "soon")] = .error failure ∧
      failure.kind? = some .malformed) := by
  have hNone {entries : Mapping}
      (hNone : ∀ field : Filter.ExactField, Mapping.value? entries (.text field.key) = none) :
      HasExactTexts entries := fun field raw hRaw => by
    rw [hNone field] at hRaw
    cases hRaw
  obtain ⟨hSum, -⟩ :=
    query_failures_exact .counting metered "c" [(.text "valueSum", .int (2 ^ 1024 : Nat))] 0 10
    (hNone (by rintro (_ | _ | _) <;> rfl)) rfl rfl
  obtain ⟨hFrom, -, -, hEnd⟩ :=
    query_failures_exact .counting metered "c" [(.text "from", .text "9999-12-31T24:00:00Z")] 0 10
    (hNone (by rintro (_ | _ | _) <;> rfl)) rfl rfl
  obtain ⟨hValue, -⟩ := query_failures_exact .counting metered "c"
    [(.text "comparator", .list [.null]), (.text "value", .int 1)] 0 10
      (hNone (by rintro (_ | _ | _) <;> rfl)) rfl rfl
  obtain ⟨-, hTo, -⟩ := query_failures_exact .counting metered "c" [(.text "to", .text "soon")] 0 10
    (hNone (by rintro (_ | _ | _) <;> rfl)) rfl rfl
  have hOnly (key : String) : ∀ raw ∈ Mapping.value? [(.text "to", .text "soon")] (.text key),
      raw = .text "soon" := by
    intro raw hRaw
    obtain ⟨entry, hFound, rfl⟩ := Option.map_eq_some_iff.mp hRaw
    rw [List.mem_singleton.mp (List.mem_of_find?_eq_some hFound)]
  refine ⟨hSum.1 ⟨_, rfl, ?_⟩, (hFrom.2 nofun).1 ⟨?_, hEnd .universal⟩, hValue.1 ⟨?_, rfl⟩,
    hTo ⟨?_, ?_, ?_, ?_⟩⟩
  · rw [Int.natAbs_natCast]
    exact Nat.sub_le _ _
  · rintro (_ | _ | _ | hRead | _)
    exact absurd hRead (by decide)
  · rintro ⟨comparison, hMissing | ⟨hName, hBlank⟩ | ⟨hName, -⟩⟩
    · cases hMissing
    · cases hName
      cases hBlank
    · cases hName
  · intro key _ raw hRaw
    rw [hOnly key raw hRaw]
    nofun
  · intro key _ raw hRaw
    rw [hOnly key raw hRaw]
    rintro ⟨_, ⟨⟩, hPast⟩
    exact absurd hPast (by decide)
  · intro key _ raw hRaw
    rw [hOnly key raw hRaw]
    rfl
  · rintro _ ⟨⟩

end Store

end DeviceRegistry
