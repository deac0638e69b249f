import DeviceRegistry.Proofs.Filter.Query
import DeviceRegistry.Proofs.Store.Listing

/-! Reading a channel with a query. The pages show the messages on the channel that have all that
the query asks for, and count them. The numbers that are stored are numbers, so that each of them is
less than, equal to or greater than the one that is asked for. -/
namespace DeviceRegistry

open DeviceRegistry.Filter (Comparison Sought)
open DeviceRegistry.Filter.Query (Agree Asks Chooses IsPassedOver IsUnderstood)

theorem Message.hasNumbers_of_stored? {message kept : Message}
    (hKept : message.stored? = some kept) :
    kept.HasNumbers := by
  have hNumber {x : Option Binary64} {y : Binary64} (hy : y ∈ x.bind Binary64.stored?) :
      y.isNaN = false := by
    obtain ⟨z, -, hz⟩ := Option.bind_eq_some_iff.mp hy
    obtain ⟨hNumber, rfl⟩ := Binary64.stored?_eq_some_iff.mp hz
    rw [Binary64.isNaN_withoutSignOfZero, hNumber]
  obtain ⟨time, hTime, rfl⟩ := Option.map_eq_some_iff.mp hKept
  exact ⟨hNumber (x := some message.time) hTime, fun _ => hNumber, fun _ => hNumber⟩

namespace Store

def HasNumbers (store : Store) : Prop := ∀ row ∈ store.messages, row.message.HasNumbers

namespace HasNumbers

variable {store : Store}

theorem empty (supply : Identifier.Supply) : (Store.empty supply).HasNumbers := nofun

theorem saveMessages (hNumbers : store.HasNumbers) (messages : List Message)
    (injected : Option EngineError) :
    (store.saveMessages messages injected).store.HasNumbers := by
  unfold Store.saveMessages
  cases injected with
  | some error => exact hNumbers
  | none =>
      cases hKept : messages.mapM Message.stored? with
      | none => exact hNumbers
      | some kept =>
          intro row hRow
          rcases List.mem_append.mp hRow with hOld | hNew
          · exact hNumbers row hOld
          · obtain ⟨⟨message, number⟩, hMem, rfl⟩ := List.mem_map.mp hNew
            obtain ⟨_, -, hStored⟩ :=
              exists_mem_of_forall₂ (Message.mapM_stored?_eq_some_iff.mp hKept).flip
              (List.fst_mem_of_mem_zipIdx hMem)
            exact Message.hasNumbers_of_stored? hStored

theorem perform (hNumbers : store.HasNumbers) (step : Step) :
    (store.perform step).store.HasNumbers := by
  obtain ⟨operation, injected⟩ := step
  cases operation with
  | saveMessages batch =>
      simp only [Store.perform, withChecked]
      cases (checkedBatch batch).orFail with
      | error failure => exact hNumbers
      | ok messages => exact hNumbers.saveMessages messages injected
  | _ =>
      rw [HasNumbers, messages_perform_of_other _ _ rfl]
      exact hNumbers

/-- Runs store no value that is not a number. -/
theorem run (hNumbers : store.HasNumbers) (steps : List Step) : (store.run steps).HasNumbers := by
  induction steps generalizing store with
  | nil => exact hNumbers
  | cons step steps ih => exact ih (hNumbers.perform step)

end HasNumbers

def rowsSought (store : Store) (channel : String) (sought : Sought) : List MessageRow :=
  store.messages.filter fun row => row.message.channel = channel ∧ sought.IsMetBy row.message

/-- A read of a channel shows the messages of some rows in every window of sixty-four bits, and
counts all rows. -/
def Shows (store : Store) (channel : String) (entries : Mapping) (rows : List MessageRow) : Prop :=
  ∀ offset limit, Number.fitsWord offset = true → Number.fitsWord limit = true →
    (store.readMessages (.text channel) ⟨some offset, some limit⟩ (.map entries)).answer =
      .ok ⟨rows.length, offset, limit, (rowsIn offset limit rows).map MessageRow.message⟩

variable {store : Store} {channel : String} {entries : Mapping} {sought : Sought}

/-- The rows that are selected are those that have all that is asked for. -/
theorem messagesSelected_perm (hNumbers : store.HasNumbers) (hSought : sought.HasNumbers)
    (channel : String) :
    (store.messagesSelected (.text channel) sought.conditions).Perm
      (store.rowsSought channel sought) := by
  have hSame : ∀ row ∈ store.messages, ((Value.text channel).equalsText row.message.channel &&
      sought.conditions.all fun condition => condition.holds row.message) =
      decide (row.message.channel = channel ∧ sought.IsMetBy row.message) := by
    intro row hRow
    rw [Value.equalsText_text, Bool.eq_iff_iff, Bool.and_eq_true, decide_eq_true_eq,
      decide_eq_true_eq, List.all_eq_true, ← Sought.isMetBy_iff_holds hSought
        (hNumbers row hRow), eq_comm]
  rw [rowsSought, ← List.filter_congr hSame]
  exact orderedBy_perm _ _

/-- A channel is read as the query asks. -/
theorem exists_shows (hLogged : store.Logged) (hNumbers : store.HasNumbers)
    (hAsks : Asks entries sought) (channel : String) :
    ∃ rows, rows.Perm (store.rowsSought channel sought) ∧ rows.Pairwise MessageRow.Precedes ∧
      store.Shows channel entries rows := by
  have hTaken : Cell.AreTaken ((Value.text channel).comparisonParameters ++
      sought.conditions.flatMap Filter.MessageCondition.parameters) :=
    (Cell.areTaken_append _ _).mpr ⟨Cell.areTaken_texts [channel], sought.areTaken_parameters⟩
  have hLists := lists_messagesSelected hLogged (Filter.Query.conditions_of_asks hAsks) hTaken
  refine ⟨_, messagesSelected_perm hNumbers hAsks.hasNumbers channel, hLists.order, ?_⟩
  intro offset limit hOffset hLimit
  rw [hLists.page offset limit hOffset hLimit, mapM_toMessage]
  rfl

/-- Whatever is shown meets the conditions of the query. -/
theorem holds_of_mem_items {channelId query : Value} {window : Window} {page : Page Message}
    (hPage : (store.readMessages channelId window query).answer = .ok page) :
    ∃ conditions, Filter.Query.conditions query = .ok conditions ∧
      ∀ message ∈ page.items, ∀ condition ∈ conditions, condition.holds message = true := by
  rw [readMessages] at hPage
  cases hConditions : Filter.Query.conditions query with
  | error failure =>
      rw [hConditions] at hPage
      cases hPage
  | ok conditions =>
      rw [hConditions] at hPage
      obtain ⟨cells, -, hPage⟩ := bind_ok_iff.mp hPage
      obtain ⟨-, -, offset, limit, rfl⟩ := pageOf_eq_ok hPage
      rw [pageOf_eq fun row _ => ⟨row, rfl⟩] at hPage
      obtain ⟨items, hItems, rfl⟩ := map_ok_iff.mp hPage
      refine ⟨conditions, rfl, fun message hMessage => ?_⟩
      obtain ⟨row, hRow, hShown⟩ := exists_mem_of_forall₂ (mapM_ok_iff.mp hItems).flip hMessage
      have hSelected := (orderedBy_perm _ _).mem_iff.mp (mem_of_mem_rowsIn hRow)
      have hHolds := (Bool.and_eq_true_iff.mp (List.mem_filter.mp hSelected).2).2
      cases hShown
      exact List.all_eq_true.mp hHolds

/-- A query with a number to compare with shows no message without a number. -/
theorem isSome_of_mem_items {window : Window} {page : Page Message}
    (hValue : (Mapping.value? entries (.text "value")).isSome = true)
    (hPage : (store.readMessages (.text channel) window (.map entries)).answer = .ok page) :
    ∀ message ∈ page.items, message.value.isSome = true := by
  obtain ⟨conditions, hConditions, hHolds⟩ := holds_of_mem_items hPage
  obtain ⟨chosen, bound, -, hMem⟩ := Filter.Query.exists_value_condition hConditions hValue
  intro message hMessage
  obtain ⟨x, hx, -⟩ := Option.any_eq_true _ _ |>.mp (hHolds message hMessage _ hMem)
  exact Option.isSome_of_mem hx

/-- A query with a number to compare with fails if it chooses no comparison. -/
theorem exists_failure_of_not_chooses (store : Store)
    (hValue : (Mapping.value? entries (.text "value")).isSome = true)
    (hUnchosen : ∀ comparison, ¬ Chooses entries comparison) (channel : String) (window : Window) :
    ∃ failure, (store.readMessages (.text channel) window (.map entries)).answer =
      .error failure := by
  rw [readMessages]
  cases hConditions : Filter.Query.conditions (.map entries) with
  | error failure => exact ⟨failure, rfl⟩
  | ok conditions =>
      obtain ⟨chosen, -, hChosen, -⟩ := Filter.Query.exists_value_condition hConditions hValue
      exact absurd hChosen (hUnchosen chosen)

/-- Queries that agree are answered alike. -/
theorem readMessages_of_agree {other : Mapping} (hAgree : Agree entries other) (store : Store)
    (channelId : Value) (window : Window) :
    store.readMessages channelId window (.map entries) =
      store.readMessages channelId window (.map other) := by
  rw [readMessages, readMessages, Filter.Query.conditions_of_agree hAgree]

section Comparisons

/-- What is one thing or another, and never both, is counted with each of them. -/
theorem countP_of_split {α : Type} {whole first second : α → Bool} {items : List α}
    (hWhole : ∀ item, whole item = true ↔ first item = true ∨ second item = true)
    (hApart : ∀ item, ¬ (first item = true ∧ second item = true)) :
    items.countP whole = items.countP first + items.countP second := by
  induction items with
  | nil => rfl
  | cons item items ih =>
      have hItem := hWhole item
      have hOne := hApart item
      simp only [List.countP_cons, ih]
      split_ifs <;> first | omega | simp_all

def stands (comparison : Comparison) (x : Binary64) (row : MessageRow) : Bool :=
  row.message.value.any fun y => comparison.Relates y x

variable (x : Binary64)

theorem stands_iff {comparison : Comparison} {row : MessageRow} :
    stands comparison x row = true ↔ ∃ y ∈ row.message.value, comparison.Relates y x := by
  simp [stands, Option.any_eq_true]

theorem rowsSought_value (store : Store) (channel : String) (sought : Sought)
    (comparison : Comparison) :
    store.rowsSought channel { sought with value := some (comparison, x) } =
      (store.rowsSought channel { sought with value := none }).filter (stands comparison x) := by
  rw [rowsSought, rowsSought, List.filter_filter]
  refine List.filter_congr fun row _ => ?_
  rw [Bool.eq_iff_iff, Bool.and_eq_true, decide_eq_true_eq, decide_eq_true_eq,
    Sought.isMetBy_value_iff, stands_iff]
  exact and_assoc.symm.trans and_comm

/-- Messages whose numbers are in one of two relations are counted with each of them. -/
theorem countP_stands {whole first second : Comparison}
    (hWhole : ∀ y, whole.Relates y x ↔ first.Relates y x ∨ second.Relates y x)
    (hApart : ∀ y, ¬ (first.Relates y x ∧ second.Relates y x)) (rows : List MessageRow) :
    rows.countP (stands whole x) = rows.countP (stands first x) + rows.countP
      (stands second x) := by
  refine countP_of_split (fun row => ?_) fun row => ?_
  · rw [stands, stands, stands]
    cases row.message.value with
    | none => simp
    | some y => simpa using hWhole y
  · rw [stands, stands]
    cases row.message.value with
    | none => simp
    | some y => simpa using hApart y

/-- What is less or equal is less, or it is equal. -/
theorem countP_lessOrEqual (rows : List MessageRow) :
    rows.countP (stands .lessOrEqual x) = rows.countP (stands .less x) + rows.countP
      (stands .equal x) := by
  refine countP_stands x (fun y => ?_) (fun y => ?_) rows
  · exact le_iff_lt_or_eq
  · exact fun hBoth => hBoth.1.ne hBoth.2

theorem countP_greaterOrEqual (rows : List MessageRow) :
    rows.countP (stands .greaterOrEqual x) = rows.countP (stands .greater x) + rows.countP
      (stands .equal x) := by
  refine countP_stands x (fun y => ?_) (fun y => ?_) rows
  · exact le_iff_lt_or_eq.trans (or_congr_right eq_comm)
  · exact fun hBoth => hBoth.1.ne' hBoth.2

/-- Every number is at most another one or greater than it. -/
theorem countP_isSome (rows : List MessageRow) :
    rows.countP (·.message.value.isSome) =
      rows.countP (stands .lessOrEqual x) + rows.countP (stands .greater x) := by
  refine countP_of_split (fun row => ?_) fun row => ?_
  · rw [stands, stands]
    cases row.message.value with
    | none => simp
    | some y =>
        simp only [Option.isSome_some, Option.any_some, decide_eq_true_eq, true_iff]
        exact le_or_gt y.place x.place
  · rw [stands, stands]
    cases row.message.value with
    | none => simp
    | some y =>
        simp only [Option.any_some, decide_eq_true_eq]
        exact fun hBoth => absurd hBoth.1 (not_le.mpr hBoth.2)

end Comparisons

def counted (store : Store) (channel : String) (entries : Mapping) : Except Failure Nat :=
  (store.readMessages (.text channel) ⟨some 0, some (-1)⟩ (.map entries)).answer.map Page.total

/-- A query counts the messages that have all that it asks for. -/
theorem counted_of_asks (hLogged : store.Logged) (hNumbers : store.HasNumbers)
    (hAsks : Asks entries sought) (channel : String) :
    store.counted channel entries = .ok (store.rowsSought channel sought).length := by
  obtain ⟨rows, hRows, -, hShows⟩ := exists_shows hLogged hNumbers hAsks channel
  rw [counted, hShows 0 (-1) rfl rfl, ← hRows.length_eq]
  rfl

/-- A query shows exactly the messages on a channel that have all that it asks for, and counts them.
After every run this holds for each query whose exact fields are texts and whose bounds are read as
numbers, unless it has a number to compare with and names no comparison: then it fails. Messages
without a number are never shown where there is a number to compare with. Entries that are passed
over and the order of entries do not matter. For every number the messages that carry a smaller, an
equal and a greater one are all that carry any, and the two other comparisons count the equal ones
with the smaller and with the greater ones. -/
theorem message_query_exact (supply : Identifier.Supply) (steps : List Step) (channel : String) :
    let store := (empty supply).run steps
    let read (window : Window) (entries : Mapping) :=
      store.readMessages (.text channel) window (.map entries)
    (∀ window, store.readMessages (.text channel) window .null = read window []) ∧
    (∀ entries sought, Asks entries sought → ∃ rows, rows.Perm (store.rowsSought channel sought) ∧
      rows.Pairwise MessageRow.Precedes ∧ store.Shows channel entries rows) ∧
    (∀ entries, IsUnderstood entries →
      ((Mapping.value? entries (.text "value")).isSome = true →
        ∃ comparison, Chooses entries comparison) →
      ∃ sought, Asks entries sought) ∧
    (∀ window entries, (Mapping.value? entries (.text "value")).isSome = true →
      (∀ comparison, ¬ Chooses entries comparison) →
      ∃ failure, (read window entries).answer = .error failure) ∧
    (∀ window entries page, (Mapping.value? entries (.text "value")).isSome = true →
      (read window entries).answer = .ok page →
      ∀ message ∈ page.items, message.value.isSome = true) ∧
    (∀ window key raw before after, IsPassedOver (before ++ after) key →
      read window (before ++ (key, raw) :: after) = read window (before ++ after)) ∧
    (∀ window entries other, entries.Perm other →
      (entries.Pairwise fun first second => first.1.equals second.1 = false) →
      read window entries = read window other) ∧
    ∀ (sought : Sought) (x : Binary64) (asking : Comparison → Mapping),
      (∀ comparison, Asks (asking comparison) { sought with value := some (comparison, x) }) →
      ∃ less equal greater,
        store.counted channel (asking .less) = .ok less ∧
        store.counted channel (asking .equal) = .ok equal ∧
        store.counted channel (asking .greater) = .ok greater ∧
        less + equal + greater =
          (store.rowsSought channel { sought with value := none }).countP (·.message.value.isSome) ∧
        store.counted channel (asking .lessOrEqual) = .ok (less + equal) ∧
        store.counted channel (asking .greaterOrEqual) = .ok (greater + equal) := by
  intro store read
  have hLogged : store.Logged := (Logged.empty supply).run steps
  have hNumbers : store.HasNumbers := (HasNumbers.empty supply).run steps
  refine ⟨fun _ => rfl, fun entries sought hAsks => exists_shows hLogged hNumbers hAsks channel,
    fun entries => Filter.Query.exists_asks,
    fun window entries hValue hUnchosen =>
      exists_failure_of_not_chooses store hValue hUnchosen channel window,
    fun window entries page hValue hPage => isSome_of_mem_items hValue hPage,
    fun window key raw before after hPassed =>
      readMessages_of_agree (Filter.Query.agree_insert hPassed raw) store (.text channel) window,
    fun window entries other hPerm hKeys =>
      readMessages_of_agree (Filter.Query.agree_perm hPerm hKeys) store (.text channel) window,
    fun sought x asking hAsks => ?_⟩
  have hCounted (comparison : Comparison) : store.counted channel (asking comparison) =
      .ok ((store.rowsSought channel { sought with value := none }).countP
        (stands comparison x)) := by
    rw [counted_of_asks hLogged hNumbers (hAsks comparison), rowsSought_value,
      ← List.countP_eq_length_filter]
  generalize store.rowsSought channel { sought with value := none } = rows at hCounted ⊢
  have hAtMost := countP_lessOrEqual x rows
  have hAtLeast := countP_greaterOrEqual x rows
  have hAll := countP_isSome x rows
  refine ⟨_, _, _, hCounted .less, hCounted .equal, hCounted .greater, ?_, ?_, ?_⟩
  · rw [hAll, hAtMost]
  · rw [hCounted, hAtMost]
  · rw [hCounted, hAtLeast]

def metered : List Step :=
  let message (publisher : String) (value : Value) : Mapping :=
    [(.text "channel", .text "c"), (.text "publisher", .text publisher),
      (.text "protocol", .text "mqtt"), (.text "time", .real .zero), (.text "value", value)]
  [⟨.saveMessages [message "a" (.real .zero), message "b" (.real (.infinity false)),
    message "d" .null], none⟩]

/-- The messages are asked for numbers in a relation to zero. One name of a relation is unknown, one
query has an entry that is passed over, and one has its entries the other way round. -/
theorem message_query_exact_metered :
    let store := empty.run metered
    let read (entries : Mapping) := store.readMessages (.text "c") ⟨some 0, some 1⟩ (.map entries)
    let asking (name : String) : Mapping :=
      [(.text "comparator", .text name), (.text "value", .real .zero)]
    (∃ rows, rows.map (·.message.publisher) = ["b"] ∧ store.Shows "c" (asking "gt") rows) ∧
    (∃ less equal greater, store.counted "c" (asking "<") = .ok less ∧
      store.counted "c" (asking "=") = .ok equal ∧
      store.counted "c" (asking ">") = .ok greater ∧ less + equal + greater = 2 ∧
      store.counted "c" (asking "<=") = .ok (less + equal) ∧
      store.counted "c" (asking ">=") = .ok (greater + equal)) ∧
    (∃ failure, (read (asking "like")).answer = .error failure) ∧
    read ((.text "colour", .text "blue") :: asking ">") = read (asking ">") ∧
    read [(.text "value", .real .zero), (.text "comparator", .text ">")] = read (asking ">") := by
  intro store read asking
  obtain ⟨-, hShown, -, hUnknown, -, hPassed, hOrder, hCounted⟩ :=
    message_query_exact .counting metered "c"
  have hAsks (name : String) (comparison : Comparison)
      (hNamed : (name, comparison) ∈ Comparison.names) :
      Asks (asking name) { value := some (comparison, .zero) } :=
    ⟨.none, .none, .none, .none, .none, .some ⟨.named rfl hNamed, rfl, rfl⟩, .none⟩
  obtain ⟨rows, hRows, -, hShows⟩ := hShown _ _ (hAsks "gt" .greater (by decide))
  have hUnnamed : ∀ comparison, ¬ Chooses (asking "like") comparison := by
    intro comparison hChooses
    cases hChooses with
    | missing hName => cases hName
    | blank hName hBlank =>
        cases hName
        cases hBlank
    | named hName hNamed =>
        cases hName
        revert hNamed
        cases comparison <;> decide
  have hNumbers := hCounted {} .zero (fun comparison => asking comparison.sign) fun comparison =>
    hAsks _ _ comparison.sign_mem_names
  have hPublisher : (store.rowsSought "c" { value := some (.greater, .zero) }).map
    (·.message.publisher) = ["b"] := rfl
  refine ⟨⟨rows, ?_, hShows⟩, hNumbers, hUnknown ⟨some 0, some 1⟩ _ rfl hUnnamed, ?_, ?_⟩
  · rw [← List.perm_singleton, ← hPublisher]
    exact hRows.map _
  · exact hPassed ⟨some 0, some 1⟩ (.text "colour") (.text "blue") [] (asking ">")
      (Or.inl (by simp [Filter.Query.keys]))
  · exact hOrder ⟨some 0, some 1⟩ _ _ (.swap _ _ _) (List.pairwise_pair.mpr rfl)

end Store

end DeviceRegistry
