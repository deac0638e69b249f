import DeviceRegistry.Proofs.Filter.Containment
import DeviceRegistry.Proofs.Store.Listing

/-! When listings with a filter are answered. The storage engine reads the metadata of every row of
the owner that it searches, and one row that it cannot read fails the listing as a whole. Rows that
it cannot read are those that were saved with a real that is written by a name. -/
namespace DeviceRegistry

/-- The cell holds the text of metadata that is written with digits throughout. -/
def Metadata.IsReadable (cell : Cell) : Prop :=
  ∃ entries text, encode (.map entries) = .ok text ∧ cell = .text text ∧
    (Value.map entries).Throughout Value.HasDigits

namespace EntityFilter

/-- The conditions of the search neither lie too deep inside each other nor are too many of
them joined. -/
def IsCountable (filter : EntityFilter) : Prop :=
  filter.nesting ≤ maxCountedNesting ∧ filter.height ≤ maxHeight

def searchErrors : List EngineError := [.malformedDocument, .nestedTooDeep, .joinedTooHigh]

section Documents

open Metadata (IsDocument IsReadable)

variable {cell : Cell}

/-- Stored metadata is read by the storage engine exactly where it is written with digits. -/
theorem documentOf_isOk_iff {entries : Mapping} {text : String}
    (hEncoded : Metadata.encode (.map entries) = .ok text) :
    (∃ document, documentOf (.text text) = .ok (some document)) ↔
      (Value.map entries).Throughout Value.HasDigits := by
  rw [← Metadata.document?_isSome_iff (Metadata.written_of_encode hEncoded)]
  simp only [documentOf]
  cases Metadata.document? (Text.symbols text.toList) with
  | none =>
      refine iff_of_false ?_ Bool.false_ne_true
      rintro ⟨document, hRead⟩
      cases hRead
  | some document => exact iff_of_true ⟨document, rfl⟩ rfl

/-- A document is readable and read, or neither. -/
theorem documentOf_cases (hDocument : IsDocument cell) :
    (IsReadable cell ∧ ∃ document, documentOf cell = .ok (some document)) ∨
      ¬ IsReadable cell ∧ documentOf cell = .error (.engine .malformedDocument) := by
  obtain ⟨entries, text, hEncoded, rfl⟩ := hDocument
  by_cases hDigits : (Value.map entries).Throughout Value.HasDigits
  · exact Or.inl ⟨⟨entries, text, hEncoded, rfl, hDigits⟩,
      (documentOf_isOk_iff hEncoded).mpr hDigits⟩
  · refine Or.inr ⟨?_, ?_⟩
    · rintro ⟨others, same, hOthers, hSame, hOthersDigits⟩
      cases hSame
      exact hDigits
        ((documentOf_isOk_iff hEncoded).mp ((documentOf_isOk_iff hOthers).mpr hOthersDigits))
    · have hUnread := mt (documentOf_isOk_iff hEncoded).mp hDigits
      simp only [documentOf] at hUnread ⊢
      cases hRead : Metadata.document? (Text.symbols text.toList) with
      | none => rfl
      | some document =>
          rw [hRead] at hUnread
          exact absurd ⟨document, rfl⟩ hUnread

/-- A row is tested unless it is a row of the owner whose metadata is not read. -/
theorem selects_cases (hDocument : IsDocument cell) (part : Filter.MetadataPart)
    (owner rowOwner rowName : String) :
    let filter : EntityFilter := ⟨none, some part⟩
    ((rowOwner = owner → IsReadable cell) ∧
      ∃ selected, filter.selects (.text owner) rowOwner rowName cell = .ok selected) ∨
    ¬ (rowOwner = owner → IsReadable cell) ∧
      filter.selects (.text owner) rowOwner rowName cell = .error (.engine .malformedDocument) := by
  intro filter
  by_cases hOwner : rowOwner = owner
  · have hSelects : filter.selects (.text owner) rowOwner rowName cell =
        (documentOf cell).map fun document => document.any part.selects := by
      simp only [selects, hOwner, Value.equalsText_text, decide_true, if_true]
      rfl
    rw [hSelects]
    rcases documentOf_cases hDocument with ⟨hReadable, document, hRead⟩ | ⟨hUnreadable, hUnread⟩
    · exact Or.inl ⟨fun _ => hReadable, _, by rw [hRead]; rfl⟩
    · exact Or.inr ⟨fun hReadable => hUnreadable (hReadable hOwner), by rw [hUnread]; rfl⟩
  · refine Or.inl ⟨fun hSame => absurd hSame hOwner, false, ?_⟩
    simp [selects, Ne.symm hOwner]
    rfl

end Documents

/-- A filter is searched, or it is not countable and fails. -/
theorem expectSearchable_cases (filter : EntityFilter) :
    filter.expectSearchable = .ok () ∨
      ¬ filter.IsCountable ∧ ∃ error ∈ searchErrors,
        filter.expectSearchable = .error (.engine error) := by
  rw [expectSearchable, IsCountable]
  split
  · rename_i hDeep
    refine Or.inr ⟨fun hCountable => ?_, .nestedTooDeep, by simp [searchErrors], rfl⟩
    have := hCountable.1
    rw [maxNesting] at hDeep
    rw [maxCountedNesting] at this
    omega
  · split
    · rename_i hHigh
      exact Or.inr ⟨fun hCountable => absurd hCountable.2 (Nat.not_le.mpr hHigh), .joinedTooHigh,
        by simp [searchErrors], rfl⟩
    · exact Or.inl rfl

/-- A filter that is searched fails to be counted exactly if it is not countable. -/
theorem expectCountable_cases {filter : EntityFilter}
    (hSearchable : filter.expectSearchable = .ok ()) :
    filter.IsCountable ∧ filter.expectCountable = .ok () ∨
      ¬ filter.IsCountable ∧ filter.expectCountable = .error (.engine .nestedTooDeep) := by
  have hHeight : filter.height ≤ maxHeight := by
    rw [expectSearchable] at hSearchable
    split at hSearchable
    · cases hSearchable
    · split at hSearchable
      · cases hSearchable
      · exact Nat.not_lt.mp ‹_›
  rw [expectCountable, IsCountable]
  split
  · rename_i hDeep
    exact Or.inr ⟨fun hCountable => absurd hCountable.1 (Nat.not_le.mpr hDeep), rfl⟩
  · exact Or.inl ⟨⟨Nat.not_lt.mp ‹_›, hHeight⟩, rfl⟩

end EntityFilter

/-- The listing is answered with a page under the condition, and otherwise with an error of the
storage engine. -/
def IsAnsweredIff {α : Type} (answer : Except Failure (Page α)) (condition : Prop) : Prop :=
  (condition ∧ ∃ page, answer = .ok page) ∨
    ¬ condition ∧ ∃ error ∈ EntityFilter.searchErrors, answer = .error (.engine error)

section Search

variable {ρ Loaded α : Type}

/-- Rows are selected unless the test fails for one of them. -/
theorem selectedRows_cases (test : ρ → Except Failure Bool) (rows : List ρ) :
    ((∀ row ∈ rows, ∃ selected, test row = .ok selected) ∧ ∃ selected,
      selectedRows test rows = .ok selected) ∨
      ∃ row ∈ rows, ∃ failure,
        test row = .error failure ∧ selectedRows test rows = .error failure := by
  induction rows with
  | nil => exact Or.inl ⟨by simp, [], rfl⟩
  | cons row rows ih =>
      rw [selectedRows]
      cases hTest : test row with
      | error failure => exact Or.inr ⟨row, List.mem_cons_self, failure, hTest, rfl⟩
      | ok isSelected =>
          rcases ih with ⟨hTests, selected, hSelected⟩ | ⟨other, hOther, failure,
            hFailed, hSelected⟩
          · refine Or.inl ⟨List.forall_mem_cons.mpr ⟨⟨_, hTest⟩, hTests⟩, ?_⟩
            rw [hSelected]
            exact ⟨_, rfl⟩
          · refine Or.inr ⟨other, List.mem_cons_of_mem _ hOther, failure, hFailed, ?_⟩
            rw [hSelected]
            rfl

variable {load : ρ → Except Failure Loaded} {convert : Loaded → Except Failure α}

/-- Rows that are found and can be counted are shown, and otherwise what keeps them from
that is reported. -/
theorem isAnsweredIff_pageOf {rows : Except Failure (List ρ)} {countable : Except Failure Unit}
    {isCountable isReadable : Prop} (offset limit : Int)
    (hRows : isReadable ∧ (∃ all, rows = .ok all) ∨ ¬ isReadable ∧
      rows = .error (.engine .malformedDocument))
    (hCountable : isCountable ∧ countable = .ok () ∨ ¬ isCountable ∧
      countable = .error (.engine .nestedTooDeep))
    (hShown : ∀ all, rows = .ok all → ∀ row ∈ all, ∃ item, (load row >>= convert) = .ok item) :
    IsAnsweredIff (pageOf rows countable ⟨some offset, some limit⟩ load convert)
      (isCountable ∧ isReadable) := by
  rcases pageOf_cases countable offset limit hShown with
    ⟨all, page, hAll, hCounted, hPage⟩ | ⟨failure, hFailed, hPage⟩
  · rw [hAll] at hRows
    rw [hCounted] at hCountable
    obtain ⟨hReadable, -⟩ := hRows.resolve_right fun hUnread => nomatch hUnread.2
    obtain ⟨hCounts, -⟩ := hCountable.resolve_right fun hUncounted => nomatch hUncounted.2
    exact Or.inl ⟨⟨hCounts, hReadable⟩, page, hPage⟩
  · rw [hPage]
    rcases hFailed with hUnread | hUncounted
    · rw [hUnread] at hRows
      obtain ⟨hUnreadable, hMalformed⟩ := hRows.resolve_left fun hRead => nomatch hRead.2
      cases hMalformed
      exact Or.inr ⟨fun hBoth => hUnreadable hBoth.2,
        .malformedDocument, by simp [EntityFilter.searchErrors], rfl⟩
    · rw [hUncounted] at hCountable
      obtain ⟨hUncountable, hDeep⟩ := hCountable.resolve_left fun hCounted => nomatch hCounted.2
      cases hDeep
      exact Or.inr ⟨fun hBoth => hUncountable hBoth.1,
        .nestedTooDeep, by simp [EntityFilter.searchErrors], rfl⟩

end Search

namespace EntityTable

variable {Row Entity : Type} {table : EntityTable Row Entity} {store : Store}
  (hDocuments : ∀ row ∈ table.rows store, Metadata.IsDocument (table.metadata row))

include hDocuments

/-- Rows are selected where the metadata of the owner is readable. -/
theorem selected_cases (part : Filter.MetadataPart) (owner : String) :
    let isReadable :=
      ∀ row ∈ table.rows store, table.owner row = owner → Metadata.IsReadable (table.metadata row)
    let selected := table.selected store (.text owner) ⟨none, some part⟩
    (isReadable ∧ ∃ rows, selected = .ok rows) ∨
      ¬ isReadable ∧ selected = .error (.engine .malformedDocument) := by
  intro isReadable selected
  have hCases (row : Row) (hRow : row ∈ table.rows store) :=
    EntityFilter.selects_cases (hDocuments row hRow) part owner (table.owner row) (table.name row)
  rcases selectedRows_cases
    (fun row => EntityFilter.selects ⟨none, some part⟩ (.text owner) (table.owner row)
      (table.name row) (table.metadata row)) (table.rows store) with
    ⟨hTests, rows, hSelected⟩ | ⟨row, hRow, failure, hFailed, hSelected⟩
  · refine Or.inl ⟨fun row hRow => ?_, orderedBy table.before rows,
      map_ok_iff.mpr ⟨rows, hSelected, rfl⟩⟩
    obtain ⟨isSelected, hTest⟩ := hTests row hRow
    rcases hCases row hRow with ⟨hReadable, -⟩ | ⟨-, hUnread⟩
    · exact hReadable
    · rw [hTest] at hUnread
      cases hUnread
  · rcases hCases row hRow with ⟨-, isSelected, hTest⟩ | ⟨hUnreadable, hUnread⟩
    · rw [hTest] at hFailed
      cases hFailed
    · rw [hUnread] at hFailed
      cases hFailed
      refine Or.inr ⟨fun hReadable => hUnreadable (hReadable row hRow), ?_⟩
      change (selectedRows _ _).map _ = _
      rw [hSelected]
      rfl

/-- A search is answered if its filter is countable and the metadata of the owner is readable. -/
theorem isAnsweredIff_list
    (hShown : ∀ row ∈ table.rows store, ∃ entity, table.shown row = .ok entity) {name : Value}
    (hName : name.isBlank = true) {filter : Mapping}
    (hFilter : (Value.map filter).Throughout Value.IsAskable) (hSome : filter ≠ [])
    {offset limit : Int} (hOffset : Number.fitsWord offset = true)
    (hLimit : Number.fitsWord limit = true) (owner : String) :
    IsAnsweredIff (table.list store (.text owner) ⟨some offset, some limit⟩ name (.map filter))
      (EntityFilter.IsCountable ⟨none, some ⟨filter⟩⟩ ∧
        ∀ row ∈ table.rows store, table.owner row = owner →
        Metadata.IsReadable (table.metadata row)) := by
  obtain ⟨parameters, hSought, hParameters⟩ := Filter.ofValues_eq_partOf hFilter name hName
  have hPart : Filter.partOf filter = some ⟨filter⟩ := if_neg (by simpa using hSome)
  have hTaken : Cell.AreTaken ((Value.text owner).comparisonParameters ++ parameters ++
      Window.parameters ⟨some offset, some limit⟩) :=
    (Cell.areTaken_append _ _).mpr
      ⟨(Cell.areTaken_append _ _).mpr ⟨Cell.areTaken_texts [owner], hParameters⟩,
        areTaken_window hOffset hLimit⟩
  obtain ⟨cells, hCells⟩ := (Cell.ofValues_isOk_iff _).mpr hTaken
  rw [list, hSought, hPart]
  change IsAnsweredIff (EntityFilter.expectSearchable ⟨none, some ⟨filter⟩⟩ >>= fun _ => _) _
  rcases EntityFilter.expectSearchable_cases ⟨none, some ⟨filter⟩⟩ with
    hSearchable | ⟨hUncountable, error, hError, hRefused⟩
  · rw [hSearchable]
    change IsAnsweredIff (Cell.ofValues _ >>= fun _ => _) _
    rw [hCells]
    refine isAnsweredIff_pageOf offset limit (selected_cases hDocuments ⟨filter⟩ owner)
      (EntityFilter.expectCountable_cases hSearchable) fun all hAll row hRow => ?_
    obtain ⟨selected, hSelected, rfl⟩ := map_ok_iff.mp hAll
    exact hShown row ((selectedRows_eq_ok hSelected).1.subset
      ((orderedBy_perm table.before selected).mem_iff.mp hRow))
  · rw [hRefused]
    exact Or.inr ⟨fun hBoth => hUncountable hBoth.1, error, hError, rfl⟩

end EntityTable

namespace Store

variable {store : Store}

/-- Listings with a filter are answered where all metadata of the owner is readable. After every
run, a listing with a filter that can be asked for gives a page exactly if the filter is neither
nested too deep nor joined of too many parts, and if the metadata of every thing, or channel, of the
owner is written with digits throughout. Otherwise it gives an error of the storage engine. Metadata
that is saved is read by the storage engine exactly where no real stands in it, at any depth, that
is not a number or is infinite. The storage engine is SQLite before 3.42: later ones read what is
not a number, and from 3.46 on no nesting is too deep. Its limit on the number of values that are
handed over is left out. -/
theorem filtered_listing_answered_iff (supply : Identifier.Supply) (steps : List Step)
    (hPlain : steps.all Step.isPlain = true) (owner : String) (name : Value)
    (hName : name.isBlank = true) (filter : Mapping)
    (hFilter : (Value.map filter).Throughout Value.IsAskable) (hSome : filter ≠ [])
    (offset limit : Int) (hOffset : Number.fitsWord offset = true)
    (hLimit : Number.fitsWord limit = true) :
    let store := (empty supply).run steps
    let window : Window := ⟨some offset, some limit⟩
    let isCountable := EntityFilter.IsCountable ⟨none, some ⟨filter⟩⟩
    IsAnsweredIff (store.listThings (.text owner) window name (.map filter))
      (isCountable ∧ ∀ row ∈ store.things, row.owner = owner → Metadata.IsReadable row.metadata) ∧
    IsAnsweredIff (store.listChannels (.text owner) window name (.map filter))
      (isCountable ∧ ∀ row ∈ store.channels, row.owner = owner → Metadata.IsReadable row.metadata) ∧
    ∀ (document : Mapping) (text : String), Metadata.encode (.map document) = .ok text →
      ((∃ read, EntityFilter.documentOf (.text text) = .ok (some read)) ↔
        (Value.map document).Throughout Value.HasDigits) := by
  intro store window isCountable
  have hDocumented : store.Documented := (Documented.empty supply).run steps
  have hKeys : store.HasTextKeys := (HasTextKeys.empty supply).run hPlain
  refine ⟨?_, ?_, fun document text => EntityFilter.documentOf_isOk_iff⟩
  · exact EntityTable.isAnsweredIff_list hDocumented.things
      (hDocumented.exists_shown_thing hKeys) hName hFilter
      hSome hOffset hLimit owner
  · exact EntityTable.isAnsweredIff_list hDocumented.channels
      hDocumented.exists_shown_channel hName hFilter
      hSome hOffset hLimit owner

/-- One of two owners saves metadata with a value that is not a number. -/
def spoiled : List Step :=
  let thing (n owner : String) (metadata : Mapping) : Mapping :=
    [(.text "id", .text ("00000000-0000-0000-0000-0000000000d" ++ n)), (.text "owner", .text owner),
      (.text "key", .text n), (.text "metadata", .map metadata)]
  [⟨.saveThing (thing "1" "ada" [(.text "a", .list [.real .nan])]), none⟩,
    ⟨.saveThing (thing "2" "ada" [(.text "b", .int 1)]), none⟩,
    ⟨.saveThing (thing "3" "bob" [(.text "b", .int 1)]), none⟩]

theorem filtered_listing_answered_iff_spoiled :
    let store := empty.run spoiled
    let filter : Mapping := [(.text "b", .int 1)]
    let window : Window := ⟨some 0, some 10⟩
    (Value.map filter).Throughout Value.IsAskable ∧
    (∃ error, store.listThings (.text "ada") window .null (.map filter) = .error (.engine error)) ∧
    ∃ page, store.listThings (.text "bob") window .null (.map filter) = .ok page := by
  intro store filter window
  have hFilter : (Value.map filter).Throughout Value.IsAskable := by
    rw [Value.throughout_map, List.forall_mem_singleton, Value.throughout_of_plain rfl]
    exact ⟨by simp [filter, Value.IsAskable, Value.isAskableKey], rfl⟩
  have hAnswered (owner : String) :=
    filtered_listing_answered_iff .counting spoiled rfl owner .null rfl filter hFilter
    (List.cons_ne_nil _ _) 0 10 rfl rfl
  have hThings : store.things.map (fun row => (row.owner, row.metadata)) =
      [("ada", .text "\x7b\"a\":[NaN]\x7d"), ("ada", .text "\x7b\"b\":1\x7d"),
        ("bob", .text "\x7b\"b\":1\x7d")] := rfl
  refine ⟨hFilter, ?_, ?_⟩
  · rcases (hAnswered "ada").1 with ⟨⟨-, hReadable⟩, -⟩ | ⟨-, error, -, hFailed⟩
    · have hMem : ("ada", Cell.text "\x7b\"a\":[NaN]\x7d") ∈
          store.things.map fun row => (row.owner, row.metadata) := by
        rw [hThings]
        exact List.mem_cons_self
      obtain ⟨row, hRow, hSpoiled⟩ := List.mem_map.mp hMem
      obtain ⟨hOwner, hMetadata⟩ := Prod.mk.inj hSpoiled
      obtain ⟨entries, text, hEncoded, hCell, hDigits⟩ := hReadable row hRow hOwner
      obtain ⟨document, hRead⟩ := ((hAnswered "ada").2.2 entries text hEncoded).mpr hDigits
      rw [← hCell, hMetadata] at hRead
      have hSpoiledDigits :=
        ((hAnswered "ada").2.2 [(.text "a", .list [.real .nan])] _ rfl).mp ⟨document, hRead⟩
      have hNaN :=
        hSpoiledDigits (.real .nan) (.inMap List.mem_cons_self (.inList List.mem_cons_self .here))
      cases (hNaN .nan rfl).1
    · exact ⟨error, hFailed⟩
  · rcases (hAnswered "bob").1 with ⟨-, hPage⟩ | ⟨hUnanswered, -⟩
    · exact hPage
    · refine absurd ⟨⟨by decide, by decide⟩, fun row hRow hOwner => ?_⟩ hUnanswered
      have hMem : (row.owner, row.metadata) ∈ store.things.map fun row =>
          (row.owner, row.metadata) :=
        List.mem_map_of_mem hRow
      have hMetadata : row.metadata = .text "\x7b\"b\":1\x7d" := by
        rw [hThings, hOwner] at hMem
        simpa using hMem
      exact ⟨filter, _, rfl, hMetadata, hFilter.imp fun _ => Metadata.hasDigits_of_isAskable⟩

end Store

end DeviceRegistry
