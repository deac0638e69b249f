import DeviceRegistry.Proofs.Store.FilteredListing

/-! What listings with a filter show. Where the storage engine takes a filter and can look into all
metadata of an owner, a listing shows the rows of the owner whose metadata contains the filter. -/
namespace DeviceRegistry

open DeviceRegistry.Filter (Contains Fits IsHeld partOf)

/-- The cell holds metadata that a filter can look into, and the metadata satisfies
the condition. -/
def HoldsSearchable (cell : Cell) (condition : Mapping → Prop) : Prop :=
  ∃ document, IsHeld document cell ∧ (Value.map document).Throughout Value.IsSearchable ∧
    condition document

/-- The read lists the rows that match, and it answers every window of sixty-four bits. -/
structure AlwaysLists {ρ α : Type} (read : Window → Except Failure (Page α)) (rows : List ρ)
    (shown : ρ → Except Failure α) (isMatch : ρ → Prop) (precedes : ρ → ρ → Prop) : Prop
    extends Lists read rows shown isMatch precedes where
  answers : ∀ offset limit, Number.fitsWord offset = true → Number.fitsWord limit = true →
    ∃ items, read ⟨some offset, some limit⟩ = .ok ⟨rows.length, offset, limit, items⟩ ∧
      List.Forall₂ (fun row item => shown row = .ok item) (rowsIn offset limit rows) items

section Contained

variable {filter : Mapping} (hFilter : (Value.map filter).Throughout Value.IsSearchable)

include hFilter

/-- A row is selected exactly if it is one of the owner whose metadata contains the filter. -/
theorem EntityFilter.selects_iff_contains (owner : String) {rowOwner rowName : String} {cell : Cell}
    (hSearchable : rowOwner = owner → HoldsSearchable cell fun _ => True) :
    EntityFilter.selects ⟨none, partOf filter⟩ (.text owner) rowOwner rowName cell = .ok true ↔
      rowOwner = owner ∧ HoldsSearchable cell fun document => Contains document filter := by
  by_cases hOwner : rowOwner = owner
  · have hSelects : EntityFilter.selects ⟨none, partOf filter⟩ (.text owner) rowOwner rowName cell =
        EntityFilter.selectsMetadata ⟨none, partOf filter⟩ cell := by
      simp only [selects, hOwner, Value.equalsText_text, decide_true, if_true]
      rfl
    obtain ⟨document, hHeld, hDocument, -⟩ := hSearchable hOwner
    obtain ⟨selected, hSelected, hContains⟩ := Filter.exists_selectsMetadata hHeld hDocument hFilter
    rw [hSelects, hSelected, Except.ok.injEq, hContains]
    refine ⟨fun hFits => ⟨hOwner, document, hHeld, hDocument, hFits⟩, ?_⟩
    -- Another document may be held as the same text. The engine reads the text, so that it contains
    -- the filter too.
    rintro ⟨-, other, hOtherHeld, hOther, hFits⟩
    obtain ⟨otherSelected, hOtherSelected, hOtherContains⟩ :=
      Filter.exists_selectsMetadata hOtherHeld hOther hFilter
    cases hSelected.symm.trans hOtherSelected
    exact hContains.mp (hOtherContains.mpr hFits)
  · refine iff_of_false (fun hSelected => ?_) fun hBoth => hOwner hBoth.1
    rw [selects, Value.equalsText_text, if_neg (by simpa using Ne.symm hOwner)] at hSelected
    cases hSelected

/-- The listing shows the rows of the owner whose metadata contains the filter, and it answers
every window. -/
theorem EntityTable.lists_containing {Row Entity : Type}
    {table : EntityTable Row Entity} {store : Store}
    (hIdentifies : table.Identifies (table.rows store))
    (hDocuments : ∀ row ∈ table.rows store, Metadata.IsDocument (table.metadata row))
    (hShown : ∀ row ∈ table.rows store, ∃ entity, table.shown row = .ok entity)
    (hSome : filter ≠ []) (hCountable : EntityFilter.IsCountable ⟨none, some ⟨filter⟩⟩)
    {owner : String} (hSearchable : ∀ row ∈ table.rows store, table.owner row = owner →
      HoldsSearchable (table.metadata row) fun _ => True) :
    ∃ rows, AlwaysLists (fun window => table.list store (.text owner) window .null
      (.map filter)) rows table.shown
      (fun row => row ∈ table.rows store ∧ table.owner row = owner ∧
        HoldsSearchable (table.metadata row) fun document => Contains document filter)
      fun a b => table.id a < table.id b := by
  have hAskable := hFilter.imp fun _ => Metadata.isAskable_of_isSearchable
  have hReadable : ∀ row ∈ table.rows store, table.owner row = owner →
      Metadata.IsReadable (table.metadata row) := by
    intro row hRow hOwner
    obtain ⟨document, ⟨text, hEncoded, hText⟩, hDocument, -⟩ := hSearchable row hRow hOwner
    exact ⟨document, text, hEncoded, hText,
      hDocument.imp fun _ => Metadata.hasDigits_of_isSearchable⟩
  obtain ⟨page, hPage⟩ : ∃ page, table.list store (.text owner) ⟨some 0, some 0⟩ .null
    (.map filter) = .ok page :=
    ((isAnsweredIff_list hDocuments hShown rfl hAskable hSome rfl rfl owner).resolve_right
      fun hFailed => hFailed.1 ⟨hCountable, hReadable⟩).2
  obtain ⟨sought, parameters, rows, hSought, hLists⟩ := lists hIdentifies hDocuments hPage
  obtain ⟨others, hPart, -⟩ := Filter.ofValues_eq_partOf hAskable .null rfl
  cases hSought.symm.trans hPart
  have hMem (row : Row) : row ∈ rows ↔ row ∈ table.rows store ∧ table.owner row = owner ∧
      HoldsSearchable (table.metadata row) fun document => Contains document filter :=
    (hLists.mem row).trans (and_congr_right fun hRow =>
      EntityFilter.selects_iff_contains hFilter owner (hSearchable row hRow))
  refine ⟨rows, ⟨hLists.toPaginates, hMem, hLists.order⟩, fun offset limit => ?_⟩
  exact hLists.exists_page fun row hRow => hShown row ((hMem row).mp hRow).1

/-- Listings with a filter show what contains it. After every plain run, where a filter is neither
nested too deep nor joined of too many parts and no metadata of the owner is beyond search, the
listing of the owner's things has behind it the things whose metadata contains the filter, each once
and in the order of their identifiers, and it shows at every window those in the window and counts
all of them. The same holds of channels. -/
theorem Store.listings_show_containing (supply : Identifier.Supply) {steps : List Step}
    (hPlain : steps.all Step.isPlain = true) (hSome : filter ≠ [])
    (hCountable : EntityFilter.IsCountable ⟨none, some ⟨filter⟩⟩) (owner : String) :
    let store := (empty supply).run steps
    ((∀ row ∈ store.things, row.owner = owner → HoldsSearchable row.metadata fun _ => True) →
      ∃ rows, AlwaysLists
        (fun window => store.listThings (.text owner) window .null (.map filter)) rows
        thingTable.shown
        (fun row => row ∈ store.things ∧ row.owner = owner ∧
          HoldsSearchable row.metadata fun document => Contains document filter)
        fun a b => a.id < b.id) ∧
    ((∀ row ∈ store.channels, row.owner = owner → HoldsSearchable row.metadata fun _ => True) →
      ∃ rows, AlwaysLists
        (fun window => store.listChannels (.text owner) window .null (.map filter)) rows
        channelTable.shown
        (fun row => row ∈ store.channels ∧ row.owner = owner ∧
          HoldsSearchable row.metadata fun document => Contains document filter)
        fun a b => a.id < b.id) := by
  intro store
  have hIdentified : store.Identified := (Identified.empty supply).run steps
  have hDocumented : store.Documented := (Documented.empty supply).run steps
  have hKeys : store.HasTextKeys := (HasTextKeys.empty supply).run hPlain
  constructor
  · exact EntityTable.lists_containing hFilter hIdentified.things hDocumented.things
      (hDocumented.exists_shown_thing hKeys) hSome hCountable
  · exact EntityTable.lists_containing hFilter hIdentified.channels hDocumented.channels
      hDocumented.exists_shown_channel hSome hCountable

end Contained

/-- The listing of an owner is answered and shows what contains the filter, although another owner
has metadata that no filter can look into. -/
theorem Store.listings_show_containing_spoiled :
    let store := empty.run spoiled
    let filter : Mapping := [(.text "b", .int 1)]
    ∃ rows, Paginates (fun window => store.listThings (.text "bob") window .null (.map filter))
        rows thingTable.shown ∧
      ∃ row ∈ rows, row.id = "00000000-0000-0000-0000-0000000000d3" := by
  intro store filter
  have hFilter : (Value.map filter).Throughout Value.IsSearchable := by
    rw [Value.throughout_map, List.forall_mem_singleton, Value.throughout_of_plain rfl]
    exact ⟨by simp [filter, Value.IsSearchable], rfl⟩
  have hHeld {condition : Mapping → Prop} (hCondition : condition filter) :
      HoldsSearchable (.text "\x7b\"b\":1\x7d") condition :=
    ⟨filter, ⟨_, rfl, rfl⟩, hFilter, hCondition⟩
  have hThings : store.things.map (fun row => (row.id, row.owner, row.metadata)) =
      [("00000000-0000-0000-0000-0000000000d1", "ada", .text "\x7b\"a\":[NaN]\x7d"),
        ("00000000-0000-0000-0000-0000000000d2", "ada", .text "\x7b\"b\":1\x7d"),
        ("00000000-0000-0000-0000-0000000000d3", "bob", .text "\x7b\"b\":1\x7d")] := rfl
  have hSearchable : ∀ row ∈ store.things, row.owner = "bob" →
      HoldsSearchable row.metadata fun _ => True := by
    intro row hRow hOwner
    have hMem : (row.id, row.owner, row.metadata) ∈
        store.things.map fun row => (row.id, row.owner, row.metadata) := List.mem_map_of_mem hRow
    rw [hThings, hOwner] at hMem
    have hFound : row.id = "00000000-0000-0000-0000-0000000000d3" ∧
        row.metadata = .text "\x7b\"b\":1\x7d" := by simpa using hMem
    exact hFound.2 ▸ hHeld trivial
  have hMember : ("00000000-0000-0000-0000-0000000000d3", "bob", .text "\x7b\"b\":1\x7d") ∈
      store.things.map fun row => (row.id, row.owner, row.metadata) := by
    rw [hThings]
    simp
  obtain ⟨row, hRow, hSame⟩ := List.mem_map.mp hMember
  simp only [Prod.mk.injEq] at hSame
  have hPlain : spoiled.all Step.isPlain = true := rfl
  obtain ⟨rows, hLists⟩ := (listings_show_containing hFilter .counting hPlain
    (List.cons_ne_nil _ _) ⟨by decide, by decide⟩ "bob").1 hSearchable
  refine ⟨rows, hLists.toPaginates, row, (hLists.mem row).mpr ⟨hRow, hSame.2.1, ?_⟩, hSame.1⟩
  rw [hSame.2.2]
  exact hHeld (by simp [filter, Contains, Fits])

end DeviceRegistry
