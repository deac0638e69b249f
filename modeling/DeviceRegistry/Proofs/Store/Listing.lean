import DeviceRegistry.Proofs.Store.Documented
import DeviceRegistry.Proofs.Store.Identified
import DeviceRegistry.Proofs.Store.Log
import DeviceRegistry.Proofs.Store.Order
import DeviceRegistry.Proofs.Store.Pages

/-! Listings after runs. Each of the five listings has one list of rows, those that match what is
asked for, each once and in strict order, and its pages are the pages of that list. Listings along
connections go over pairs of a row and a connection, and no row comes up in two pairs. -/
namespace DeviceRegistry

/-- The read gives the pages of the rows that match, in strict order. -/
structure Lists {ρ α : Type} (read : Window → Except Failure (Page α)) (rows : List ρ)
    (shown : ρ → Except Failure α) (isMatch : ρ → Prop) (precedes : ρ → ρ → Prop) : Prop
    extends Paginates read rows shown where
  mem : ∀ row, row ∈ rows ↔ isMatch row
  order : rows.Pairwise precedes

section Selected

variable {ρ : Type} {rows : List ρ}

/-- A selection that succeeds holds the rows for which the test is positive, in their order. -/
theorem selectedRows_eq_ok {test : ρ → Except Failure Bool} {selected : List ρ}
    (hSelected : selectedRows test rows = .ok selected) :
    selected.Sublist rows ∧ ∀ row, row ∈ selected ↔ row ∈ rows ∧ test row = .ok true := by
  induction rows generalizing selected with
  | nil =>
      cases hSelected
      exact ⟨.refl _, by simp⟩
  | cons first rows ih =>
      rw [selectedRows] at hSelected
      obtain ⟨isSelected, hTest, hRest⟩ := bind_ok_iff.mp hSelected
      obtain ⟨others, hOthers, hFound⟩ := bind_ok_iff.mp hRest
      obtain ⟨hSublist, hMem⟩ := ih hOthers
      cases isSelected with
      | true =>
          cases hFound
          rw [if_pos rfl]
          refine ⟨hSublist.cons_cons first, fun row => ?_⟩
          rw [List.mem_cons, List.mem_cons, hMem]
          constructor
          · rintro (rfl | ⟨hRow, hPositive⟩)
            · exact ⟨Or.inl rfl, hTest⟩
            · exact ⟨Or.inr hRow, hPositive⟩
          · rintro ⟨rfl | hRow, hPositive⟩
            · exact Or.inl rfl
            · exact Or.inr ⟨hRow, hPositive⟩
      | false =>
          cases hFound
          rw [if_neg Bool.false_ne_true]
          refine ⟨hSublist.cons first, fun row => ?_⟩
          rw [List.mem_cons, hMem]
          constructor
          · exact fun hRow => ⟨Or.inr hRow.1, hRow.2⟩
          · rintro ⟨rfl | hRow, hPositive⟩
            · rw [hTest] at hPositive
              cases hPositive
            · exact ⟨hRow, hPositive⟩

variable {κ : Type} [LinearOrder κ] {key : ρ → κ} {before : ρ → ρ → Bool}

/-- Selected rows in order are those that match, in strict order of keys that differ. -/
theorem ordered_selection {selected : List ρ} {isMatch : ρ → Prop}
    (hSublist : selected.Sublist rows) (hMem : ∀ row, row ∈ selected ↔ isMatch row)
    (hNodup : (rows.map key).Nodup)
    (hBefore : ∀ a ∈ rows, ∀ b ∈ rows, before a b = decide (key a ≤ key b)) :
    (∀ row, row ∈ orderedBy before selected ↔ isMatch row) ∧
      (orderedBy before selected).Pairwise fun a b => key a < key b := by
  refine ⟨fun row => (orderedBy_perm before selected).mem_iff.trans (hMem row), ?_⟩
  refine strict_orderedBy (fun a ha b hb => ?_) (hNodup.sublist (hSublist.map key))
  exact hBefore a (hSublist.subset ha) b (hSublist.subset hb)

end Selected

section Lists

variable {ρ Loaded α κ : Type} [LinearOrder κ] {table : List ρ} {key : ρ → κ}
  {before : ρ → ρ → Bool} {load : ρ → Except Failure Loaded} {convert : Loaded → Except Failure α}
  {read : Window → Except Failure (Page α)} (hNodup : (table.map key).Nodup)
  (hBefore : ∀ a ∈ table, ∀ b ∈ table, before a b = decide (key a ≤ key b))
  (hLoad : ∀ row ∈ table, ∃ loaded, load row = .ok loaded)

include hNodup hBefore hLoad

/-- A read that puts pages of selected rows in order together lists the rows that match. -/
theorem Lists.of_selection {selected : List ρ} {isMatch : ρ → Prop} {parameters : List Value}
    (hSublist : selected.Sublist table) (hMem : ∀ row, row ∈ selected ↔ isMatch row)
    (hTaken : Cell.AreTaken parameters)
    (hRead : ∀ window, read window = (Cell.ofValues (parameters ++ window.parameters) >>= fun _ =>
      pageOf (.ok (orderedBy before selected)) (.ok ()) window load convert)) :
    Lists read (orderedBy before selected) (fun row => load row >>= convert) isMatch fun a b =>
      key a < key b := by
  obtain ⟨hMatch, hStrict⟩ := ordered_selection hSublist hMem hNodup hBefore
  refine ⟨.of_pageOf hTaken (fun row hRow => hLoad row ?_) hRead, hMatch, hStrict⟩
  exact hSublist.subset ((orderedBy_perm before selected).mem_iff.mp hRow)

end Lists

namespace Store

variable {store : Store}

section Joined

variable {ρ : Type}

/-- The rows of an owner, each once for every connection that joins it. -/
def joinedRows (store : Store) (table : List ρ) (owned : ρ → Bool) (pair : ρ → String × String) :
    List ρ :=
  (table.filter owned).flatMap fun row =>
    (store.connections.filter fun connection => connection.pair = pair row).map fun _ => row

def connectedRows (store : Store) (table : List ρ) (owned : ρ → Bool) (pair : ρ → String × String) :
    List ρ :=
  table.filter fun row => owned row && store.connections.any fun connection =>
    connection.pair = pair row

/-- Joined rows are those of the owner with a pair among the connections. -/
theorem mem_connectedRows {table : List ρ} {owned : ρ → Bool}
    {pair : ρ → String × String} {row : ρ} :
    row ∈ store.connectedRows table owned pair ↔
      row ∈ table ∧ owned row = true ∧ pair row ∈ store.connections.map ConnectionRow.pair := by
  simp [connectedRows]

variable (hDiffer : (store.connections.map ConnectionRow.pair).Nodup)

include hDiffer

/-- A row comes up once if it is joined and not at all if it is not. -/
theorem map_joined (pair : String × String) (row : ρ) :
    ((store.connections.filter fun connection => connection.pair = pair).map fun _ => row) =
      if (store.connections.any fun connection => connection.pair = pair) then [row] else [] := by
  have hCount : (store.connections.filter fun connection => connection.pair = pair).length =
      (store.connections.map ConnectionRow.pair).count pair := by
    rw [← List.countP_eq_length_filter, List.count, List.countP_map]
    congr 1
    funext connection
    rw [Function.comp, Bool.eq_iff_iff, decide_eq_true_eq, beq_iff_eq]
  rw [List.map_const', hCount, hDiffer.count]
  by_cases hMem : pair ∈ store.connections.map ConnectionRow.pair
  · rw [if_pos hMem, if_pos (by simpa using hMem)]
    rfl
  · rw [if_neg hMem, if_neg (by simpa using hMem)]
    rfl

/-- Going over pairs of a row and a connection finds no row twice. -/
theorem joinedRows_eq (table : List ρ) (owned : ρ → Bool) (pair : ρ → String × String) :
    store.joinedRows table owned pair = store.connectedRows table owned pair := by
  simp only [joinedRows, connectedRows, map_joined hDiffer]
  induction table with
  | nil => rfl
  | cons row table ih =>
      rw [List.filter_cons, List.filter_cons, ← ih]
      cases owned row with
      | false => rfl
      | true =>
          rw [if_pos rfl, List.flatMap_cons, Bool.true_and]
          split <;> rfl

end Joined

end Store

namespace EntityTable

variable {Row Entity : Type} {table : EntityTable Row Entity} {store : Store}
  (hIdentifies : table.Identifies (table.rows store))
  (hDocuments : ∀ row ∈ table.rows store, Metadata.IsDocument (table.metadata row))
  {window : Window} {page : Page Entity}

include hDocuments in
theorem exists_loaded : ∀ row ∈ table.rows store, ∃ loaded, table.load row = .ok loaded :=
  fun row hRow => (exists_load_of_isDocument (hDocuments row hRow)).imp'
    (Prod.mk row) fun _ hLoad => hLoad

include hIdentifies hDocuments in
/-- A listing that succeeds at one window lists the rows that its filter selects, in the order of
their identifiers. -/
theorem lists {owner name metadata : Value}
    (hPage : table.list store owner window name metadata = .ok page) :
    ∃ filter parameters rows, EntityFilter.ofValues name metadata = .ok (filter, parameters) ∧
      Lists (fun window => table.list store owner window name metadata) rows table.shown
        (fun row => row ∈ table.rows store ∧
          filter.selects owner (table.owner row) (table.name row) (table.metadata row) = .ok true)
        fun a b => table.id a < table.id b := by
  obtain ⟨⟨filter, parameters⟩, hFilter, hRest⟩ := bind_ok_iff.mp hPage
  obtain ⟨_, hSearchable, hRest⟩ := bind_ok_iff.mp hRest
  obtain ⟨cells, hCells, hRest⟩ := bind_ok_iff.mp hRest
  obtain ⟨⟨rows, hRows⟩, hCountable, -⟩ := pageOf_eq_ok hRest
  obtain ⟨selected, hSelected, rfl⟩ := map_ok_iff.mp hRows
  obtain ⟨hSublist, hMem⟩ := selectedRows_eq_ok hSelected
  have hTaken := ((Cell.areTaken_append _ _).mp ((Cell.ofValues_isOk_iff _).mp ⟨cells, hCells⟩)).1
  refine ⟨filter, parameters, orderedBy table.before selected, hFilter, ?_⟩
  refine .of_selection hIdentifies.nodup table.before_eq
    (exists_loaded hDocuments) hSublist hMem hTaken fun window => ?_
  rw [list, hFilter]
  change (filter.expectSearchable >>= fun _ => _) = _
  rw [hSearchable, EntityTable.selected, hSelected, hCountable]
  rfl

variable (table) in
/-- A connection stands at a row and at what has an identifier exactly if it has the pair of
the two. -/
def IsJoinedBy (pair : String → Row → String × String) : Prop :=
  ∀ connection otherId row,
    table.endId connection = table.id row ∧ table.otherId connection = otherId ↔
    connection.pair = pair otherId row

variable {pair : String → Row → String × String} (hJoined : table.IsJoinedBy pair)

include hJoined in
/-- Rows along connections are the joined rows in order. -/
theorem connected_text (store : Store) (owner : Value) (otherId : String) :
    table.connected store owner (.text otherId) =
      orderedBy table.before (store.connectedRows (table.rows store)
        (fun row => owner.equalsText (table.owner row)) (pair otherId)) := by
  have hSame (row : Row) (connection : ConnectionRow) :
      (table.endId connection == table.id row &&
        (Value.text otherId).equalsText (table.otherId connection)) =
      decide (connection.pair = pair otherId row) := by
    rw [Value.equalsText_text, Bool.eq_iff_iff, Bool.and_eq_true, beq_iff_eq, decide_eq_true_eq,
      decide_eq_true_eq, ← hJoined, eq_comm (a := otherId)]
  simp only [connected, Store.connectedRows, hSame]

variable (hDiffer : (store.connections.map ConnectionRow.pair).Nodup)
  (hValid : ∀ otherId row, pair otherId row ∈ store.connections.map ConnectionRow.pair →
    Identifier.isValid otherId = true)

include hJoined hValid in
/-- What has no valid identifier is connected to nothing. -/
theorem connected_of_invalid {otherId : String} (hInvalid : Identifier.isValid otherId = false)
    (owner : Value) :
    table.connected store owner (.text otherId) = [] := by
  have hNone : store.connectedRows (table.rows store)
      (fun row => owner.equalsText (table.owner row))
      (pair otherId) = [] := by
    refine List.eq_nil_iff_forall_not_mem.mpr fun row hRow => ?_
    rw [hValid otherId row (Store.mem_connectedRows.mp hRow).2.2] at hInvalid
    cases hInvalid
  rw [connected_text hJoined, hNone]
  rfl

include hIdentifies hDocuments hJoined hDiffer hValid in
/-- A listing along connections lists the rows that are connected to the other end, each once, in
the order of their identifiers. Where the other end has no valid identifier it finds nothing, and
nothing is connected. -/
theorem lists_connected {owner otherId : Value}
    (hPage : table.listConnected store owner otherId window = .ok page) :
    ∃ rows, Lists (table.listConnected store owner otherId) rows table.shown
        (fun row => row ∈ table.rows store ∧ owner.equalsText (table.owner row) = true ∧
          ∃ s, otherId = .text s ∧ pair s row ∈ store.connections.map ConnectionRow.pair)
        (fun a b => table.id a < table.id b) ∧
      ∀ s, otherId = .text s → rows.Perm
        (store.joinedRows (table.rows store)
          (fun row => owner.equalsText (table.owner row)) (pair s)) := by
  by_cases hEnd : ∃ s, otherId = .text s ∧ Identifier.isValid s = true
  · obtain ⟨s, rfl, hIsValid⟩ := hEnd
    have hRead (window : Window) : table.listConnected store owner (.text s) window =
        (Cell.ofValues (owner.comparisonParameters ++ [.text s] ++ window.parameters) >>= fun _ =>
          pageOf (.ok (table.connected store owner (.text s)))
            (.ok ()) window table.load table.toEntity) := by
      rw [listConnected, hIsValid, List.append_assoc]
      rfl
    rw [hRead] at hPage
    obtain ⟨cells, hCells, -⟩ := bind_ok_iff.mp hPage
    have hTaken := ((Cell.areTaken_append _ _).mp ((Cell.ofValues_isOk_iff _).mp ⟨cells, hCells⟩)).1
    simp only [connected_text hJoined] at hRead
    refine ⟨_, .of_selection hIdentifies.nodup table.before_eq
      (exists_loaded hDocuments) List.filter_sublist (fun row => ?_) hTaken hRead, ?_⟩
    · refine Store.mem_connectedRows.trans ?_
      refine and_congr_right fun _ => and_congr_right fun _ => ⟨fun hPair => ⟨s, rfl, hPair⟩, ?_⟩
      rintro ⟨t, hSame, hPair⟩
      cases hSame
      exact hPair
    · rintro t hSame
      cases hSame
      rw [Store.joinedRows_eq hDiffer]
      exact orderedBy_perm table.before _
  · have hInvalid (s : String) (hSame : otherId = .text s) : Identifier.isValid s = false :=
      Bool.eq_false_iff.mpr fun hIsValid => hEnd ⟨s, hSame, hIsValid⟩
    have hNone (s : String) (hSame : otherId = .text s) (row : Row) :
        pair s row ∉ store.connections.map ConnectionRow.pair :=
      fun hPair => hEnd ⟨s, hSame, hValid s row hPair⟩
    have hRead (window : Window) : table.listConnected store owner otherId window =
        Page.ofWindow 0 window [] := by
      cases otherId with
      | text s => rw [listConnected, hInvalid s rfl]; rfl
      | _ => rfl
    refine ⟨[], ⟨.of_empty hRead, fun row => ?_, .nil⟩, fun s hSame => ?_⟩
    · refine iff_of_false List.not_mem_nil ?_
      rintro ⟨-, -, s, hSame, hPair⟩
      exact hNone s hSame row hPair
    · have hEmpty : store.connectedRows (table.rows store)
          (fun row => owner.equalsText (table.owner row))
          (pair s) = [] := List.eq_nil_iff_forall_not_mem.mpr fun row hRow =>
        hNone s hSame row (Store.mem_connectedRows.mp hRow).2.2
      rw [Store.joinedRows_eq hDiffer, hEmpty]

end EntityTable

theorem thingTable.isJoinedBy : thingTable.IsJoinedBy fun channelId row => (channelId, row.id) :=
  fun _ _ _ => and_comm.trans (Prod.mk.injEq ..).symm.to_iff

theorem channelTable.isJoinedBy : channelTable.IsJoinedBy fun thingId row => (row.id, thingId) :=
  fun _ _ _ => (Prod.mk.injEq ..).symm.to_iff

namespace Store

variable {store : Store}

section Reachable

variable (hLinked : store.Linked) (hIdentified : store.Identified)

include hLinked hIdentified in
/-- Only valid identifiers are connected. -/
theorem isValid_of_pair {channelId thingId : String}
    (hPair : (channelId, thingId) ∈ store.connections.map ConnectionRow.pair) :
    Identifier.isValid channelId = true ∧ Identifier.isValid thingId = true := by
  obtain ⟨connection, hMem, hSame⟩ := List.mem_map.mp hPair
  obtain ⟨rfl, rfl⟩ := Prod.mk.inj hSame
  obtain ⟨channel, hChannel, hChannelEnd⟩ := List.mem_map.mp (hLinked.channelThere connection hMem)
  obtain ⟨thing, hThing, hThingEnd⟩ := List.mem_map.mp (hLinked.thingThere connection hMem)
  have hChannelId : channel.id = connection.channelId := congrArg Prod.fst hChannelEnd
  have hThingId : thing.id = connection.thingId := congrArg Prod.fst hThingEnd
  rw [← hChannelId, ← hThingId]
  exact ⟨hIdentified.channels.valid _ (List.mem_map_of_mem hChannel),
    hIdentified.things.valid _ (List.mem_map_of_mem hThing)⟩

/-- Rows of messages are shown as they are. -/
theorem mapM_toMessage (rows : List MessageRow) :
    rows.mapM MessageRow.toMessage = .ok (rows.map MessageRow.message) :=
  mapM_ok_iff.mpr (List.forall₂_map_right_iff.mpr (List.forall₂_same.mpr fun _ _ => rfl))

/-- The messages on a channel that meet the conditions of a query are listed from the latest to
the earliest. -/
theorem lists_messagesSelected (hLogged : store.Logged) {channelId query : Value}
    {conditions : Filter.Conditions Filter.MessageCondition}
    (hConditions : Filter.Query.conditions query = .ok conditions)
    (hTaken : Cell.AreTaken (channelId.comparisonParameters ++
      conditions.flatMap Filter.MessageCondition.parameters)) :
    Lists (fun window => (store.readMessages channelId window query).answer)
      (store.messagesSelected channelId conditions) MessageRow.toMessage
      (fun row => row ∈ store.messages ∧ channelId.equalsText row.message.channel = true ∧
        ∀ condition ∈ conditions, condition.holds row.message = true)
      MessageRow.Precedes := by
  have hNodup : (store.messages.map MessageRow.rank).Nodup := by
    have hNumbers : (store.messages.map MessageRow.number).Nodup :=
      hLogged.numbers ▸ List.nodup_range'
    exact List.Nodup.of_map (fun rank : Int ×ₗ Nat => (ofLex rank).2) (by rwa [List.map_map])
  have hBefore : ∀ a ∈ store.messages, ∀ b ∈ store.messages, a.before b =
      decide (a.rank ≤ b.rank) :=
    fun a ha b hb => MessageRow.before_eq_rank (hLogged.times a ha) (hLogged.times b hb)
  have hRead (window : Window) : (store.readMessages channelId window query).answer =
      (Cell.ofValues
        (channelId.comparisonParameters ++ conditions.flatMap Filter.MessageCondition.parameters ++
        window.parameters) >>= fun _ =>
          pageOf (.ok (store.messagesSelected channelId conditions))
            (.ok ()) window .ok MessageRow.toMessage) := by
    rw [readMessages, hConditions]
  have hLists := Lists.of_selection hNodup hBefore (fun row _ => ⟨row, rfl⟩) List.filter_sublist
    (fun row => List.mem_filter) hTaken hRead
  refine ⟨hLists.toPaginates, fun row => ?_, ?_⟩
  · rw [messagesSelected, hLists.mem, Bool.and_eq_true, List.all_eq_true]
  · refine hLists.order.imp_of_mem fun {a b} ha hb hLess => ?_
    have hTimeA := hLogged.times a ((hLists.mem a).mp ha).1
    have hTimeB := hLogged.times b ((hLists.mem b).mp hb).1
    exact MessageRow.precedes_of_rank_lt hTimeA hTimeB hLess

/-- A query for messages that is answered has conditions, and lists the messages that meet them. -/
theorem lists_messages (hLogged : store.Logged) {channelId query : Value} {window : Window}
    {page : Page Message} (hPage : (store.readMessages channelId window query).answer = .ok page) :
    ∃ conditions rows, Filter.Query.conditions query = .ok conditions ∧
      Lists (fun window => (store.readMessages channelId window query).answer) rows
        MessageRow.toMessage
        (fun row => row ∈ store.messages ∧ channelId.equalsText row.message.channel = true ∧
          ∀ condition ∈ conditions, condition.holds row.message = true)
        MessageRow.Precedes := by
  rw [readMessages] at hPage
  cases hConditions : Filter.Query.conditions query with
  | error failure =>
      rw [hConditions] at hPage
      cases hPage
  | ok conditions =>
      rw [hConditions] at hPage
      obtain ⟨cells, hCells, -⟩ := bind_ok_iff.mp hPage
      have hTaken :=
        ((Cell.areTaken_append _ _).mp ((Cell.ofValues_isOk_iff _).mp ⟨cells, hCells⟩)).1
      exact ⟨conditions, _, rfl, lists_messagesSelected hLogged hConditions hTaken⟩

end Reachable

/-- Pages partition what is listed. After every run, a listing that succeeds at one window has one
list of rows behind it: the rows that match, each once, things and channels in ascending order of
their identifiers, messages from the latest to the earliest and in the order of their numbers. At
every window it shows the rows in that window and counts all of them, and the pages of one size
together show each row once. A row of a channel can always be shown, and that of a thing wherever
its key is a text. -/
theorem pages_partition (supply : Identifier.Supply) (steps : List Step) :
    let store := (empty supply).run steps
    (∀ owner name metadata window page, store.listThings owner window name metadata = .ok page →
      ∃ filter parameters rows, EntityFilter.ofValues name metadata = .ok (filter, parameters) ∧
        Lists (fun window => store.listThings owner window name metadata) rows thingTable.shown
          (fun row => row ∈ store.things ∧
            filter.selects owner row.owner row.name row.metadata = .ok true)
          (fun a b => a.id < b.id)) ∧
    (∀ owner name metadata window page, store.listChannels owner window name metadata = .ok page →
      ∃ filter parameters rows, EntityFilter.ofValues name metadata = .ok (filter, parameters) ∧
        Lists (fun window => store.listChannels owner window name metadata) rows channelTable.shown
          (fun row => row ∈ store.channels ∧
            filter.selects owner row.owner row.name row.metadata = .ok true)
          (fun a b => a.id < b.id)) ∧
    (∀ owner channelId window page, store.thingsOnChannel owner channelId window = .ok page →
      ∃ rows, Lists (store.thingsOnChannel owner channelId) rows thingTable.shown
          (fun row => row ∈ store.things ∧ owner.equalsText row.owner = true ∧
            ∃ s, channelId = .text s ∧ (s, row.id) ∈ store.connections.map ConnectionRow.pair)
          (fun a b => a.id < b.id) ∧
        ∀ s, channelId = .text s → rows.Perm
          (store.joinedRows store.things (fun row => owner.equalsText row.owner)
            fun row => (s, row.id))) ∧
    (∀ owner thingId window page, store.channelsOfThing owner thingId window = .ok page →
      ∃ rows, Lists (store.channelsOfThing owner thingId) rows channelTable.shown
          (fun row => row ∈ store.channels ∧ owner.equalsText row.owner = true ∧
            ∃ s, thingId = .text s ∧ (row.id, s) ∈ store.connections.map ConnectionRow.pair)
          (fun a b => a.id < b.id) ∧
        ∀ s, thingId = .text s → rows.Perm
          (store.joinedRows store.channels (fun row => owner.equalsText row.owner)
            fun row => (row.id, s))) ∧
    (∀ channelId query window page, (store.readMessages channelId window query).answer = .ok page →
      ∃ conditions rows, Filter.Query.conditions query = .ok conditions ∧
        Lists (fun window => (store.readMessages channelId window query).answer) rows
          MessageRow.toMessage
          (fun row => row ∈ store.messages ∧ channelId.equalsText row.message.channel = true ∧
            ∀ condition ∈ conditions, condition.holds row.message = true)
          MessageRow.Precedes) ∧
    (∀ row ∈ store.things, ∀ key, row.key = .text key →
      ∃ metadata, thingTable.shown row = .ok ⟨row.id, row.owner, row.name, key, metadata⟩) ∧
    ∀ row ∈ store.channels,
      ∃ metadata, channelTable.shown row = .ok ⟨row.id, row.owner, row.name, metadata⟩ := by
  intro store
  have hLinked : store.Linked := (Linked.empty supply).run steps
  have hIdentified : store.Identified := (Identified.empty supply).run steps
  have hDocumented : store.Documented := (Documented.empty supply).run steps
  have hLogged : store.Logged := (Logged.empty supply).run steps
  refine ⟨?_, ?_, ?_, ?_, ?_, ?_, ?_⟩
  · intro owner name metadata window page hPage
    exact EntityTable.lists hIdentified.things hDocumented.things hPage
  · intro owner name metadata window page hPage
    exact EntityTable.lists hIdentified.channels hDocumented.channels hPage
  · intro owner channelId window page hPage
    exact EntityTable.lists_connected hIdentified.things hDocumented.things thingTable.isJoinedBy
      hLinked.pairsDiffer (fun _ _ hPair => (isValid_of_pair hLinked hIdentified hPair).1) hPage
  · intro owner thingId window page hPage
    exact EntityTable.lists_connected hIdentified.channels hDocumented.channels
      channelTable.isJoinedBy
      hLinked.pairsDiffer (fun _ _ hPair => (isValid_of_pair hLinked hIdentified hPair).2) hPage
  · intro channelId query window page hPage
    exact lists_messages hLogged hPage
  · exact fun row hRow key hKey => hDocumented.shown_thing hRow hKey
  · exact fun row hRow => hDocumented.shown_channel hRow

/-- Two of three things are connected to a channel, and three messages are sent there, two of them
at one time. -/
def populated : List Step :=
  let channelId := Value.text "00000000-0000-0000-0000-0000000000c1"
  let thingId (n : String) := Value.text ("00000000-0000-0000-0000-0000000000d" ++ n)
  let thing (n : String) : Mapping :=
    [(.text "id", thingId n), (.text "owner", .text "ada"), (.text "key", .text n)]
  let message (n : String) (time : Int) : Mapping :=
    [(.text "channel", channelId), (.text "publisher", .text n), (.text "protocol", .text "mqtt"),
      (.text "time", .int time)]
  [⟨.saveChannel [(.text "id", channelId), (.text "owner", .text "ada")], none⟩,
    ⟨.saveThing (thing "3"), none⟩, ⟨.saveThing (thing "1"), none⟩, ⟨.saveThing (thing "2"), none⟩,
    ⟨.connect (.text "ada") channelId (thingId "3"), none⟩,
    ⟨.connect (.text "ada") channelId (thingId "1"), none⟩,
    ⟨.saveMessages [message "1" 5, message "3" 7, message "1" 7], none⟩]

theorem pages_partition_populated :
    let store := empty.run populated
    let ada := Value.text "ada"
    let channelId := Value.text "00000000-0000-0000-0000-0000000000c1"
    let thingId := Value.text "00000000-0000-0000-0000-0000000000d3"
    (∃ rows, Paginates (fun window => store.listThings ada window (.text "") .null) rows
      thingTable.shown ∧
      rows.Pairwise (fun a b => a.id < b.id) ∧ rows.length = 3) ∧
    (∃ rows, Paginates (fun window => store.listChannels ada window .null (.map [])) rows
      channelTable.shown ∧
      rows.Pairwise (fun a b => a.id < b.id) ∧ rows.length = 1) ∧
    (∃ rows, Paginates (store.thingsOnChannel ada channelId) rows thingTable.shown ∧
      rows.Pairwise (fun a b => a.id < b.id) ∧ rows.length = 2) ∧
    (∃ rows, Paginates (store.channelsOfThing ada thingId) rows channelTable.shown ∧
      rows.Pairwise (fun a b => a.id < b.id) ∧ rows.length = 1) ∧
    ∃ rows, Paginates (fun window => (store.readMessages channelId window .null).answer) rows
      MessageRow.toMessage ∧
      rows.Pairwise MessageRow.Precedes ∧ rows.length = 3 := by
  intro store ada channelId thingId
  have hPartition := pages_partition .counting populated
  have hThings : ∃ page, store.listThings ada ⟨some 1, some 2⟩ (.text "") .null = .ok page ∧
      page.total = 3 :=
    ⟨_, rfl, rfl⟩
  have hChannels : ∃ page, store.listChannels ada ⟨some 0, some (-1)⟩ .null (.map []) = .ok page ∧
      page.total = 1 :=
    ⟨_, rfl, rfl⟩
  have hOnChannel : ∃ page, store.thingsOnChannel ada channelId ⟨some 1, some 1⟩ = .ok page ∧
      page.total = 2 :=
    ⟨_, rfl, rfl⟩
  have hOfThing : ∃ page, store.channelsOfThing ada thingId ⟨some (-1), some 5⟩ = .ok page ∧
      page.total = 1 :=
    ⟨_, rfl, rfl⟩
  have hMessages : ∃ page, (store.readMessages channelId ⟨some 0, some 2⟩ .null).answer = .ok page ∧
      page.total = 3 := ⟨_, rfl, rfl⟩
  refine ⟨?_, ?_, ?_, ?_, ?_⟩
  · obtain ⟨page, hPage, hTotal⟩ := hThings
    obtain ⟨_, _, rows, -, hLists⟩ := hPartition.1 _ _ _ _ page hPage
    exact ⟨rows, hLists.toPaginates, hLists.order, hTotal ▸ (hLists.total _ page hPage).symm⟩
  · obtain ⟨page, hPage, hTotal⟩ := hChannels
    obtain ⟨_, _, rows, -, hLists⟩ := hPartition.2.1 _ _ _ _ page hPage
    exact ⟨rows, hLists.toPaginates, hLists.order, hTotal ▸ (hLists.total _ page hPage).symm⟩
  · obtain ⟨page, hPage, hTotal⟩ := hOnChannel
    obtain ⟨rows, hLists, -⟩ := hPartition.2.2.1 _ _ _ page hPage
    exact ⟨rows, hLists.toPaginates, hLists.order, hTotal ▸ (hLists.total _ page hPage).symm⟩
  · obtain ⟨page, hPage, hTotal⟩ := hOfThing
    obtain ⟨rows, hLists, -⟩ := hPartition.2.2.2.1 _ _ _ page hPage
    exact ⟨rows, hLists.toPaginates, hLists.order, hTotal ▸ (hLists.total _ page hPage).symm⟩
  · obtain ⟨page, hPage, hTotal⟩ := hMessages
    obtain ⟨_, rows, -, hLists⟩ := hPartition.2.2.2.2.1 _ _ _ page hPage
    exact ⟨rows, hLists.toPaginates, hLists.order, hTotal ▸ (hLists.total _ page hPage).symm⟩

end Store

end DeviceRegistry
