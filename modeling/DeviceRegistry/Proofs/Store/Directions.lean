import DeviceRegistry.Proofs.Store.Guards
import Mathlib.Data.List.TFAE
import Mathlib.Tactic.TFAE

/-! The two directions of connections. What is listed on a channel and what is listed for a thing
come from different tables, and neither listing looks at the owners that a connection carries. They
agree because a connection has one owner at both of its ends. -/
namespace DeviceRegistry

section Pages

variable {ρ Loaded α : Type} {load : ρ → Except Failure Loaded}
  {convert : Loaded → Except Failure α} {rows : List ρ}

/-- What stands on a page is what some row is shown as. -/
theorem exists_row_of_mem_page {window : Window} {page : Page α} {item : α}
    (hPage : pageOf (.ok rows) (.ok ()) window load convert = .ok page)
    (hItem : item ∈ page.items) :
    ∃ row ∈ rows, (load row >>= convert) = .ok item := by
  rw [pageOf_eq_bind] at hPage
  obtain ⟨inside, hInside, hPage⟩ := bind_ok_iff.mp hPage
  obtain ⟨loaded, hLoaded, hPage⟩ := bind_ok_iff.mp hPage
  obtain ⟨_, -, hPage⟩ := bind_ok_iff.mp hPage
  obtain ⟨all, -, hPage⟩ := bind_ok_iff.mp hPage
  obtain ⟨items, hItems, hPage⟩ := bind_ok_iff.mp hPage
  obtain ⟨offset, limit, rfl, rfl⟩ := ofWindow_eq_ok hPage
  obtain ⟨first, hFirst, hConvert⟩ := exists_mem_of_forall₂ (mapM_ok_iff.mp hItems).flip hItem
  obtain ⟨row, hRow, hLoad⟩ := exists_mem_of_forall₂ (mapM_ok_iff.mp hLoaded).flip hFirst
  refine ⟨row, ?_, bind_ok_iff.mpr ⟨first, hLoad, hConvert⟩⟩
  split at hInside
  · cases hInside
    cases hRow
  · cases hInside
    exact mem_of_mem_rowsIn (show row ∈ rowsIn offset limit rows from hRow)

/-- A window without limit that starts with the first row shows every row. -/
theorem exists_full_page (hShown : ∀ row ∈ rows, ∃ item, (load row >>= convert) = .ok item) :
    ∃ page, pageOf (.ok rows) (.ok ()) ⟨some 0, some (-1)⟩ load convert = .ok page ∧
      ∀ row ∈ rows, ∀ item, (load row >>= convert) = .ok item → item ∈ page.items := by
  have hLoad : ∀ row ∈ rows, ∃ loaded, load row = .ok loaded := by
    intro row hRow
    obtain ⟨item, hItem⟩ := hShown row hRow
    obtain ⟨loaded, hLoaded, -⟩ := bind_ok_iff.mp hItem
    exact ⟨loaded, hLoaded⟩
  obtain ⟨items, hItems, -⟩ := exists_mapM_load Except.ok hShown
  refine ⟨⟨rows.length, 0, -1, items⟩, ?_, fun row hRow item hItem => ?_⟩
  · rw [pageOf_eq hLoad]
    change (rows.mapM fun row => load row >>= convert).map _ = _
    rw [hItems]
    rfl
  · obtain ⟨other, hOther, hSame⟩ := exists_mem_of_forall₂ (mapM_ok_iff.mp hItems) hRow
    rw [hItem] at hSame
    cases hSame
    exact hOther

/-- An item is on some page exactly if its row is among the rows that the pages are taken from. -/
theorem exists_page_iff {κ : Type} {read : Window → Except Failure (Page α)} {rowKey : ρ → κ}
    {itemKey : α → κ}
    (hRead : ∀ window, Cell.AreTaken window.parameters →
      read window = pageOf (.ok rows) (.ok ()) window load convert)
    (hSound : ∀ window page, read window = .ok page →
      pageOf (.ok rows) (.ok ()) window load convert = .ok page)
    (hShown : ∀ row ∈ rows, ∃ item, (load row >>= convert) = .ok item)
    (hKey : ∀ row item, (load row >>= convert) = .ok item → itemKey item = rowKey row) (key : κ) :
    (∃ window page, read window = .ok page ∧ ∃ item ∈ page.items, itemKey item = key) ↔
      ∃ row ∈ rows, rowKey row = key := by
  constructor
  · rintro ⟨window, page, hPage, item, hItem, rfl⟩
    obtain ⟨row, hRow, hSame⟩ := exists_row_of_mem_page (hSound window page hPage) hItem
    exact ⟨row, hRow, (hKey row item hSame).symm⟩
  · rintro ⟨row, hRow, rfl⟩
    obtain ⟨page, hPage, hAll⟩ := exists_full_page hShown
    obtain ⟨item, hItem⟩ := hShown row hRow
    have hTaken : Cell.AreTaken (Window.parameters ⟨some 0, some (-1)⟩) :=
      areTaken_window (by decide) (by decide)
    exact ⟨_, page, (hRead _ hTaken).trans hPage, item, hAll row hRow item hItem,
      hKey row item hItem⟩

end Pages

namespace EntityTable

variable {Row Entity : Type} {table : EntityTable Row Entity} {store : Store}
  {pair : String → Row → String × String} {owner otherId : String} (hJoined : table.IsJoinedBy pair)
  (hValid : ∀ otherId row, pair otherId row ∈ store.connections.map ConnectionRow.pair →
    Identifier.isValid otherId = true)

include hJoined

/-- The rows that are connected are those of the owner whose pair is among the connections. -/
theorem mem_connected_text {row : Row} : row ∈ table.connected store (.text owner) (.text otherId) ↔
    row ∈ table.rows store ∧ table.owner row = owner ∧
      pair otherId row ∈ store.connections.map ConnectionRow.pair := by
  rw [connected_text hJoined, (orderedBy_perm _ _).mem_iff, Store.mem_connectedRows,
    Value.equalsText_text, decide_eq_true_eq, eq_comm (a := owner)]

include hValid

theorem pageOf_of_listConnected {window : Window} {page : Page Entity}
    (hPage : table.listConnected store (.text owner) (.text otherId) window = .ok page) :
    pageOf (.ok (table.connected store (.text owner) (.text otherId)))
      (.ok ()) window table.load table.toEntity =
      .ok page := by
  cases hIsValid : Identifier.isValid otherId with
  | true =>
      rw [listConnected, hIsValid] at hPage
      obtain ⟨cells, -, hPage⟩ := bind_ok_iff.mp hPage
      exact hPage
  | false =>
      rw [listConnected, hIsValid] at hPage
      rw [connected_of_invalid hJoined hValid hIsValid, pageOf_nil]
      exact hPage

/-- An entity is listed exactly if it is the owner's and connected to the other end. -/
theorem listed_iff (hShown : ∀ row ∈ table.rows store, ∃ entity, table.shown row = .ok entity)
    {id : String} :
    (∃ window page, table.listConnected store (.text owner) (.text otherId) window = .ok page ∧
        ∃ entity ∈ page.items, (table.describe entity).id = id) ↔
      ∃ row ∈ table.rows store, table.identity row = (id, owner) ∧
        pair otherId row ∈ store.connections.map ConnectionRow.pair := by
  have hKey (row : Row) (entity : Entity) (hEntity : table.shown row = .ok entity) :
      (table.describe entity).id = table.id row := by
    obtain ⟨metadata, -, hDescribed⟩ := of_shown hEntity
    rw [hDescribed]
  rw [exists_page_iff (fun window => listConnected_text hJoined hValid owner otherId)
    (fun window page => pageOf_of_listConnected hJoined hValid)
    (fun row hRow => hShown row ((mem_connected_text hJoined).mp hRow).1) hKey]
  constructor
  · rintro ⟨row, hRow, rfl⟩
    obtain ⟨hStored, rfl, hPair⟩ := (mem_connected_text hJoined).mp hRow
    exact ⟨row, hStored, rfl, hPair⟩
  · rintro ⟨row, hStored, hIdentity, hPair⟩
    obtain ⟨rfl, rfl⟩ := Prod.mk.inj hIdentity
    exact ⟨row, (mem_connected_text hJoined).mpr ⟨hStored, rfl, hPair⟩, rfl⟩

end EntityTable

namespace Store

variable {store : Store}

/-- Those are connected whose pair is stored. -/
theorem connected_text_iff {channelId thingId : String} :
    store.connected (.text channelId) (.text thingId) = .ok true ↔
      (channelId, thingId) ∈ store.connections.map ConnectionRow.pair := by
  have hConnected : store.connected (.text channelId) (.text thingId) =
      .ok (store.connections.any (ConnectionRow.joins (.text channelId) (.text thingId))) := rfl
  rw [hConnected, Except.ok.injEq, List.any_eq_true, List.mem_map]
  simp only [ConnectionRow.joins_text_iff]

section Ends

variable (hLinked : store.Linked) (hIdentified : store.Identified)
  {owner channelId thingId : String}
  (hPair : (channelId, thingId) ∈ store.connections.map ConnectionRow.pair)

include hLinked hIdentified hPair

/-- A channel and a thing that are connected have the same owner. -/
theorem owner_iff_of_pair :
    (thingId, owner) ∈ store.things.map thingTable.identity ↔
      (channelId, owner) ∈ store.channels.map channelTable.identity := by
  obtain ⟨connection, hConnection, hSame⟩ := List.mem_map.mp hPair
  obtain ⟨rfl, rfl⟩ := Prod.mk.inj hSame
  have hThing := hLinked.thingThere connection hConnection
  have hChannel := hLinked.channelThere connection hConnection
  have hOwner := hLinked.oneOwner connection hConnection
  constructor
  · intro hOwned
    have hSameOwner := (hIdentified.things.owner_unique hOwned hThing).trans hOwner.symm
    exact hSameOwner ▸ hChannel
  · intro hOwned
    have hSameOwner := (hIdentified.channels.owner_unique hOwned hChannel).trans hOwner
    exact hSameOwner ▸ hThing

end Ends

section Listed

variable (hLinked : store.Linked) (hIdentified : store.Identified)
  {owner channelId thingId : String}

include hLinked hIdentified

/-- A thing is listed on a channel exactly if it is the owner's and connected to the channel. -/
theorem listed_onChannel_iff (hDocumented : store.Documented) (hKeys : store.HasTextKeys) :
    (∃ window page, store.thingsOnChannel (.text owner) (.text channelId) window = .ok page ∧
        ∃ thing ∈ page.items, thing.id = thingId) ↔
      (channelId, thingId) ∈ store.connections.map ConnectionRow.pair ∧
        (thingId, owner) ∈ store.things.map thingTable.identity := by
  refine (EntityTable.listed_iff thingTable.isJoinedBy
    (fun _ _ hPair => (isValid_of_pair hLinked hIdentified hPair).1)
    (hDocumented.exists_shown_thing hKeys)).trans ?_
  constructor
  · rintro ⟨row, hRow, hIdentity, hPair⟩
    obtain ⟨rfl, rfl⟩ := Prod.mk.inj hIdentity
    exact ⟨hPair, List.mem_map_of_mem hRow⟩
  · rintro ⟨hPair, hOwned⟩
    obtain ⟨row, hRow, hIdentity⟩ := List.mem_map.mp hOwned
    obtain ⟨rfl, rfl⟩ := Prod.mk.inj hIdentity
    exact ⟨row, hRow, rfl, hPair⟩

/-- A channel is listed for a thing exactly if it is the owner's and connected to the thing. -/
theorem listed_ofThing_iff (hDocumented : store.Documented) :
    (∃ window page, store.channelsOfThing (.text owner) (.text thingId) window = .ok page ∧
        ∃ channel ∈ page.items, channel.id = channelId) ↔
      (channelId, thingId) ∈ store.connections.map ConnectionRow.pair ∧
        (channelId, owner) ∈ store.channels.map channelTable.identity := by
  refine (EntityTable.listed_iff channelTable.isJoinedBy
    (fun _ _ hPair => (isValid_of_pair hLinked hIdentified hPair).2)
      hDocumented.exists_shown_channel).trans ?_
  constructor
  · rintro ⟨row, hRow, hIdentity, hPair⟩
    obtain ⟨rfl, rfl⟩ := Prod.mk.inj hIdentity
    exact ⟨hPair, List.mem_map_of_mem hRow⟩
  · rintro ⟨hPair, hOwned⟩
    obtain ⟨row, hRow, hIdentity⟩ := List.mem_map.mp hOwned
    obtain ⟨rfl, rfl⟩ := Prod.mk.inj hIdentity
    exact ⟨row, hRow, rfl, hPair⟩

end Listed

/-- The two directions of connections agree. After a run that is called with texts, an owner's thing
stands on some page of what is connected to a channel exactly if the channel stands on some page of
what the thing is connected to, and this means that the two are connected and that either one, or
equally the other, is the owner's. What is not a valid identifier is connected to nothing. -/
theorem directions_agree (supply : Identifier.Supply) (steps : List Step)
    (hTexts : steps.all (fun step => step.operation.takesTexts) = true)
    (owner channelId thingId : String) :
    let store := (empty supply).run steps
    List.TFAE [
      ∃ window page, store.thingsOnChannel (.text owner) (.text channelId) window = .ok page ∧
        ∃ thing ∈ page.items, thing.id = thingId,
      ∃ window page, store.channelsOfThing (.text owner) (.text thingId) window = .ok page ∧
        ∃ channel ∈ page.items, channel.id = channelId,
      store.connected (.text channelId) (.text thingId) = .ok true ∧
        thingTable.owns store (.text owner) thingId = true,
      store.connected (.text channelId) (.text thingId) = .ok true ∧
        channelTable.owns store (.text owner) channelId = true] ∧
    (Identifier.isValid channelId = false ∨ Identifier.isValid thingId = false →
      store.connected (.text channelId) (.text thingId) = .ok false) := by
  intro store
  have hLinked : store.Linked := (Linked.empty supply).run steps
  have hIdentified : store.Identified := (Identified.empty supply).run steps
  have hDocumented : store.Documented := (Documented.empty supply).run steps
  have hKeys : store.HasTextKeys := (HasTextKeys.empty supply).run_of_takesTexts hTexts
  rw [listed_onChannel_iff hLinked hIdentified hDocumented hKeys,
    listed_ofThing_iff hLinked hIdentified hDocumented, connected_text_iff, thingTable.owns_iff,
    channelTable.owns_iff]
  have hSameOwner : (channelId, thingId) ∈ store.connections.map ConnectionRow.pair →
      ((thingId, owner) ∈ store.things.map thingTable.identity ↔
        (channelId, owner) ∈ store.channels.map channelTable.identity) :=
    owner_iff_of_pair hLinked hIdentified
  refine ⟨?_, fun hInvalid => ?_⟩
  · tfae_have 1 ↔ 3 := Iff.rfl
    tfae_have 2 ↔ 4 := Iff.rfl
    tfae_have 3 ↔ 4 := and_congr_right hSameOwner
    tfae_finish
  · cases hConnected :
      store.connections.any (ConnectionRow.joins (.text channelId) (.text thingId)) with
    | false => exact congrArg Except.ok hConnected
    | true =>
        have hPair := connected_text_iff.mp (congrArg Except.ok hConnected)
        have hValid := isValid_of_pair hLinked hIdentified hPair
        rw [hValid.1, hValid.2] at hInvalid
        exact absurd hInvalid (by decide)

theorem directions_agree_misnamed :
    misnamed.all (fun step => step.operation.takesTexts) = true ∧
    let store := empty.run misnamed
    let channelId := "00000000-0000-0000-0000-0000000000c1"
    let thingId := "00000000-0000-0000-0000-0000000000d1"
    let listed (owner thingId : String) := ∃ window page,
      store.channelsOfThing (.text owner) (.text thingId) window = .ok page ∧
        ∃ channel ∈ page.items, channel.id = channelId
    listed "ada" thingId ∧ ¬ listed "bob" thingId ∧ ¬ listed "ada" "d2" ∧
      Identifier.isValid "d2" = false ∧ store.connected (.text channelId)
        (.text "d2") = .ok false := by
  have hTexts : misnamed.all (fun step => step.operation.takesTexts) = true := by decide
  refine ⟨hTexts, ?_⟩
  intro store channelId thingId listed
  have hInvalid : Identifier.isValid "d2" = false := by decide
  have hOwned : thingTable.owns store (.text "ada") thingId = true := by decide
  have hForeign : thingTable.owns store (.text "bob") thingId = false := by decide
  have hAbsent :=
    (directions_agree .counting misnamed hTexts "ada" channelId "d2").2 (Or.inr hInvalid)
  refine ⟨?_, ?_, ?_, hInvalid, hAbsent⟩
  · have hDirections :=
      (directions_agree .counting misnamed hTexts "ada" channelId thingId).1.out 1 2
    exact hDirections.mpr ⟨rfl, hOwned⟩
  · intro hListed
    have hDirections :=
      (directions_agree .counting misnamed hTexts "bob" channelId thingId).1.out 1 2
    have hOwns : thingTable.owns store (.text "bob") thingId = true := (hDirections.mp hListed).2
    rw [hForeign] at hOwns
    cases hOwns
  · intro hListed
    have hDirections := (directions_agree .counting misnamed hTexts "ada" channelId "d2").1.out 1 2
    have hConnected : store.connected (.text channelId) (.text "d2") = .ok true :=
      (hDirections.mp hListed).1
    rw [hAbsent] at hConnected
    cases hConnected

end Store

end DeviceRegistry
