import DeviceRegistry.Proofs.Store.Keys
import DeviceRegistry.Proofs.Store.LastWrite
import DeviceRegistry.Proofs.Store.Listing

/-! Identity after runs. No two things and no two channels share an identifier, no two things share
a key, and every identifier that is stored is valid. Reads that do not ask the tables for an invalid
identifier therefore answer as if they had asked: there is no row under it. -/
namespace DeviceRegistry

/-- A page of no rows is empty, whatever its window. -/
theorem pageOf_nil {ρ Loaded α : Type} (window : Window) (load : ρ → Except Failure Loaded)
    (convert : Loaded → Except Failure α) :
    pageOf (.ok []) (.ok ()) window load convert = Page.ofWindow 0 window [] := by
  have hSlice : (Except.ok [] : Except Failure (List ρ)).map window.slice = .ok [] := by
    obtain ⟨offset, limit⟩ := window
    cases limit <;> simp [Except.map, Window.slice]
  rw [pageOf_eq_bind, hSlice, ite_self]
  rfl

namespace EntityTable

variable {Row Entity : Type} {table : EntityTable Row Entity} {store : Store} {id : String}

/-- No row has an identifier that is not valid. -/
theorem Identifies.find?_of_invalid {rows : List Row} (hIdentifies : table.Identifies rows)
    (hInvalid : Identifier.isValid id = false) (owner : Value) :
    rows.find? (table.isOf owner (.text id)) = none := by
  rw [List.find?_eq_none]
  intro row hRow hOf
  have hId : id = table.id row := by simpa using (Bool.and_eq_true_iff.mp hOf).2
  have hValid := hIdentifies.valid (table.id row) (List.mem_map_of_mem hRow)
  rw [← hId, hInvalid] at hValid
  cases hValid

/-- What is connected to an identifier is what the tables connect to it, whether or not the
identifier is valid. -/
theorem listConnected_text {pair : String → Row → String × String} (hJoined : table.IsJoinedBy pair)
    (hValid : ∀ otherId row, pair otherId row ∈ store.connections.map ConnectionRow.pair →
      Identifier.isValid otherId = true)
    (owner otherId : String) {window : Window} (hWindow : Cell.AreTaken window.parameters) :
    table.listConnected store (.text owner) (.text otherId) window =
      pageOf (.ok (table.connected store (.text owner) (.text otherId))) (.ok ()) window table.load
        table.toEntity := by
  cases hIsValid : Identifier.isValid otherId with
  | true =>
      obtain ⟨cells, hCells⟩ :=
        (Cell.ofValues_isOk_iff (.text owner :: .text otherId :: window.parameters)).mpr
        ((Cell.areTaken_append _ _).mpr ⟨Cell.areTaken_texts [owner, otherId], hWindow⟩)
      have hRead : table.listConnected store (.text owner) (.text otherId) window =
          (Cell.ofValues (.text owner :: .text otherId :: window.parameters) >>= fun _ =>
            pageOf (.ok (table.connected store (.text owner) (.text otherId)))
              (.ok ()) window table.load
              table.toEntity) := by
        rw [listConnected, hIsValid]
        rfl
      rw [hRead, hCells]
      rfl
  | false =>
      rw [connected_of_invalid hJoined hValid hIsValid, pageOf_nil, listConnected, hIsValid]
      rfl

end EntityTable

namespace Store

variable {store : Store}

section Connected

variable (hLinked : store.Linked) (hIdentified : store.Identified) (owner id : String)
  {window : Window} (hWindow : Cell.AreTaken window.parameters)

include hLinked hIdentified hWindow

/-- A listing along connections answers for a text as it does for what is connected. -/
theorem thingsOnChannel_text : store.thingsOnChannel (.text owner) (.text id) window =
    pageOf (.ok (thingTable.connected store (.text owner) (.text id)))
      (.ok ()) window thingTable.load
      ThingRow.toThing :=
  EntityTable.listConnected_text thingTable.isJoinedBy
    (fun _ _ hPair => (isValid_of_pair hLinked hIdentified hPair).1) owner id hWindow

theorem channelsOfThing_text : store.channelsOfThing (.text owner) (.text id) window =
    pageOf (.ok (channelTable.connected store (.text owner) (.text id)))
      (.ok ()) window channelTable.load
      ChannelRow.toChannel :=
  EntityTable.listConnected_text channelTable.isJoinedBy
    (fun _ _ hPair => (isValid_of_pair hLinked hIdentified hPair).2) owner id hWindow

end Connected

/-- One thing at most is found for a key. -/
theorem Keyed.length_filter_key_le_one (hKeyed : store.Keyed) (key : Value) :
    (store.things.filter fun row => key.equalsCell row.key).length ≤ 1 := by
  have hSame : ∀ row : ThingRow, key.equalsCell row.key = true → row.key = key.toColumnCell := by
    intro row hEquals
    exact (of_decide_eq_true (Bool.and_eq_true_iff.mp hEquals).2).symm
  calc
    (store.things.filter fun row => key.equalsCell row.key).length =
        store.things.countP fun row => key.equalsCell row.key := List.countP_eq_length_filter.symm
    _ ≤ store.things.countP fun row => row.key == key.toColumnCell := by
      refine List.countP_mono_left fun row _ hEquals => ?_
      rw [beq_iff_eq]
      exact hSame row hEquals
    _ = (store.things.map ThingRow.key).count key.toColumnCell := by
      rw [List.count, List.countP_map]
      rfl
    _ ≤ 1 := List.nodup_iff_count_le_one.mp hKeyed key.toColumnCell

/-- Identity holds after every run, failing steps and injected errors included: identifiers and keys
stand for one thing or one channel at a time, and every identifier in the tables is valid. Guards on
identifiers hide nothing. Under an identifier that is not valid there is no thing, no channel and no
connection, so that each read answers for every identifier as the query would that it keeps from the
tables; and a key leads to one thing at most. -/
theorem identity_sound (supply : Identifier.Supply) (steps : List Step) :
    let store := (empty supply).run steps
    ((store.things.map ThingRow.id).Nodup ∧ (store.things.map ThingRow.key).Nodup ∧
      (store.channels.map ChannelRow.id).Nodup) ∧
    ((∀ row ∈ store.things, Identifier.isValid row.id = true) ∧
      (∀ row ∈ store.channels, Identifier.isValid row.id = true) ∧
      ∀ row ∈ store.connections,
        Identifier.isValid row.channelId = true ∧ Identifier.isValid row.thingId = true) ∧
    (∀ id, Identifier.isValid id = false → ∀ owner,
      store.things.find? (thingTable.isOf owner (.text id)) = none ∧
      store.channels.find? (channelTable.isOf owner (.text id)) = none ∧
      thingTable.connected store owner (.text id) = [] ∧
      channelTable.connected store owner (.text id) = []) ∧
    (∀ owner id,
      (store.thing (.text owner) (.text id) =
        match store.things.find? (thingTable.isOf (.text owner) (.text id)) with
        | none => .error (.absent (.entity .thing))
        | some row => thingTable.shown row) ∧
      (store.channel (.text owner) (.text id) =
        match store.channels.find? (channelTable.isOf (.text owner) (.text id)) with
        | none => .error (.absent (.entity .channel))
        | some row => channelTable.shown row) ∧
      ∀ window : Window, Cell.AreTaken window.parameters →
        store.thingsOnChannel (.text owner) (.text id) window =
          pageOf (.ok (thingTable.connected store (.text owner) (.text id))) (.ok ()) window
            thingTable.load ThingRow.toThing ∧
        store.channelsOfThing (.text owner) (.text id) window =
          pageOf (.ok (channelTable.connected store (.text owner) (.text id))) (.ok ()) window
            channelTable.load ChannelRow.toChannel) ∧
    ∀ key : Value, (store.things.filter fun row => key.equalsCell row.key).length ≤ 1 := by
  intro store
  have hLinked : store.Linked := (Linked.empty supply).run steps
  have hIdentified : store.Identified := (Identified.empty supply).run steps
  have hKeyed : store.Keyed := (Keyed.empty supply).run (Identified.empty supply) steps
  refine ⟨⟨hIdentified.things.nodup, hKeyed, hIdentified.channels.nodup⟩, ⟨?_, ?_, ?_⟩, ?_, ?_, ?_⟩
  · exact fun row hRow => hIdentified.things.valid row.id (List.mem_map_of_mem hRow)
  · exact fun row hRow => hIdentified.channels.valid row.id (List.mem_map_of_mem hRow)
  · exact fun row hRow => isValid_of_pair hLinked hIdentified (List.mem_map_of_mem hRow)
  · intro id hInvalid owner
    exact ⟨hIdentified.things.find?_of_invalid hInvalid owner,
      hIdentified.channels.find?_of_invalid hInvalid owner,
      EntityTable.connected_of_invalid thingTable.isJoinedBy
        (fun _ _ hPair => (isValid_of_pair hLinked hIdentified hPair).1) hInvalid owner,
      EntityTable.connected_of_invalid channelTable.isJoinedBy
        (fun _ _ hPair => (isValid_of_pair hLinked hIdentified hPair).2) hInvalid owner⟩
  · intro owner id
    refine ⟨?_, ?_, fun window hWindow => ?_⟩
    · rw [thing, EntityTable.entity_text hIdentified.things, EntityTable.row?,
        ← thingTable.isOf_text]
      change (store.things.find? _).elim _ _ = _
      cases store.things.find? (thingTable.isOf (.text owner) (.text id)) <;> rfl
    · rw [channel, EntityTable.entity_text hIdentified.channels, EntityTable.row?,
        ← channelTable.isOf_text]
      change (store.channels.find? _).elim _ _ = _
      cases store.channels.find? (channelTable.isOf (.text owner) (.text id)) <;> rfl
    · exact ⟨thingsOnChannel_text hLinked hIdentified owner id hWindow,
        channelsOfThing_text hLinked hIdentified owner id hWindow⟩
  · exact hKeyed.length_filter_key_le_one

/-- A thing is saved and connected. Another one is refused for what was given as its identifier, and
so is a connection to it. -/
def misnamed : List Step :=
  let channelId := Value.text "00000000-0000-0000-0000-0000000000c1"
  let thingId := Value.text "00000000-0000-0000-0000-0000000000d1"
  let thing (id : Value) (key : String) : Mapping :=
    [(.text "id", id), (.text "owner", .text "ada"), (.text "key", .text key)]
  [⟨.saveChannel [(.text "id", channelId), (.text "owner", .text "ada")], none⟩,
    ⟨.saveThing (thing thingId "k"), none⟩, ⟨.connect (.text "ada") channelId thingId, none⟩,
    ⟨.saveThing (thing (.text "d2") "m"), none⟩,
    ⟨.connect (.text "ada") channelId (.text "d2"), none⟩]

theorem identity_sound_misnamed :
    let store := empty.run misnamed
    Identifier.isValid "d2" = false ∧ Cell.AreTaken ({} : Window).parameters ∧
    (store.things.length = 1 ∧ store.connections.length = 1) ∧
    store.things.find? (thingTable.isOf (.text "ada") (.text "d2")) = none ∧
    channelTable.connected store (.text "ada") (.text "d2") = [] ∧
    store.channelsOfThing (.text "ada") (.text "d2") {} =
      pageOf (.ok (channelTable.connected store (.text "ada") (.text "d2"))) (.ok ())
        {} channelTable.load
        ChannelRow.toChannel := by
  intro store
  have hWindow : Cell.AreTaken ({} : Window).parameters := areTaken_window (by decide) (by decide)
  have hInvalid : Identifier.isValid "d2" = false := by decide
  obtain ⟨-, -, hAbsent, hUnguarded, -⟩ := identity_sound .counting misnamed
  obtain ⟨hThing, -, -, hConnected⟩ := hAbsent "d2" hInvalid (.text "ada")
  exact ⟨hInvalid,
    hWindow, by decide, hThing, hConnected, ((hUnguarded "ada" "d2").2.2 {} hWindow).2⟩

end Store

end DeviceRegistry
