import DeviceRegistry.Proofs.Store.ShareSteps

/-! Owners do not interfere with each other. What an owner has and sees after a run of all owners is
what the owner's own steps alone lead to. -/
namespace DeviceRegistry.Store

variable {owner : String} {own store : Store}

/-- A run leads an owner where the owner's own steps lead. -/
theorem Mirrors.run (hMirrors : Mirrors owner own store) (hLinked : store.Linked)
    (hIdentified : store.Identified) {steps : List Step} (hPlain : steps.all Step.isPlain = true)
    (hNames : ∀ step ∈ steps, step.isOf owner = true → step.operation.namesSaved = true)
    (hFree : ∀ moment ∈ store.trace steps, moment.step.isOf owner = true →
      moment.conflicts = false) :
    Mirrors owner (own.run (steps.filter (Step.isOf owner))) (store.run steps) := by
  induction steps generalizing own store with
  | nil => exact hMirrors
  | cons step steps ih =>
      rw [List.all_cons, Bool.and_eq_true] at hPlain
      have hLinkedAfter := hLinked.effect (store.perform_effect step)
      have hIdentifiedAfter := hIdentified.effect (store.perform_effect step)
      have hNamesAfter := fun other hOther => hNames other (List.mem_cons_of_mem _ hOther)
      have hFreeAfter := fun moment hMoment => hFree moment (List.mem_cons_of_mem _ hMoment)
      cases hOf : step.isOf owner with
      | true =>
          rw [List.filter_cons_of_pos hOf, run_cons, run_cons]
          have hStep := hMirrors.perform_own hLinked hIdentified hPlain.1 hOf
            (hNames step List.mem_cons_self hOf) (hFree ⟨store, step⟩ List.mem_cons_self hOf)
          exact ih hStep hLinkedAfter hIdentifiedAfter hPlain.2 hNamesAfter hFreeAfter
      | false =>
          rw [List.filter_cons_of_neg (by simp [hOf]), run_cons]
          have hStep := hMirrors.perform_other hLinked hPlain.1 hOf
          exact ih hStep hLinkedAfter hIdentifiedAfter hPlain.2 hNamesAfter hFreeAfter

/-- Owners do not interfere. Where no plain step of an owner comes to a conflict, and what the owner
saves is given its identifiers and keys, the rows of the owner after a run of all owners are the
rows after the run of the owner's own steps, and every search of the owner has the same answer after
both runs. -/
theorem owner_isolated (supply : Identifier.Supply) (steps : List Step) (owner : String)
    (hPlain : steps.all Step.isPlain = true)
    (hNames : ∀ step ∈ steps, step.isOf owner = true → step.operation.namesSaved = true)
    (hFree : ∀ moment ∈ (empty supply).trace steps, moment.step.isOf owner = true →
      moment.conflicts = false) :
    let store := (empty supply).run steps
    let own := (empty supply).run (steps.filter (Step.isOf owner))
    own.things = (store.things.filter fun row => row.owner = owner) ∧
      own.channels = (store.channels.filter fun row => row.owner = owner) ∧
      own.connections =
        (store.connections.filter fun row => row.channelOwner = owner || row.thingOwner = owner) ∧
      ∀ operation : Operation, operation.isReadingOf owner = true →
        (own.perform ⟨operation, none⟩).answer = (store.perform ⟨operation, none⟩).answer := by
  intro store own
  have hLinked : store.Linked := (Linked.empty supply).run steps
  have hIdentified : store.Identified := (Identified.empty supply).run steps
  have hStart : Mirrors owner (empty supply) (empty supply) := ⟨rfl, rfl, rfl⟩
  have hMirrors : Mirrors owner own store :=
    hStart.run (Linked.empty supply) (Identified.empty supply) hPlain hNames hFree
  refine ⟨hMirrors.things, hMirrors.channels, ?_, ?_⟩
  · rw [hMirrors.connections]
    apply List.filter_congr
    intro row hRow
    rw [hLinked.oneOwner row hRow, Bool.or_self]
  · exact fun operation hReading => hMirrors.answer_eq hLinked hIdentified hReading none

/-- One owner sets up a connection while another one aims changes at its ends, and fails to save a
thing under an identifier that is taken. -/
def besieged : List Step :=
  let channelId := Value.text "00000000-0000-0000-0000-0000000000c1"
  let thingId := Value.text "00000000-0000-0000-0000-0000000000d1"
  let otherId := Value.text "00000000-0000-0000-0000-0000000000d2"
  let channel (owner : String) : Mapping := [(.text "id", channelId), (.text "owner", .text owner)]
  let thing (id : Value) (owner key : String) : Mapping :=
    [(.text "id", id), (.text "owner", .text owner), (.text "key", .text key)]
  [⟨.saveChannel (channel "ada"), none⟩, ⟨.saveThing (thing otherId "bob" "b"), none⟩,
    ⟨.saveThing (thing thingId "ada" "a"), none⟩, ⟨.saveThing (thing thingId "bob" "c"), none⟩,
    ⟨.connect (.text "bob") channelId otherId, none⟩,
    ⟨.connect (.text "ada") channelId thingId, none⟩,
    ⟨.updateThing (thing thingId "bob" "d"), none⟩, ⟨.removeChannel (.text "bob") channelId, none⟩,
    ⟨.updateKey (.text "ada") thingId (.text "e"), none⟩]

theorem owner_isolated_besieged :
    besieged.all Step.isPlain = true ∧
    (∀ step ∈ besieged, step.isOf "ada" = true → step.operation.namesSaved = true) ∧
    (∀ moment ∈ empty.trace besieged, moment.step.isOf "ada" = true → moment.conflicts = false) ∧
    let store := empty.run besieged
    let own := empty.run (besieged.filter (Step.isOf "ada"))
    own.things = (store.things.filter fun row => row.owner = "ada") ∧
      own.channels = (store.channels.filter fun row => row.owner = "ada") ∧
      own.connections =
        (store.connections.filter fun row => row.channelOwner = "ada" || row.thingOwner = "ada") ∧
      ∀ operation : Operation, operation.isReadingOf "ada" = true →
        (own.perform ⟨operation, none⟩).answer = (store.perform ⟨operation, none⟩).answer := by
  have hPlain : besieged.all Step.isPlain = true := by decide
  have hNames : ∀ step ∈ besieged,
      step.isOf "ada" = true → step.operation.namesSaved = true := by decide
  have hFree : ∀ moment ∈ empty.trace besieged, moment.step.isOf "ada" = true →
      moment.conflicts = false := by
    decide +kernel
  exact ⟨hPlain, hNames, hFree, owner_isolated .counting besieged "ada" hPlain hNames hFree⟩

end DeviceRegistry.Store
