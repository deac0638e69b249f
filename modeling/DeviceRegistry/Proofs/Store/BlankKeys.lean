import DeviceRegistry.Proofs.Store.SeparateReads
import DeviceRegistry.Proofs.Store.WriteOutcomes

/-! Blank keys. A save never gives one, as it draws a key where none is given. A change of keys
takes whatever text it is called with, and a thing to which it gives the blank one is authorized by
it like by any other key. -/
namespace DeviceRegistry

/-- Drawn identifiers are not blank, and neither is a text that is given. -/
theorem Identifier.Supply.orDrawn_ne_blank (supply : Supply) (text : String) :
    (supply.orDrawn text).1 ≠ "" := by
  unfold orDrawn
  split
  · intro hBlank
    have hLength := length_of_isValid (supply.isValid_drawn 0)
    rw [show supply.drawn 0 = "" from hBlank] at hLength
    exact absurd hLength (by decide)
  · assumption

namespace Moment

variable {moment : Moment} {thingId key : String}

/-- A change of keys is done, and the thing for which it is done has a blank key from then on. -/
def blanksKey (thingId : String) (moment : Moment) : Bool :=
  match moment.step.operation, moment.answer with
  | .updateKey _ id key, .ok _ => key.equalsText "" && id.equalsText thingId
  | _, _ => false

/-- A step is for one thing at most. -/
theorem servesThing_unique {other : String} (hServes : moment.servesThing thingId = true)
    (hOther : moment.servesThing other = true) : thingId = other := by
  unfold servesThing at hServes hOther
  split at hServes
  · rename_i fields stored hStep hDone
    rw [hStep, hDone] at hOther
    exact (of_decide_eq_true hServes).symm.trans (of_decide_eq_true hOther)
  · rename_i owner id newKey answer hStep hDone
    rw [hStep, hDone] at hOther
    exact Cell.text.inj
      ((Value.equalsText_iff.mp hServes).symm.trans (Value.equalsText_iff.mp hOther))
  · cases hServes

/-- A thing holds a key after a step if the step gives it, or if it held the key before and the step
does not revoke it. -/
theorem holds_after_iff (moment : Moment) (hKeyed : moment.tables.Keyed) :
    moment.after.Holds thingId key ↔ (moment.givesKey key && moment.servesThing thingId) = true ∨
      (moment.tables.Holds thingId key ∧ moment.revokesKey key = false) := by
  constructor
  · intro hHolds
    refine (gives_or_held moment hHolds).imp_right fun hHeld => ⟨hHeld, ?_⟩
    rw [Bool.eq_false_iff]
    exact fun hRevokes => not_holds_of_revokesKey hKeyed hRevokes thingId hHolds
  · rintro (hGives | ⟨hHeld, hKept⟩)
    -- The step that gives the key has a holder for it, which is the one thing that the step is for.
    · obtain ⟨hKey, hServes⟩ := Bool.and_eq_true_iff.mp hGives
      obtain ⟨holder, hHolder, hHolds⟩ := exists_holder hKey
      rw [servesThing_unique hServes hHolder]
      exact hHolds
    · refine (held_or_revokes moment hHeld).resolve_right ?_
      rw [hKept]
      exact Bool.false_ne_true

/-- A save gives no blank key. -/
theorem givesKey_blank_of_save {fields : Mapping}
    (hStep : moment.step.operation = .saveThing fields) :
    moment.givesKey "" = false := by
  rw [givesKey, hStep]
  cases moment.answer with
  | error failure => rfl
  | ok answer =>
      dsimp only
      split
      · exact decide_eq_false (Identifier.Supply.orDrawn_ne_blank _ _)
      · rfl

/-- Of the steps that give keys, only a change of keys gives a blank one. -/
theorem givesKey_blank :
    (moment.givesKey "" && moment.servesThing thingId) = moment.blanksKey thingId := by
  cases hStep : moment.step.operation with
  | saveThing fields =>
      rw [givesKey_blank_of_save hStep, blanksKey, hStep]
      rfl
  | updateKey owner id key =>
      rw [givesKey, servesThing, blanksKey, hStep]
      cases moment.answer <;> rfl
  | _ =>
      rw [givesKey, blanksKey, hStep]
      rfl

end Moment

namespace Store

variable {store : Store}

/-- A thing holds a key after a run exactly if a step gave it that key and no later step
revoked it. -/
theorem holds_iff_lasts {supply : Identifier.Supply} (steps : List Step) (thingId key : String) :
    ((empty supply).run steps).Holds thingId key ↔
      Lasts (fun moment => moment.givesKey key && moment.servesThing thingId)
        (Moment.revokesKey key)
        ((empty supply).trace steps) := by
  induction steps using List.reverseRecOn with
  | nil => exact iff_of_false (fun ⟨_, hRow, _⟩ => nomatch hRow) (not_lasts_nil _ _)
  | append_singleton steps step ih =>
      rw [trace_concat, lasts_concat, ← ih, run_concat]
      exact Moment.holds_after_iff ⟨(empty supply).run steps, step⟩
        ((Keyed.empty supply).run (Identified.empty supply) steps)

/-- The owner of a thing may give it the blank key, as long as no other thing has that. -/
theorem holds_blank_updateKey (hIdentified : store.Identified) {owner thingId : String}
    (hHas : store.HasThing owner thingId)
    (hFree : ∀ other ∈ store.things, other.id ≠ thingId → other.key ≠ .text "") :
    let outcome := store.updateKey (.text owner) (.text thingId) (.text "") none
    outcome.answer = .ok () ∧ outcome.store.Holds thingId "" := by
  obtain ⟨hAnswer, row, hRow, hOwner, hId, hKeyed⟩ :=
    store.exists_keyed hIdentified hHas (by decide) hFree
  exact ⟨hAnswer, _, hKeyed, hId, rfl⟩

/-- Blank keys come from changes of keys alone, and authorize. After every run a thing holds the
blank key exactly if a change of keys gave it that and no later step revoked it, and a channel
accepts the blank key in the name of that thing exactly where it is connected. The blank key is not
found exactly if no thing has it in this way, as after every run without a change to it. The owner
of a thing can always give it the blank key, as long as no other thing has that. -/
theorem blank_keys_exact (supply : Identifier.Supply) (steps : List Step) :
    let store := (empty supply).run steps
    let isBlank (thingId : String) :=
      Lasts (Moment.blanksKey thingId) (Moment.revokesKey "") ((empty supply).trace steps)
    (∀ thingId, store.Holds thingId "" ↔ isBlank thingId) ∧
    (∀ channelId thingId, store.authorizedByKey (.text channelId) (.text "") = .ok thingId ↔
      isBlank thingId ∧ store.Joins channelId thingId) ∧
    (∀ channelId, store.authorizedByKey (.text channelId) (.text "") =
      .error (.absent (.entity .thing)) ↔
      ∀ thingId, ¬ isBlank thingId) ∧
    ((∀ moment ∈ (empty supply).trace steps, ∀ thingId, moment.blanksKey thingId = false) →
      (∀ row ∈ store.things, row.key ≠ .text "") ∧
      ∀ channelId,
        store.authorizedByKey (.text channelId) (.text "") = .error (.absent (.entity .thing))) ∧
    ∀ owner thingId, store.HasThing owner thingId →
      (∀ other ∈ store.things, other.id ≠ thingId → other.key ≠ .text "") →
      let outcome := store.updateKey (.text owner) (.text thingId) (.text "") none
      outcome.answer = .ok () ∧ outcome.store.Holds thingId "" := by
  intro store isBlank
  have hIdentified : store.Identified := (Identified.empty supply).run steps
  have hKeyed : store.Keyed := (Keyed.empty supply).run (Identified.empty supply) steps
  have hHolds (thingId : String) : store.Holds thingId "" ↔ isBlank thingId := by
    refine (holds_iff_lasts steps thingId "").trans ?_
    simp only [Moment.givesKey_blank]
    exact Iff.rfl
  have hAbsent (channelId : String) :
      store.authorizedByKey (.text channelId) (.text "") = .error (.absent (.entity .thing)) ↔
        ∀ thingId, ¬ isBlank thingId := by
    rw [authorizedByKey_eq_absent_iff hKeyed]
    exact forall_congr' fun thingId => not_congr (hHolds thingId)
  refine ⟨hHolds, fun channelId thingId => ?_, hAbsent, fun hNever => ?_,
    fun owner thingId => holds_blank_updateKey hIdentified⟩
  · rw [authorizedByKey_eq_ok_iff hKeyed, hHolds]
  · have hNone (thingId : String) : ¬ isBlank thingId := by
      intro hBlank
      obtain ⟨moment, hMoment, hBlanks⟩ := exists_begins_of_lasts hBlank
      rw [hNever moment hMoment thingId] at hBlanks
      cases hBlanks
    refine ⟨fun row hRow hKey => ?_, fun channelId => (hAbsent channelId).mpr hNone⟩
    exact hNone row.id ((hHolds row.id).mp ⟨row, hRow, rfl, hKey⟩)

/-- A connected thing is given the blank key, and the channel accepts it. -/
theorem blank_keys_exact_cleared :
    let channelId := Value.text "00000000-0000-0000-0000-0000000000c1"
    let thingId := "00000000-0000-0000-0000-0000000000d1"
    let store := empty.run contested
    let cleared := empty.run (contested ++ [rekeying "1" ""])
    store.authorizedByKey channelId (.text "") = .error (.absent (.entity .thing)) ∧
    (store.updateKey (.text "ada") (.text thingId) (.text "") none).answer = .ok () ∧
    cleared.Holds thingId "" ∧ cleared.authorizedByKey channelId (.text "") = .ok thingId := by
  intro channelId thingId store cleared
  obtain ⟨-, -, -, hNever, hClears⟩ := blank_keys_exact .counting contested
  obtain ⟨hBlank, hAccepts, -⟩ := blank_keys_exact .counting (contested ++ [rekeying "1" ""])
  have hSaved : ∀ moment ∈ empty.trace contested, ∀ thingId, moment.blanksKey thingId = false := by
    simp [trace, contested, Moment.blanksKey]
  obtain ⟨hKeys, hAbsent⟩ := hNever hSaved
  have hOwned : store.HasThing "ada" thingId := ⟨_, List.mem_cons_self, rfl, rfl⟩
  obtain ⟨hDone, hHolds⟩ := hClears "ada" thingId hOwned fun other hOther _ => hKeys other hOther
  have hCleared : cleared.Holds thingId "" := by
    change (empty.run (contested ++ [rekeying "1" ""])).Holds thingId ""
    rw [run_concat]
    exact hHolds
  have hJoins : cleared.Joins "00000000-0000-0000-0000-0000000000c1" thingId :=
    ⟨_, List.mem_cons_self, rfl, rfl⟩
  exact ⟨hAbsent _, hDone, hCleared, (hAccepts _ thingId).mpr
    ⟨(hBlank thingId).mp hCleared, hJoins⟩⟩

end Store

end DeviceRegistry
