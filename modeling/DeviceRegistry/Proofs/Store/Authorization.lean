import DeviceRegistry.Proofs.Store.ConnectionHistory
import DeviceRegistry.Proofs.Store.Keys

/-! Who may publish. A key is looked up first and a connection second, so that a channel accepts
a key exactly when the one thing that holds the key is connected to it. A key that was taken from
its thing is accepted by no channel until it is given to a thing again, and then it stands for
that thing. -/
namespace DeviceRegistry.Store

variable {store : Store}

/-- The channel and the thing are connected, whoever owns them. -/
def Joins (store : Store) (channelId thingId : String) : Prop :=
  ∃ connection ∈ store.connections, connection.channelId = channelId ∧ connection.thingId = thingId

/-- A connection is looked for without regard to its owner. -/
theorem joins_iff {channelId thingId : String} :
    store.Joins channelId thingId ↔
      store.connections.any (ConnectionRow.joins (.text channelId) (.text thingId)) = true := by
  rw [List.any_eq_true]
  refine exists_congr fun connection => and_congr_right fun _ => ?_
  rw [ConnectionRow.joins_text_iff, ConnectionRow.pair, Prod.mk.injEq]

theorem thingByKey_text (store : Store) (key : String) :
    store.thingByKey (.text key) =
      match store.things.find? fun row => (Value.text key).equalsCell row.key with
      | some row => .ok row.id
      | none => .error (.absent (.entity .thing)) := rfl

/-- The thing of a key is the one that holds it. -/
theorem thingByKey_of_holds (hKeyed : store.Keyed) {thingId key : String}
    (hHolds : store.Holds thingId key) :
    store.thingByKey (.text key) = .ok thingId := by
  rw [thingByKey_text]
  cases hFound : store.things.find? fun row => (Value.text key).equalsCell row.key with
  | some row =>
      have hEquals : (Value.text key).equalsCell row.key =
          true := by simpa using List.find?_some hFound
      have hKey := (Value.equalsCell_text_iff key).mp hEquals
      exact congrArg Except.ok
        (hKeyed.holder_unique ⟨row, List.mem_of_find?_eq_some hFound, rfl, hKey⟩ hHolds)
  | none =>
      obtain ⟨row, hRow, -, hKey⟩ := hHolds
      exact absurd ((Value.equalsCell_text_iff key).mpr hKey)
        (List.find?_eq_none.mp hFound row hRow)

/-- A key that no thing holds leads to none. -/
theorem thingByKey_of_free {key : String} (hFree : ∀ thingId, ¬ store.Holds thingId key) :
    store.thingByKey (.text key) = .error (.absent (.entity .thing)) := by
  have hNone : (store.things.find? fun row => (Value.text key).equalsCell row.key) = none := by
    rw [List.find?_eq_none]
    exact fun row hRow hKey => hFree row.id ⟨row, hRow, rfl,
      (Value.equalsCell_text_iff key).mp hKey⟩
  rw [thingByKey_text, hNone]

/-- The thing that holds a key on the first tables, if on the second ones it may publish on a
channel. Steps of others may come between the two reads. -/
def authorizedAcross (first second : Store) (channelId key : Value) : Except Failure String := do
  let thingId ← first.thingByKey key
  second.authorize channelId (.text thingId)
  return thingId

/-- With nothing between the two reads, this is the authorization by a key. -/
theorem authorizedAcross_self (store : Store) :
    store.authorizedAcross store = store.authorizedByKey := rfl

section Across

variable {first second : Store} {channelId thingId key : String}

/-- The holder of a key is accepted where it is connected, and named where it is not. -/
theorem authorizedAcross_of_holds (hKeyed : first.Keyed) (hHolds : first.Holds thingId key) :
    first.authorizedAcross second (.text channelId) (.text key) =
      if second.connections.any (ConnectionRow.joins (.text channelId) (.text thingId))
        then .ok thingId
      else .error (.unauthorized (.text thingId) (.text channelId)) := by
  have hAuthorize : second.authorize (.text channelId) (.text thingId) =
      if second.connections.any (ConnectionRow.joins (.text channelId) (.text thingId)) then .ok ()
      else .error (.unauthorized (.text thingId) (.text channelId)) := rfl
  rw [authorizedAcross, thingByKey_of_holds hKeyed hHolds]
  change (second.authorize (.text channelId) (.text thingId) >>= fun _ => pure thingId) = _
  rw [hAuthorize]
  split <;> rfl

/-- A key that no thing holds is not found, whatever the channel. -/
theorem authorizedAcross_of_free (hFree : ∀ thingId, ¬ first.Holds thingId key) :
    first.authorizedAcross second (.text channelId) (.text key) =
      .error (.absent (.entity .thing)) := by
  rw [authorizedAcross, thingByKey_of_free hFree]
  rfl

/-- A thing is accepted exactly if it held the key at the first read and is connected
at the second. -/
theorem authorizedAcross_eq_ok_iff (hKeyed : first.Keyed) :
    first.authorizedAcross second (.text channelId) (.text key) = .ok thingId ↔
      first.Holds thingId key ∧ second.Joins channelId thingId := by
  constructor
  · intro hAccepted
    by_cases hHeld : ∃ holder, first.Holds holder key
    · obtain ⟨holder, hHolds⟩ := hHeld
      rw [authorizedAcross_of_holds hKeyed hHolds] at hAccepted
      split at hAccepted
      · rename_i hJoined
        obtain rfl := Except.ok.inj hAccepted
        exact ⟨hHolds, joins_iff.mpr hJoined⟩
      · cases hAccepted
    · rw [authorizedAcross_of_free (not_exists.mp hHeld)] at hAccepted
      cases hAccepted
  · rintro ⟨hHolds, hJoins⟩
    rw [authorizedAcross_of_holds hKeyed hHolds, if_pos (joins_iff.mp hJoins)]

end Across

/-- A key that is held authorizes its thing exactly where that is connected. -/
theorem authorizedByKey_of_holds (hKeyed : store.Keyed) {thingId key : String}
    (hHolds : store.Holds thingId key) (channelId : String) :
    store.authorizedByKey (.text channelId) (.text key) =
      if store.connections.any (ConnectionRow.joins (.text channelId) (.text thingId))
        then .ok thingId
      else .error (.unauthorized (.text thingId) (.text channelId)) := by
  rw [← authorizedAcross_self, authorizedAcross_of_holds hKeyed hHolds]

theorem authorizedByKey_of_free {key : String} (hFree : ∀ thingId, ¬ store.Holds thingId key)
    (channelId : String) :
    store.authorizedByKey (.text channelId) (.text key) = .error (.absent (.entity .thing)) := by
  rw [← authorizedAcross_self, authorizedAcross_of_free hFree]

/-- The thing that a key authorizes is the one that holds it, if it may publish. -/
theorem authorizedByKey_eq_ok_iff (hKeyed : store.Keyed) {channelId key thingId : String} :
    store.authorizedByKey (.text channelId) (.text key) = .ok thingId ↔
      store.Holds thingId key ∧ store.Joins channelId thingId := by
  rw [← authorizedAcross_self, authorizedAcross_eq_ok_iff hKeyed]

/-- Authorization finds nothing exactly if nobody holds the key. -/
theorem authorizedByKey_eq_absent_iff (hKeyed : store.Keyed) {channelId key : String} :
    store.authorizedByKey (.text channelId) (.text key) = .error (.absent (.entity .thing)) ↔
      ∀ thingId, ¬ store.Holds thingId key := by
  refine ⟨?_, fun hFree => authorizedByKey_of_free hFree channelId⟩
  intro hAbsent thingId hHolds
  rw [authorizedByKey_of_holds hKeyed hHolds] at hAbsent
  split at hAbsent <;> cases hAbsent

/-- A key that nothing holds at first is held later only by the thing that was given it last. A step
that gives it to another thing leaves it to that one alone, as keys are kept apart. -/
theorem lasts_of_holds (hIdentified : store.Identified) (hKeyed : store.Keyed) {key : String}
    (hFree : ∀ thingId, ¬ store.Holds thingId key) {steps : List Step} {thingId : String}
    (hHolds : (store.run steps).Holds thingId key) :
    Lasts (fun moment => moment.givesKey key && moment.servesThing thingId) (Moment.givesKey key)
      (store.trace steps) := by
  induction steps using List.reverseRecOn with
  | nil => exact absurd hHolds (hFree thingId)
  | append_singleton steps step ih =>
      have hAfter : ((store.run steps).perform step).store.Keyed := by
        rw [← run_concat]
        exact hKeyed.run hIdentified (steps ++ [step])
      rw [run_concat] at hHolds
      rw [trace_concat, lasts_concat]
      rcases Moment.gives_or_held ⟨store.run steps, step⟩ hHolds with hGives | hHeld
      · exact Or.inl hGives
      · cases hGives : Moment.givesKey key ⟨store.run steps, step⟩ with
        | false => exact Or.inr ⟨ih hHeld, rfl⟩
        | true =>
            obtain ⟨holder, hServes, hHolder⟩ := Moment.exists_holder hGives
            obtain rfl : holder = thingId := hAfter.holder_unique hHolder hHolds
            exact Or.inl hServes

/-- A key that a step of a run has revoked is held at the end only by the thing that was given it
last since. -/
theorem lasts_of_revoked {supply : Identifier.Supply} {earlier later : List Step} {step : Step}
    {thingId key : String}
    (hRevokes : Moment.revokesKey key ⟨(empty supply).run earlier, step⟩ = true)
    (hHolds : ((empty supply).run (earlier ++ step :: later)).Holds thingId key) :
    Lasts (fun moment => moment.givesKey key && moment.servesThing thingId) (Moment.givesKey key)
      ((Moment.after ⟨(empty supply).run earlier, step⟩).trace later) := by
  have hAfter : (empty supply).run (earlier ++ [step]) =
      Moment.after ⟨(empty supply).run earlier, step⟩ :=
    run_concat (empty supply) earlier step
  have hFree :=
    Moment.not_holds_of_revokesKey
      ((Keyed.empty supply).run (Identified.empty supply) earlier) hRevokes
  rw [← hAfter] at hFree ⊢
  rw [← List.singleton_append, ← List.append_assoc, run_append] at hHolds
  exact lasts_of_holds ((Identified.empty supply).run _)
    ((Keyed.empty supply).run (Identified.empty supply) _) hFree hHolds

/-- Authorization is exact. After every run a channel accepts a key in the name of a thing exactly
when that thing holds the key and is connected to the channel, and one thing at most holds it. A key
that no thing holds is not found, and the holder of a key is refused where it is not connected. Once
a step of the run has revoked a key, the key is not found on any channel unless a later step gives
it to a thing, and then it is accepted in the name of the thing alone that was given it last. -/
theorem authorization_exact (supply : Identifier.Supply) (steps : List Step) (key : String) :
    let store := (empty supply).run steps
    let answer (channelId : String) := store.authorizedByKey (.text channelId) (.text key)
    (∀ channelId thingId, answer channelId = .ok thingId ↔
      store.Holds thingId key ∧ store.Joins channelId thingId) ∧
    (∀ first second, store.Holds first key → store.Holds second key → first = second) ∧
    (∀ channelId, answer channelId = .error (.absent (.entity .thing)) ↔
      ∀ row ∈ store.things, row.key ≠ .text key) ∧
    (∀ channelId thingId, store.Holds thingId key → ¬ store.Joins channelId thingId →
      answer channelId = .error (.unauthorized (.text thingId) (.text channelId))) ∧
    ∀ earlier step later, steps = earlier ++ step :: later →
      let revoking : Moment := ⟨(empty supply).run earlier, step⟩
      let history := revoking.after.trace later
      revoking.revokesKey key = true →
      ((∀ moment ∈ history, moment.givesKey key = false) →
        ∀ channelId, answer channelId = .error (.absent (.entity .thing))) ∧
      ∀ channelId thingId, answer channelId = .ok thingId →
        Lasts (fun moment => moment.givesKey key && moment.servesThing thingId)
          (Moment.givesKey key) history := by
  intro store answer
  have hKeyed : store.Keyed := (Keyed.empty supply).run (Identified.empty supply) steps
  refine ⟨fun _ _ => authorizedByKey_eq_ok_iff hKeyed, fun _ _ => hKeyed.holder_unique, ?_, ?_, ?_⟩
  · intro channelId
    rw [authorizedByKey_eq_absent_iff hKeyed]
    constructor
    · exact fun hFree row hRow hKey => hFree row.id ⟨row, hRow, rfl, hKey⟩
    · rintro hFree thingId ⟨row, hRow, -, hKey⟩
      exact hFree row hRow hKey
  · intro channelId thingId hHolds hApart
    refine (authorizedByKey_of_holds hKeyed hHolds channelId).trans (if_neg ?_)
    exact fun hJoined => hApart (joins_iff.mpr hJoined)
  · rintro earlier step later rfl revoking history hRevokes
    constructor
    · intro hNever channelId
      refine authorizedByKey_of_free ?_ channelId
      intro thingId hHolds
      obtain ⟨start, hStart, hGives⟩ := exists_begins_of_lasts (lasts_of_revoked hRevokes hHolds)
      simp [hNever start hStart] at hGives
    · intro channelId thingId hAccepted
      exact lasts_of_revoked hRevokes ((authorizedByKey_eq_ok_iff hKeyed).mp hAccepted).1

/-- Two things of one owner, both connected to one channel. -/
def twoPublishers : List Step :=
  let channelId := Value.text "00000000-0000-0000-0000-0000000000c1"
  let thingId (n : String) := Value.text ("00000000-0000-0000-0000-0000000000d" ++ n)
  let thing (n key : String) : Mapping :=
    [(.text "id", thingId n), (.text "owner", .text "ada"), (.text "key", .text key)]
  [⟨.saveChannel [(.text "id", channelId), (.text "owner", .text "ada")], none⟩,
    ⟨.saveThing (thing "1" "k"), none⟩, ⟨.saveThing (thing "2" "m"), none⟩,
    ⟨.connect (.text "ada") channelId (thingId "1"), none⟩,
    ⟨.connect (.text "ada") channelId (thingId "2"), none⟩]

def rekeying (n key : String) : Step :=
  ⟨.updateKey (.text "ada") (.text ("00000000-0000-0000-0000-0000000000d" ++ n)) (.text key), none⟩

theorem authorization_exact_rotated :
    let channelId := Value.text "00000000-0000-0000-0000-0000000000c1"
    let second := "00000000-0000-0000-0000-0000000000d2"
    let revoking : Moment := ⟨empty.run twoPublishers, rekeying "1" "n"⟩
    revoking.revokesKey "k" = true ∧
    (∀ channelId, (empty.run (twoPublishers ++ [rekeying "1" "n"])).authorizedByKey
      (.text channelId) (.text "k") = .error (.absent (.entity .thing))) ∧
    let store := empty.run (twoPublishers ++ [rekeying "1" "n", rekeying "2" "k"])
    store.authorizedByKey channelId (.text "k") = .ok second ∧
    store.authorizedByKey (.text "elsewhere") (.text "k") =
      .error (.unauthorized (.text second) (.text "elsewhere")) ∧
    Lasts (fun moment => moment.givesKey "k" && moment.servesThing second) (Moment.givesKey "k")
      (revoking.after.trace [rekeying "2" "k"]) := by
  intro channelId second revoking
  have hRevokes : revoking.revokesKey "k" = true := rfl
  have hRotated := authorization_exact .counting (twoPublishers ++ [rekeying "1" "n"]) "k"
  have hPassedOn :=
    authorization_exact .counting (twoPublishers ++ [rekeying "1" "n", rekeying "2" "k"]) "k"
  have hAccepted :
      (empty.run (twoPublishers ++ [rekeying "1" "n", rekeying "2" "k"])).authorizedByKey channelId
      (.text "k") = .ok second := rfl
  have hApart : ¬ (empty.run (twoPublishers ++ [rekeying "1" "n", rekeying "2" "k"])).Joins
      "elsewhere" second :=
    fun hJoins => Bool.false_ne_true (joins_iff.mp hJoins)
  refine ⟨hRevokes, ?_, hAccepted, ?_, ?_⟩
  · exact (hRotated.2.2.2.2 twoPublishers (rekeying "1" "n") [] rfl hRevokes).1 (by simp [trace])
  · exact hPassedOn.2.2.2.1 _ _ ((hPassedOn.1 _ _).mp hAccepted).1 hApart
  · exact (hPassedOn.2.2.2.2 twoPublishers _ _ rfl hRevokes).2 _ second hAccepted

end DeviceRegistry.Store
