import DeviceRegistry.Proofs.Store.Listing
import Mathlib.Data.List.Perm.Basic
import Mathlib.Data.List.Sort

/-! What is read of a channel is what was saved. The log holds what was kept of the messages of all
batches that succeeded, in the order in which they were saved, and reading a channel without a query
gives those that are addressed to it, from the latest to the earliest. -/
namespace DeviceRegistry

section Related

variable {α β : Type} {related : α → β → Prop} {first : List α} {second : List β}

/-- Lists that correspond do so number by number. -/
theorem forall₂_zipIdx (hRelated : List.Forall₂ related first second) (start : Nat) :
    List.Forall₂ (fun a b => related a.1 b.1 ∧ a.2 = b.2) (first.zipIdx start)
      (second.zipIdx start) := by
  induction hRelated generalizing start with
  | nil => exact .nil
  | cons hHead hTail ih => exact .cons ⟨hHead, rfl⟩ (ih (start + 1))

/-- An order of one list is an order of every list that corresponds to it. -/
theorem pairwise_of_forall₂ {order : α → α → Prop} {order' : β → β → Prop}
    (hRelated : List.Forall₂ related first second) (hPairwise : first.Pairwise order)
    (hOrder : ∀ a b a' b', related a a' → related b b' → order a b → order' a' b') :
    second.Pairwise order' := by
  induction hRelated with
  | nil => exact .nil
  | cons hHead hTail ih =>
      obtain ⟨hFirst, hOthers⟩ := List.pairwise_cons.mp hPairwise
      refine List.pairwise_cons.mpr ⟨fun b hb => ?_, ih hOthers⟩
      obtain ⟨a, ha, hSame⟩ := exists_mem_of_forall₂ hTail.flip hb
      exact hOrder _ _ _ _ hHead hSame (hFirst a ha)

end Related

section Zero

variable (x y : Binary64)

@[simp] theorem Binary64.place_withoutSignOfZero : x.withoutSignOfZero.place = x.place := by
  rw [withoutSignOfZero]
  split
  · rename_i hZero
    have hRank : x.rank = 0 := of_decide_eq_true hZero
    rw [place, place, hRank]
    cases x.negative <;> rfl
  · rfl

/-- Whether zero has a sign does not matter for the order of numbers. -/
theorem Binary64.less_withoutSignOfZero :
    x.withoutSignOfZero.less y.withoutSignOfZero = x.less y := by
  simp [less]

theorem Binary64.equals_withoutSignOfZero :
    x.withoutSignOfZero.equals y.withoutSignOfZero = x.equals y := by
  simp [equals]

end Zero

namespace MessageRow

/-- No two messages stand before each other. -/
theorem Precedes.asymm {a b : MessageRow} (hPrecedes : a.Precedes b) : ¬ b.Precedes a := by
  simp only [Precedes, Binary64.less, Binary64.equals, Bool.and_eq_true,
    decide_eq_true_eq] at hPrecedes ⊢
  omega

instance : Std.Asymm Precedes where
  asymm _ _ := Precedes.asymm

end MessageRow

/-- The first of two numbered messages is the later one, or both have one time and the first has the
smaller number. -/
def Message.IsBefore (a b : Message × Nat) : Prop :=
  b.1.time.less a.1.time = true ∨ b.1.time.equals a.1.time = true ∧ a.2 < b.2

/-- The items are what was kept of the saved messages for a channel: of each of them once, from the
latest to the earliest, and of messages of one time in the order in which they were saved. -/
def Message.IsHistory (channel : String) (saved items : List Message) : Prop :=
  ∃ listed : List (Message × Nat),
    listed.Perm ((saved.zipIdx 1).filter fun entry => entry.1.channel = channel) ∧
    listed.Pairwise IsBefore ∧
    List.Forall₂ (fun entry item => entry.1.IsKeptAs item) listed items

namespace Store

def savedMessages (supply : Identifier.Supply) (steps : List Step) : List Message :=
  ((empty supply).trace steps).flatMap Moment.saved

/-- A read of the channel without a query answers with all of the items, unless they are cut off by
a limit. -/
def ReadsAll (store : Store) (channel : String) (items : List Message) : Prop :=
  ∀ (query : Value) (limit : Int), query.isBlank = true → Number.fitsWord limit = true →
    (limit < 0 ∨ items.length ≤ limit) →
    (store.readMessages (.text channel) ⟨some 0, some limit⟩ query).answer =
      .ok ⟨items.length, 0, limit, items⟩

/-- Messages that are added one part after the other are numbered as if they were added together. -/
theorem messageRows_append {store after : Store} {earlier : List Message}
    (hAfter : after.messages = store.messages ++ store.messageRows earlier) (later : List Message) :
    store.messageRows (earlier ++ later) = store.messageRows earlier ++
      after.messageRows later := by
  have hStart : after.messages.length + 1 = store.messages.length + 1 + earlier.length := by
    rw [hAfter, List.length_append, Logged.length_messageRows, Nat.add_right_comm]
  rw [messageRows, messageRows, messageRows, List.zipIdx_append, List.map_append, hStart]

/-- Runs add to the log what is kept of the messages that they save. -/
theorem messages_run (store : Store) (steps : List Step) :
    ∃ kept, List.Forall₂ Message.IsKeptAs ((store.trace steps).flatMap Moment.saved) kept ∧
      (store.run steps).messages = store.messages ++ store.messageRows kept := by
  induction steps generalizing store with
  | nil => exact ⟨[], .nil, (List.append_nil _).symm⟩
  | cons step steps ih =>
      obtain ⟨kept, hKept, hStep⟩ := store.messages_perform step
      obtain ⟨others, hOthers, hSteps⟩ := ih (store.perform step).store
      refine ⟨kept ++ others, List.rel_append hKept hOthers, ?_⟩
      rw [run_cons, hSteps, messageRows_append hStep, hStep, List.append_assoc]

def channelRows (store : Store) (channel : String) : List MessageRow :=
  store.messagesSelected (.text channel) []

section Channel

variable {store : Store} (hLogged : store.Logged) (channel : String)

include hLogged in
/-- A read of a channel without a query lists its messages. -/
theorem lists_channelRows (query : Value) (hBlank : query.isBlank = true) :
    Lists (fun window => (store.readMessages (.text channel) window query).answer)
      (store.channelRows channel)
      MessageRow.toMessage (fun row => row ∈ store.messages ∧ row.message.channel = channel)
      MessageRow.Precedes := by
  have hConditions : Filter.Query.conditions query = .ok [] := by
    rw [Filter.Query.conditions, hBlank]
    rfl
  have hLists : Lists _ (store.channelRows channel) _ _ _ :=
    lists_messagesSelected hLogged hConditions (Cell.areTaken_texts [channel])
  refine ⟨hLists.toPaginates, fun row => (hLists.mem row).trans (and_congr_right fun _ => ?_),
    hLists.order⟩
  rw [Value.equalsText_text, decide_eq_true_eq]
  exact ⟨fun hBoth => hBoth.1.symm, fun hChannel => ⟨hChannel.symm, nofun⟩⟩

include hLogged in
/-- The rows of a channel are shown as they are. -/
theorem readsAll_channelRows :
    store.ReadsAll channel ((store.channelRows channel).map MessageRow.message) := by
  intro query limit hBlank hLimit hAll
  have hInside : rowsIn 0 limit (store.channelRows channel) = store.channelRows channel := by
    rw [List.length_map] at hAll
    rw [rowsIn, Int.toNat_zero, List.drop_zero]
    split
    · rfl
    · exact List.take_of_length_le (by omega)
  rw [(lists_channelRows hLogged channel query hBlank).page 0 limit rfl hLimit, hInside,
    mapM_toMessage, List.length_map]
  rfl

theorem channelRows_perm (store : Store) (channel : String) :
    (store.channelRows channel).Perm
      (store.messages.filter fun row => row.message.channel = channel) := by
  have hSame :
      (fun row : MessageRow => (Value.text channel).equalsText row.message.channel && true) =
      fun row => decide (row.message.channel = channel) := by
    funext row
    rw [Value.equalsText_text, Bool.and_true, Bool.eq_iff_iff, decide_eq_true_eq,
      decide_eq_true_eq, eq_comm]
  rw [channelRows, messagesSelected, ← hSame]
  exact orderedBy_perm _ _

end Channel

/-- The rows of a channel after a run are the history of the channel. -/
theorem isHistory_channelRows {supply : Identifier.Supply} (steps : List Step) (channel : String) :
    Message.IsHistory channel (savedMessages supply steps)
      ((((empty supply).run steps).channelRows channel).map MessageRow.message) := by
  obtain ⟨kept, hKept, hMessages⟩ := (empty supply).messages_run steps
  have hRows : List.Forall₂ (fun (entry : Message × Nat) (row : MessageRow) =>
      entry.1.IsKeptAs row.message ∧ entry.2 = row.number)
      ((savedMessages supply steps).zipIdx 1) ((empty supply).run steps).messages := by
    rw [hMessages]
    exact List.forall₂_map_right_iff.mpr (forall₂_zipIdx hKept 1)
  have hOnChannel := List.rel_filter (p := fun entry : Message × Nat => entry.1.channel = channel)
    (q := fun row : MessageRow => row.message.channel = channel)
    (fun entry row hSame => by simp [hSame.1.channel]) hRows
  obtain ⟨listed, hListed, hPerm⟩ :=
    List.perm_comp_forall₂ (((empty supply).run steps).channelRows_perm channel) hOnChannel.flip
  refine ⟨listed, hPerm, ?_, ?_⟩
  · refine pairwise_of_forall₂ hListed
      (lists_channelRows ((Logged.empty supply).run steps) channel .null rfl).order ?_
    intro a b entry other hEntry hOther hPrecedes
    rw [MessageRow.Precedes, hEntry.1.time, hOther.1.time, Binary64.less_withoutSignOfZero,
      Binary64.equals_withoutSignOfZero, ← hEntry.2, ← hOther.2] at hPrecedes
    exact hPrecedes
  · exact List.forall₂_map_right_iff.mpr (hListed.flip.imp fun _ _ hSame => hSame.1)

/-- Rows of a channel stay, in their order, whatever is done later. -/
theorem channelRows_sublist {supply : Identifier.Supply} (steps later : List Step)
    (channel : String) :
    (((empty supply).run steps).channelRows channel).Sublist
      (((empty supply).run (steps ++ later)).channelRows channel) := by
  have hBefore := lists_channelRows ((Logged.empty supply).run steps) channel .null rfl
  have hAfter := lists_channelRows ((Logged.empty supply).run (steps ++ later)) channel .null rfl
  obtain ⟨kept, -, hMessages⟩ := ((empty supply).run steps).messages_run later
  have hSubset : ((empty supply).run steps).channelRows channel ⊆
      ((empty supply).run (steps ++ later)).channelRows channel := by
    intro row hRow
    obtain ⟨hMem, hChannel⟩ := (hBefore.mem row).mp hRow
    refine (hAfter.mem row).mpr ⟨?_, hChannel⟩
    rw [run_append, hMessages]
    exact List.mem_append_left _ hMem
  exact List.sublist_of_subperm_of_pairwise
    (List.subperm_of_subset hBefore.order.nodup hSubset) hBefore.order
    hAfter.order

/-- The log of messages is faithful. A batch with a message that has no number as its time fails and
saves nothing. After every run, a read of a channel without a query gives the messages for the
channel that were saved: each of them once and as it was, later ones first, and those of one time in
the order in which they were saved. Whatever is done later, they stay among the messages of the
channel, in their order. -/
theorem message_log_faithful (supply : Identifier.Supply) (steps : List Step) (channel : String) :
    (∀ moment ∈ (empty supply).trace steps, ∀ batch, moment.step.operation = .saveMessages batch →
      (∃ fields ∈ batch, Message.IsUnstorable fields) →
      (∃ failure, moment.answer = .error failure) ∧ moment.saved = []) ∧
    ∃ items, Message.IsHistory channel (savedMessages supply steps) items ∧
      ((empty supply).run steps).ReadsAll channel items ∧
      ∀ later, ∃ itemsLater,
        Message.IsHistory channel (savedMessages supply (steps ++ later)) itemsLater ∧
        ((empty supply).run (steps ++ later)).ReadsAll channel itemsLater ∧
        items.Sublist itemsLater := by
  refine ⟨?_, _, isHistory_channelRows steps channel,
    readsAll_channelRows ((Logged.empty supply).run steps) channel, ?_⟩
  · rintro ⟨tables, operation, injected⟩ - batch rfl ⟨fields, hFields, hUnstorable⟩
    obtain ⟨failure, hFailed⟩ := tables.exists_failure_of_isUnstorable hFields hUnstorable injected
    exact ⟨⟨failure, hFailed⟩, Moment.saved_of_error hFailed⟩
  · intro later
    exact ⟨_, isHistory_channelRows _ channel,
      readsAll_channelRows ((Logged.empty supply).run _) channel,
      (channelRows_sublist steps later channel).map _⟩

/-- Three messages come in two batches, two of them at one time. A batch between them has a message
without a number as its time, and a thing is removed. -/
def relayed : List Step :=
  let message (publisher : String) (time : Binary64) : Mapping :=
    [(.text "channel", .text "c"), (.text "publisher", .text publisher),
      (.text "protocol", .text "mqtt"), (.text "time", .real time), (.text "value", .int 1)]
  [⟨.saveMessages [message "a" (.infinity true), message "b" .zero], none⟩,
    ⟨.saveMessages [message "c" .zero, message "d" .nan], none⟩,
    ⟨.removeThing (.text "ada") (.text "00000000-0000-0000-0000-0000000000d1"), none⟩,
    ⟨.saveMessages [message "e" .zero], none⟩]

theorem message_log_faithful_relayed :
    (savedMessages .counting relayed).map Message.publisher = ["a", "b", "e"] ∧
    ∃ items, Message.IsHistory "c" (savedMessages .counting relayed) items ∧
      items.map Message.publisher = ["b", "e", "a"] := by
  obtain ⟨-, items, hHistory, hReads, -⟩ := message_log_faithful .counting relayed "c"
  have hRead : ((empty.run relayed).readMessages (.text "c") ⟨some 0, some (-1)⟩ .null).answer.map
      (fun page => page.items.map Message.publisher) = .ok ["b", "e", "a"] := rfl
  rw [hReads .null (-1) rfl rfl (Or.inl (by decide))] at hRead
  exact ⟨rfl, items, hHistory, Except.ok.inj hRead⟩

end Store

end DeviceRegistry
