import DeviceRegistry.Proofs.Store.Run
import Mathlib.Data.Option.Basic

/-! What was written last, according to a history. A save begins the history of an entity, a removal
ends it, and in between the last of the changes of each kind counts. -/
namespace DeviceRegistry

/-- What is written of an entity besides its key. -/
structure Content where
  name : String
  metadata : Mapping

section History

variable {α β κ : Type}

/-- The last event of a kind in a history, and what came after it. -/
def lastWithRest (kind : α → Option β) : List α → Option (β × List α)
  | [] => none
  | event :: later => (lastWithRest kind later).or ((kind event).map fun found => (found, later))

/-- The last event of a kind in a history, or the one that is given if there is none. -/
def latest (kind : α → Option β) (default : β) (history : List α) : β :=
  (history.filterMap kind).getLast?.getD default

/-- The content and the key that a history leaves: those of the last save, unless a removal came
after it, with the latest changes that came after it. -/
def written (saved : α → Option (Content × κ)) (removes : α → Bool) (updated : α → Option Content)
    (rekeyed : α → Option κ) (history : List α) : Option (Content × κ) :=
  match lastWithRest saved history with
  | none => none
  | some ((content, key), later) =>
    if later.any removes then none
    else some (latest updated content later, latest rekeyed key later)

/-- What an event makes of a content and a key that were written before it. -/
def rewritten (save : Option (Content × κ)) (removed : Bool) (update : Option Content)
    (rekey : Option κ) (entry : Option (Content × κ)) : Option (Content × κ) :=
  match save with
  | some save => some save
  | none => if removed then none else entry.map fun (content, key) =>
      (update.getD content, rekey.getD key)

@[simp] theorem rewritten_save (save : Content × κ) (removed : Bool) (update : Option Content)
    (rekey : Option κ) (entry : Option (Content × κ)) :
    rewritten (some save) removed update rekey entry = some save := rfl

@[simp] theorem rewritten_removed (update : Option Content) (rekey : Option κ)
    (entry : Option (Content × κ)) : rewritten none true update rekey entry = none := rfl

@[simp] theorem rewritten_none (entry : Option (Content × κ)) :
    rewritten none false none none entry = entry := by
  cases entry <;> rfl

/-- A row that is found and changed shows what the change makes of what it showed. -/
theorem rewritten_map {ρ : Type} {shows : ρ → Content × κ → Prop} {change : ρ → ρ}
    {update : Option Content} {rekey : Option κ} {found : Option ρ} {entry : Option (Content × κ)}
    (hShown : Option.Rel shows found entry) (hChange : ∀ row content key, shows row (content, key) →
      shows (change row) (update.getD content, rekey.getD key)) :
    Option.Rel shows (found.map change) (rewritten none false update rekey entry) := by
  cases hShown with
  | none => exact .none
  | some hRow => exact .some (hChange _ _ _ hRow)

/-- The last event of a longer history is the last event, or that of the history before it. -/
theorem lastWithRest_concat (kind : α → Option β) (history : List α) (last : α) :
    lastWithRest kind (history ++ [last]) =
      ((kind last).map fun found => (found, [])).or
        ((lastWithRest kind history).map fun (found, later) => (found, later ++ [last])) := by
  induction history with
  | nil => simp [lastWithRest]
  | cons event history ih =>
      rw [List.cons_append, lastWithRest, ih, lastWithRest]
      cases kind last <;> cases lastWithRest kind history <;> cases kind event <;> rfl

theorem latest_concat (kind : α → Option β) (default : β) (history : List α) (last : α) :
    latest kind default (history ++ [last]) = (kind last).getD (latest kind default history) := by
  rw [latest, latest, List.filterMap_append]
  cases hLast : kind last <;> simp [hLast]

variable {saved : α → Option (Content × κ)} {removes : α → Bool} {updated : α → Option Content}
  {rekeyed : α → Option κ}

/-- A last event changes what the history before it left. -/
theorem written_concat (history : List α) (last : α) :
    written saved removes updated rekeyed (history ++ [last]) =
      rewritten (saved last) (removes last) (updated last) (rekeyed last)
        (written saved removes updated rekeyed history) := by
  rw [written, lastWithRest_concat, written]
  cases saved last with
  | some save => rfl
  | none =>
      cases lastWithRest saved history with
      | none => cases removes last <;> rfl
      | some found =>
          obtain ⟨⟨content, key⟩, later⟩ := found
          simp only [Option.map_none, Option.map_some, Option.none_or,
            List.any_append, List.any_cons, List.any_nil, Bool.or_false, latest_concat]
          cases removes last <;> cases later.any removes <;> rfl

end History

namespace Moment

variable (owner id : String) (moment : Moment)

/-- What a thing of an owner and an identifier is saved as, if this step saves it. A key that is not
given is drawn. -/
def savesThing : Option (Content × String) :=
  match moment.step.operation, moment.answer with
  | .saveThing fields, .ok (.identifier stored) =>
    match Thing.ofFields fields with
    | .valid thing =>
      if thing.owner = owner ∧ stored = id then
        some (⟨thing.name, thing.metadata⟩,
          ((moment.tables.supply.orDrawn thing.id).2.orDrawn thing.key).1)
      else none
    | .faulty _ => none
  | _, _ => none

/-- What the thing is updated to. The key that an update carries does not count. -/
def updatesThing : Option Content :=
  match moment.step.operation, moment.answer with
  | .updateThing fields, .ok _ =>
    match Thing.ofFields fields with
    | .valid thing =>
      if thing.owner = owner ∧ thing.id = id then some ⟨thing.name, thing.metadata⟩ else none
    | .faulty _ => none
  | _, _ => none

def rekeysThing : Option String :=
  match moment.step.operation, moment.answer with
  | .updateKey (.text o) (.text i) (.text key), .ok _ =>
    if o = owner ∧ i = id then some key else none
  | _, _ => none

def removesThing : Bool :=
  match moment.step.operation with
  | .removeThing (.text o) (.text i) => o = owner && i = id
  | _ => false

def savesChannel : Option (Content × Unit) :=
  match moment.step.operation, moment.answer with
  | .saveChannel fields, .ok (.identifier stored) =>
    match Channel.ofFields fields with
    | .valid channel =>
      if channel.owner = owner ∧ stored = id then some (⟨channel.name, channel.metadata⟩, ())
      else none
    | .faulty _ => none
  | _, _ => none

def updatesChannel : Option Content :=
  match moment.step.operation, moment.answer with
  | .updateChannel fields, .ok _ =>
    match Channel.ofFields fields with
    | .valid channel =>
      if channel.owner = owner ∧ channel.id = id then some ⟨channel.name, channel.metadata⟩
      else none
    | .faulty _ => none
  | _, _ => none

def removesChannel : Bool :=
  match moment.step.operation with
  | .removeChannel (.text o) (.text i) => o = owner && i = id
  | _ => false

end Moment

def thingWritten (owner id : String) : List Moment → Option (Content × String) :=
  written (Moment.savesThing owner id) (Moment.removesThing owner id) (Moment.updatesThing owner id)
    (Moment.rekeysThing owner id)

def channelWritten (owner id : String) : List Moment → Option (Content × Unit) :=
  written (Moment.savesChannel owner id) (Moment.removesChannel owner id)
    (Moment.updatesChannel owner id) fun _ => none

end DeviceRegistry
