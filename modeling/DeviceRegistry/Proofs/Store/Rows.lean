import Mathlib.Data.List.Find
import Mathlib.Data.List.Nodup

/-! Rows of a table as a list. Rows are picked, changed, added and taken away, and these lemmas say
what is found among the rows afterwards. -/
namespace DeviceRegistry

section Picked

variable {α : Type} {rows : List α} {keep : α → Bool}

/-- Rows that a test never finds may be left out before something is looked for. -/
theorem any_filter_of_imp {test : α → Bool}
    (hKeep : ∀ row ∈ rows, test row = true → keep row = true) :
    (rows.filter keep).any test = rows.any test := by
  rw [Bool.eq_iff_iff, List.any_eq_true, List.any_eq_true]
  constructor
  · rintro ⟨row, hRow, hTest⟩
    exact ⟨row, (List.mem_filter.mp hRow).1, hTest⟩
  · rintro ⟨row, hRow, hTest⟩
    exact ⟨row, List.mem_filter.mpr ⟨hRow, hKeep row hRow hTest⟩, hTest⟩

/-- Rows that a test never finds may be left out before the first one is looked for. -/
theorem find?_filter_of_imp {test : α → Bool}
    (hKeep : ∀ row ∈ rows, test row = true → keep row = true) :
    (rows.filter keep).find? test = rows.find? test := by
  rw [List.find?_filter]
  apply List.find?_congr
  intro row hRow
  rw [Bool.eq_iff_iff, decide_eq_true_eq]
  exact ⟨fun hBoth => hBoth.2, fun hTest => ⟨hKeep row hRow hTest, hTest⟩⟩

/-- Taking away rows that are not kept anyway makes no difference. -/
theorem filter_filter_of_imp {other : α → Bool}
    (hOther : ∀ row ∈ rows, keep row = true → other row = true) :
    (rows.filter other).filter keep = rows.filter keep := by
  rw [List.filter_filter]
  apply List.filter_congr
  intro row hRow
  rw [Bool.eq_iff_iff, Bool.and_eq_true]
  exact ⟨fun hBoth => hBoth.1, fun hKeep => ⟨hKeep, hOther row hRow hKeep⟩⟩

theorem filter_comm (other : α → Bool) :
    (rows.filter other).filter keep = (rows.filter keep).filter other := by
  rw [List.filter_filter, List.filter_filter]
  congr 1
  funext row
  exact Bool.and_comm _ _

end Picked

section Changed

variable {α β : Type} {change : α → α}

/-- A change that keeps some part of each row keeps the list of these parts. -/
theorem map_changed (rows : List α) (test : α → Bool) {part : α → β}
    (hKeeps : ∀ row, part (change row) = part row) :
    (rows.map fun row => if test row then change row else row).map part = rows.map part := by
  rw [List.map_map]
  apply List.map_congr_left
  intro row _
  rw [Function.comp]
  split
  · exact hKeeps row
  · rfl

/-- Rows may be changed before or after those to keep are picked, where a change does not
decide that. -/
theorem filter_changed (rows : List α) (test : α → Bool) {keep : α → Bool}
    (hKeeps : ∀ row, keep (change row) = keep row) :
    (rows.map fun row => if test row then change row else row).filter keep =
      (rows.filter keep).map fun row => if test row then change row else row := by
  rw [List.filter_map]
  congr 2
  funext row
  rw [Function.comp]
  split
  · exact hKeeps row
  · rfl

/-- Changing rows that are kept neither before nor after makes no difference. -/
theorem filter_changed_of_other {rows : List α} {test keep : α → Bool}
    (hKeeps : ∀ row, keep (change row) = keep row)
    (hOther : ∀ row ∈ rows, test row = true → keep row = false) :
    (rows.map fun row => if test row then change row else row).filter keep = rows.filter keep := by
  rw [filter_changed rows test hKeeps]
  refine (List.map_congr_left ?_).trans (List.map_id _)
  intro row hRow
  obtain ⟨hMem, hKeep⟩ := List.mem_filter.mp hRow
  split
  · rename_i hTest
    rw [hOther row hMem hTest] at hKeep
    cases hKeep
  · rfl

/-- Rows that are changed where a test holds have the new content there, if the change leaves the
test alone. -/
theorem eq_of_mem_changed {rows : List α} {test : α → Bool} {part : α → β} {row : α} {content : β}
    (hChange : ∀ row, part (change row) = content) (hTest : test row = true)
    (hRow : row ∈ rows.map fun row => if test row then change row else row) :
    part row = content := by
  obtain ⟨old, -, rfl⟩ := List.mem_map.mp hRow
  by_cases hOld : test old = true
  · rw [if_pos hOld]
    exact hChange old
  · rw [if_neg hOld] at hTest
    exact absurd hTest hOld

/-- What all rows have and a change keeps, all rows have after some of them were changed. -/
theorem forall_mem_changed {rows : List α} {holds : α → Prop} (test : α → Bool)
    (hRows : ∀ row ∈ rows, holds row) (hChange : ∀ row, holds row → holds (change row)) :
    ∀ row ∈ rows.map fun row => if test row then change row else row, holds row := by
  rw [List.forall_mem_map]
  intro row hRow
  split
  · exact hChange row (hRows row hRow)
  · exact hRows row hRow

/-- Changes that agree on the rows to be changed give the same rows. -/
theorem changed_congr {rows : List α} {test : α → Bool} {other : α → α}
    (hSame : ∀ row ∈ rows, test row = true → change row = other row) :
    (rows.map fun row => if test row then change row else row) =
      rows.map fun row => if test row then other row else row := by
  refine List.map_congr_left fun row hRow => ?_
  split
  · rename_i hTest
    exact hSame row hRow hTest
  · rfl

/-- A change that makes no difference the second time, and does not decide about itself, need not be
made again. -/
theorem changed_changed (rows : List α) (test : α → Bool) (change : α → α)
    (hTest : ∀ row, test (change row) = test row)
    (hAgain : ∀ row, change (change row) = change row) :
    ((rows.map fun row => if test row then change row else row).map fun row =>
      if test row then change row else row) =
      rows.map fun row => if test row then change row else row := by
  rw [List.map_map]
  refine List.map_congr_left fun row _ => ?_
  rw [Function.comp]
  by_cases hFound : test row = true
  · rw [if_pos hFound, if_pos ((hTest row).trans hFound), hAgain]
  · rw [if_neg hFound, if_neg hFound]

/-- The first row that is found is still found after a change that does not decide about that. -/
theorem find?_changed {rows : List α} {row : α} (test : α → Bool) (change : α → α) {keep : α → Bool}
    (hKeeps : ∀ row, keep (change row) = keep row) (hFound : rows.find? keep = some row) :
    (rows.map fun row => if test row then change row else row).find? keep =
      some (if test row then change row else row) := by
  have hSame : (keep ∘ fun row => if test row then change row else row) = keep := by
    funext row
    rw [Function.comp]
    split
    · exact hKeeps row
    · rfl
  rw [List.find?_map, hSame, hFound]
  rfl

/-- Rows of which one is changed are the same rows exactly if the change leaves that row alone. -/
theorem changed_eq_self_iff {rows : List α} {test : α → Bool} {row : α} (hRow : row ∈ rows)
    (hTest : ∀ other ∈ rows, test other = true ↔ other = row) :
    (rows.map fun row => if test row then change row else row) = rows ↔ change row = row := by
  constructor
  · intro hSame
    have hEach := List.map_inj_left.mp (hSame.trans (List.map_id rows).symm) row hRow
    rw [if_pos ((hTest row hRow).mpr rfl)] at hEach
    exact hEach
  · intro hSame
    refine (changed_congr fun other hOther hFound => ?_).trans
      ((List.map_congr_left fun _ _ => ite_self _).trans
      (List.map_id rows))
    rw [(hTest other hOther).mp hFound, hSame]

end Changed

section Identity

variable {α κ : Type} [DecidableEq κ] {identity : α → κ}

/-- A new row is found where no row was found before and its identity is looked for. -/
theorem find?_concat_identity {rows : List α} {row : α} (target : κ)
    (hNew : ∀ other ∈ rows, identity other ≠ identity row) :
    (rows ++ [row]).find? (fun other => decide (identity other = target)) =
      if identity row = target then some row
      else rows.find? fun other => decide (identity other = target) := by
  rw [List.find?_append]
  split
  · rename_i hTarget
    have hNone : rows.find? (fun other => decide (identity other = target)) = none := by
      rw [List.find?_eq_none]
      intro other hOther
      simpa [← hTarget] using hNew other hOther
    simp [hNone, hTarget]
  · rename_i hOther
    simp [hOther]

/-- Changes that keep identities change the row that is found if it is the one to be changed. -/
theorem find?_map_identity (rows : List α) {change : α → α}
    (hKeeps : ∀ row, identity (change row) = identity row) (changed target : κ) :
    (rows.map fun row => if identity row = changed then change row else row).find?
        (fun row => decide (identity row = target)) =
      (rows.find? fun row => decide (identity row = target)).map fun row =>
        if changed = target then change row else row := by
  induction rows with
  | nil => rfl
  | cons row rows ih =>
      have hSame : identity (if identity row = changed then change row else row) =
          identity row := by
        split
        · exact hKeeps row
        · rfl
      rw [List.map_cons, List.find?_cons, List.find?_cons, ih, hSame]
      by_cases hTarget : identity row = target
      · simp only [hTarget, decide_true, Option.map_some, Option.some.injEq]
        simp only [eq_comm]
      · simp only [hTarget, decide_false]

/-- Rows that are taken away are found no more, and others are found as before. -/
theorem find?_filter_identity (rows : List α) (removed target : κ) :
    (rows.filter fun row => !decide (identity row = removed)).find?
      (fun row => decide (identity row = target)) =
      if removed = target then none else rows.find? fun row => decide (identity row = target) := by
  split
  · rename_i hSame
    rw [List.find?_eq_none]
    intro row hRow
    have hKept := (List.mem_filter.mp hRow).2
    simpa [hSame] using hKept
  · rename_i hOther
    rw [List.find?_filter]
    congr 1
    funext row
    by_cases hTarget : identity row = target
    · simp [hTarget, Ne.symm hOther]
    · simp [hTarget]

/-- Where identifiers do not repeat, an identifier has one owner. -/
theorem owner_unique {rows : List α} {id owner : α → String} (hNodup : (rows.map id).Nodup)
    {i first second : String} (hFirst : (i, first) ∈ rows.map fun row => (id row, owner row))
    (hSecond : (i, second) ∈ rows.map fun row => (id row, owner row)) : first = second := by
  obtain ⟨row, hRow, hEnd⟩ := List.mem_map.mp hFirst
  obtain ⟨row', hRow', hEnd'⟩ := List.mem_map.mp hSecond
  obtain ⟨hId, rfl⟩ := Prod.mk.inj hEnd
  obtain ⟨hId', rfl⟩ := Prod.mk.inj hEnd'
  rw [List.inj_on_of_nodup_map hNodup hRow hRow' (hId.trans hId'.symm)]

/-- Where some part of the rows does not repeat, a row is the only one with its part. -/
theorem filter_eq_singleton {α β : Type} {rows : List α} {row : α} {part : α → β} {keep : α → Bool}
    (hNodup : (rows.map part).Nodup) (hRow : row ∈ rows)
    (hKeep : ∀ other, keep other = true ↔ part other = part row) :
    rows.filter keep = [row] := by
  induction rows with
  | nil => cases hRow
  | cons first rows ih =>
      rw [List.map_cons, List.nodup_cons] at hNodup
      rcases List.mem_cons.mp hRow with rfl | hLater
      · have hNone : rows.filter keep = [] := by
          rw [List.filter_eq_nil_iff]
          intro other hOther hSame
          exact hNodup.1 ((hKeep other).mp hSame ▸ List.mem_map_of_mem hOther)
        rw [List.filter_cons_of_pos ((hKeep row).mpr rfl), hNone]
      · have hOther : ¬ keep first = true := by
          intro hSame
          exact hNodup.1 ((hKeep first).mp hSame ▸ List.mem_map_of_mem hLater)
        rw [List.filter_cons_of_neg hOther, ih hNodup.2 hLater]

end Identity

end DeviceRegistry
