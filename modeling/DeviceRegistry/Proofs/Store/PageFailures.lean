import DeviceRegistry.Proofs.Store.Batch
import DeviceRegistry.Proofs.Store.Pages

/-! Where pages fail. A page of rows that can be shown once they are loaded fails where its rows are
not found or loaded, and otherwise for a reason that has nothing to do with them. -/
namespace DeviceRegistry

section Pages

variable {ρ Loaded α : Type} {load : ρ → Except Failure Loaded}
  {convert : Loaded → Except Failure α} {rows : Except Failure (List ρ)}
  {countable : Except Failure Unit} {window : Window} {failure : Failure}

theorem map_error_iff {β γ : Type} {first : Except Failure β} {next : β → γ} :
    first.map next = .error failure ↔ first = .error failure := by
  cases first <;> simp [Except.map]

/-- A failure of two steps is one of the first, or one of the second on what the first gave. -/
theorem bind_error_iff {β γ : Type} {first : Except Failure β} {next : β → Except Failure γ} :
    (first >>= next) = .error failure ↔
      first = .error failure ∨ ∃ found, first = .ok found ∧ next found = .error failure := by
  cases first with
  | error other =>
      refine ⟨fun hFailed => Or.inl (by cases hFailed; rfl), fun hFailed => ?_⟩
      cases hFailed.resolve_right nofun
      rfl
  | ok found =>
      refine ⟨fun hFailed => Or.inr ⟨found, rfl, hFailed⟩, ?_⟩
      rintro (hFailed | ⟨_, hFound, hFailed⟩)
      · cases hFailed
      · cases hFound
        exact hFailed

/-- What comes first fails alike, so that only what comes next may make a difference. -/
theorem bind_error_imp {β γ δ : Type} {first : Except Failure β} {next : β → Except Failure γ}
    {other : β → Except Failure δ} {cause : Prop} (hFailed : (first >>= next) = .error failure)
    (hNext : ∀ found, first = .ok found → next found = .error failure →
      other found = .error failure ∨ cause) :
    (first >>= other) = .error failure ∨ cause := by
  rcases bind_error_iff.mp hFailed with hFirst | ⟨found, hFound, hFailed⟩
  · exact Or.inl (bind_error_iff.mpr (Or.inl hFirst))
  · exact (hNext found hFound hFailed).imp_left fun hOther =>
      bind_error_iff.mpr (Or.inr ⟨found, hFound, hOther⟩)

/-- What is refused is refused alike, so that only what follows the test may make a difference. -/
theorem ite_error_imp {β : Type} {test cause : Prop} [Decidable test]
    {refused next other : Except Failure β}
    (hFailed : (if test then refused else next) = .error failure)
    (hNext : next = .error failure → other = .error failure ∨ cause) :
    (if test then refused else other) = .error failure ∨ cause := by
  split_ifs at hFailed ⊢
  · exact Or.inl hFailed
  · exact hNext hFailed

/-- Rows fail to be loaded together because one of them fails. -/
theorem exists_of_mapM_error {rows : List ρ} (hFailed : rows.mapM load = .error failure) :
    ∃ row ∈ rows, load row = .error failure := by
  induction rows with
  | nil => cases hFailed
  | cons row rows ih =>
      rw [List.mapM_cons] at hFailed
      rcases bind_error_iff.mp hFailed with hFirst | ⟨loaded, -, hOthers⟩
      · exact ⟨row, List.mem_cons_self, hFirst⟩
      · obtain ⟨other, hOther, hLoad⟩ := ih ((bind_error_iff.mp hOthers).resolve_right nofun)
        exact ⟨other, List.mem_cons_of_mem _ hOther, hLoad⟩

theorem Window.mem_of_mem_slice {all : List ρ} {row : ρ} (hRow : row ∈ window.slice all) :
    row ∈ all := by
  rw [slice] at hRow
  split at hRow
  · exact List.mem_of_mem_drop hRow
  · split at hRow
    · exact List.mem_of_mem_drop hRow
    · exact List.mem_of_mem_drop (List.mem_of_mem_take hRow)

/-- Whether a window has both of its ends does not depend on the rows in it. -/
theorem ofWindow_eq_error_iff {total : Nat} {items : List α} :
    Page.ofWindow total window items = .error failure ↔
    Page.ofWindow 0 window ([] : List α) = .error failure := by
  obtain ⟨offset, limit⟩ := window
  cases offset <;> cases limit <;> simp [Page.ofWindow]

/-- A page of rows that can be shown once they are loaded fails where the rows are not
found, where one of them is not loaded, where they cannot be counted, or at an end of the
window that is missing. -/
theorem pageOf_eq_error
    (hShown : ∀ all, rows = .ok all → ∀ row ∈ all, ∀ loaded, load row = .ok loaded →
      ∃ item, convert loaded = .ok item)
    (hPage : pageOf rows countable window load convert = .error failure) :
    rows = .error failure ∨ (∃ all, rows = .ok all ∧ ∃ row ∈ all, load row = .error failure) ∨
      (countable >>= fun _ => Page.ofWindow 0 window ([] : List α)) = .error failure := by
  rw [pageOf_eq_bind] at hPage
  rcases bind_error_iff.mp hPage with hInside | ⟨inside, hInside, hPage⟩
  · split at hInside
    · cases hInside
    · exact Or.inl (map_error_iff.mp hInside)
  have hMem : ∀ row ∈ inside, ∃ all, rows = .ok all ∧ row ∈ all := by
    intro row hRow
    split at hInside
    · cases hInside
      cases hRow
    · obtain ⟨all, hAll, rfl⟩ := map_ok_iff.mp hInside
      exact ⟨all, hAll, Window.mem_of_mem_slice hRow⟩
  rcases bind_error_iff.mp hPage with hLoad | ⟨loaded, hLoaded, hPage⟩
  · obtain ⟨row, hRow, hFailed⟩ := exists_of_mapM_error hLoad
    obtain ⟨all, hAll, hRow⟩ := hMem row hRow
    exact Or.inr (Or.inl ⟨all, hAll, row, hRow, hFailed⟩)
  rcases bind_error_iff.mp hPage with hCountable | ⟨_, hCountable, hPage⟩
  · exact Or.inr (Or.inr (bind_error_iff.mpr (Or.inl hCountable)))
  rcases bind_error_iff.mp hPage with hRows | ⟨all, hAll, hPage⟩
  · exact Or.inl hRows
  rcases bind_error_iff.mp hPage with hConvert | ⟨items, -, hWindow⟩
  · obtain ⟨content, hContent, hFailed⟩ := exists_of_mapM_error hConvert
    obtain ⟨row, hRow, hLoad⟩ := exists_mem_of_forall₂ (mapM_ok_iff.mp hLoaded).flip hContent
    obtain ⟨all, hAll, hRow⟩ := hMem row hRow
    obtain ⟨item, hItem⟩ := hShown all hAll row hRow content hLoad
    rw [hItem] at hFailed
    cases hFailed
  · exact Or.inr
      (Or.inr (bind_error_iff.mpr (Or.inr ⟨_, hCountable, ofWindow_eq_error_iff.mp hWindow⟩)))

/-- A page of rows that can all be shown is there, or fails for a reason that lies in the count or
the window. -/
theorem exists_pageOf_eq {all : List ρ} (countable : Except Failure Unit) (window : Window)
    (hShown : ∀ row ∈ all, ∃ item, (load row >>= convert) = .ok item) :
    ∃ items, pageOf (.ok all) countable window load convert =
      (countable >>= fun _ => Page.ofWindow all.length window items) := by
  obtain ⟨inside, hInside, hMem⟩ : ∃ inside, (if window.limit = some 0 then Except.ok []
      else (Except.ok all : Except Failure (List ρ)).map window.slice) = .ok inside ∧
        ∀ row ∈ inside, row ∈ all := by
    split
    · exact ⟨[], rfl, by simp⟩
    · exact ⟨window.slice all, rfl, fun _ => Window.mem_of_mem_slice⟩
  obtain ⟨items, hItems, -⟩ := exists_mapM_load Except.ok fun row hRow => hShown row (hMem row hRow)
  obtain ⟨loaded, hLoaded, hConvert⟩ := exists_mapM_load convert fun row hRow =>
    let ⟨_, hItem⟩ := hShown row (hMem row hRow)
    let ⟨loaded, hLoad, _⟩ := bind_ok_iff.mp hItem
    ⟨loaded, hLoad⟩
  refine ⟨items, ?_⟩
  rw [pageOf_eq_bind, hInside]
  change (inside.mapM load >>= _) = _
  rw [hLoaded]
  change (countable >>= fun _ => loaded.mapM convert >>= _) = _
  rw [hConvert, hItems]
  rfl

end Pages

end DeviceRegistry
