import DeviceRegistry.Proofs.Store.Parameters
import DeviceRegistry.Store.Search
import Mathlib.Data.List.Forall2

/-! Pages of a listing. The rows of a listing do not depend on the window that is asked for. A page
shows the rows in its window and counts all of them, so that pages of one size that start one behind
the other show every row once. -/
namespace DeviceRegistry

variable {ρ α : Type}

/-- The rows from an offset on, up to a limit. A negative offset passes over nothing, and a negative
limit is none. -/
def rowsIn (offset limit : Int) (rows : List ρ) : List ρ :=
  if limit < 0 then rows.drop offset.toNat else (rows.drop offset.toNat).take limit.toNat

theorem mem_of_mem_rowsIn {offset limit : Int} {rows : List ρ} {row : ρ}
    (hRow : row ∈ rowsIn offset limit rows) :
    row ∈ rows := by
  rw [rowsIn] at hRow
  split at hRow
  · exact List.mem_of_mem_drop hRow
  · exact List.mem_of_mem_drop (List.mem_of_mem_take hRow)

/-- The offsets below a total at which pages of one size start. -/
def pageOffsets (size total : Nat) : List Nat :=
  (List.range ((total + size - 1) / size)).map (· * size)

/-- Pages start at the multiples of their size. -/
theorem mem_pageOffsets {size total offset : Nat} (hSize : 1 ≤ size) :
    offset ∈ pageOffsets size total ↔ size ∣ offset ∧ offset < total := by
  have hCount (i : Nat) : i < (total + size - 1) / size ↔ i * size < total := by
    rw [Nat.lt_div_iff_mul_lt (by omega)]
    omega
  simp only [pageOffsets, List.mem_map, List.mem_range, hCount]
  constructor
  · rintro ⟨i, hLess, rfl⟩
    exact ⟨Nat.dvd_mul_left size i, hLess⟩
  · rintro ⟨⟨i, rfl⟩, hLess⟩
    exact ⟨i, by rwa [Nat.mul_comm], Nat.mul_comm i size⟩

/-- The pages of one size are all rows. -/
theorem flatMap_rowsIn {size : Nat} (hSize : 1 ≤ size) (rows : List ρ) :
    ((pageOffsets size rows.length).flatMap fun offset : Nat => rowsIn offset size rows) =
      rows := by
  have hTaken (count : Nat) :
      ((List.range count).flatMap fun i => (rows.drop (i * size)).take size) =
        rows.take (count * size) := by
    induction count with
    | zero => simp
    | succ count ih =>
        rw [List.range_succ, List.flatMap_append, ih, List.flatMap_singleton,
          Nat.succ_mul, List.take_add]
  have hLong : rows.length ≤ (rows.length + size - 1) / size * size := by
    have hDivided :=
      Nat.lt_div_mul_add (a := rows.length + size - 1) (Nat.lt_of_lt_of_le Nat.zero_lt_one hSize)
    omega
  have hWindow (i : Nat) : rowsIn (i * size : Nat) size rows =
      (rows.drop (i * size)).take size := by
    rw [rowsIn, if_neg (by omega), Int.toNat_natCast, Int.toNat_natCast]
  simp only [pageOffsets, List.flatMap_map, hWindow, hTaken, List.take_of_length_le hLong]

/-- The read gives the pages of a list of rows. -/
structure Paginates (read : Window → Except Failure (Page α)) (rows : List ρ)
    (shown : ρ → Except Failure α) : Prop where
  /-- Every window of sixty-four bits is answered with the rows in it and the number of all rows,
  unless one of the rows in it cannot be shown. -/
  page : ∀ offset limit, Number.fitsWord offset = true → Number.fitsWord limit = true →
    read ⟨some offset, some limit⟩ =
      ((rowsIn offset limit rows).mapM shown).map (Page.mk rows.length offset limit)
  /-- Every page reports the number of all rows. -/
  total : ∀ window page, read window = .ok page → page.total = rows.length
  /-- A page is as long as its limit, unless the rows come to an end before. -/
  size : ∀ offset limit page, 0 ≤ limit → read ⟨some offset, some limit⟩ = .ok page →
    page.items.length = min limit.toNat (rows.length - offset.toNat)
  /-- The pages of one size together show every row in its place. -/
  partition : ∀ (size : Nat) pages, 1 ≤ size →
    ((pageOffsets size rows.length).mapM fun offset : Nat => read ⟨some offset, some size⟩) =
      .ok pages →
    List.Forall₂ (fun row item => shown row = .ok item) rows (pages.flatMap Page.items)

section Shown

variable {shown : ρ → Except Failure α} {rows : List ρ}

theorem bind_ok_iff {β γ : Type} {first : Except Failure β}
    {next : β → Except Failure γ} {last : γ} :
    (first >>= next) = .ok last ↔ ∃ found, first = .ok found ∧ next found = .ok last := by
  cases first with
  | error failure => exact iff_of_false nofun nofun
  | ok found =>
      exact ⟨fun hNext => ⟨found, rfl, hNext⟩,
        fun ⟨_, hFound, hNext⟩ => by cases hFound; exact hNext⟩

theorem map_ok_iff {β γ : Type} {first : Except Failure β} {next : β → γ} {last : γ} :
    first.map next = .ok last ↔ ∃ found, first = .ok found ∧ next found = last := by
  cases first with
  | error failure => exact iff_of_false nofun nofun
  | ok found => simp [Except.map]

/-- Rows are shown together exactly when each of them is shown. -/
theorem mapM_ok_iff {items : List α} :
    rows.mapM shown = .ok items ↔
    List.Forall₂ (fun row item => shown row = .ok item) rows items := by
  induction rows generalizing items with
  | nil => cases items <;> simp [pure, Except.pure]
  | cons row rows ih =>
      rw [List.mapM_cons, bind_ok_iff, List.forall₂_cons_left_iff]
      constructor
      · rintro ⟨item, hItem, hRest⟩
        obtain ⟨others, hOthers, hItems⟩ := bind_ok_iff.mp hRest
        exact ⟨item, others, hItem, ih.mp hOthers, by cases hItems; rfl⟩
      · rintro ⟨item, others, hItem, hOthers, rfl⟩
        exact ⟨item, hItem, bind_ok_iff.mpr ⟨others, ih.mpr hOthers, rfl⟩⟩

/-- Rows that can all be loaded may be loaded before any of them is shown. -/
theorem exists_mapM_load {Loaded : Type} {load : ρ → Except Failure Loaded}
    (convert : Loaded → Except Failure α) (hLoad : ∀ row ∈ rows, ∃ loaded, load row = .ok loaded) :
    ∃ loaded, rows.mapM load = .ok loaded ∧ loaded.mapM convert =
      rows.mapM fun row => load row >>= convert := by
  induction rows with
  | nil => exact ⟨[], rfl, rfl⟩
  | cons row rows ih =>
      rw [List.forall_mem_cons] at hLoad
      obtain ⟨⟨first, hFirst⟩, hLoad⟩ := hLoad
      obtain ⟨others, hOthers, hShown⟩ := ih hLoad
      refine ⟨first :: others, ?_, ?_⟩
      · rw [List.mapM_cons, hFirst, hOthers]
        rfl
      · rw [List.mapM_cons, List.mapM_cons, hShown, hFirst]
        rfl

end Shown

/-- Windows of sixty-four bits can be handed to the storage engine. -/
theorem areTaken_window {offset limit : Int} (hOffset : Number.fitsWord offset = true)
    (hLimit : Number.fitsWord limit = true) :
    Cell.AreTaken (Window.parameters ⟨some offset, some limit⟩) := by
  simp [Cell.AreTaken, Window.parameters, Value.toCell, hOffset, hLimit]

section Pages

variable {Loaded : Type} {load : ρ → Except Failure Loaded} {convert : Loaded → Except Failure α}
  {rows : Except Failure (List ρ)} {countable : Except Failure Unit} {window : Window}

/-- A page is that of its window, which says where it starts and how long it may be. -/
theorem ofWindow_eq_ok {total : Nat} {items : List α} {page : Page α}
    (hPage : Page.ofWindow total window items = .ok page) :
    ∃ offset limit, window = ⟨some offset, some limit⟩ ∧ page = ⟨total, offset, limit, items⟩ := by
  obtain ⟨offset, limit⟩ := window
  cases offset with
  | none => cases limit <;> cases hPage
  | some offset =>
      cases limit with
      | none => cases hPage
      | some limit => exact ⟨offset, limit, rfl, by cases hPage; rfl⟩

/-- The steps in which a page is put together. -/
theorem pageOf_eq_bind (rows : Except Failure (List ρ)) (countable : Except Failure Unit)
    (window : Window) (load : ρ → Except Failure Loaded) (convert : Loaded → Except Failure α) :
    pageOf rows countable window load convert =
      ((if window.limit = some 0 then .ok [] else rows.map window.slice) >>= fun inside =>
        inside.mapM load >>= fun loaded => countable >>= fun _ => rows >>= fun all =>
          loaded.mapM convert >>= fun items => Page.ofWindow all.length window items) := by
  unfold pageOf
  split <;> rfl

/-- A page is there only if its rows are found and can be counted, and if its window has both of
its ends. -/
theorem pageOf_eq_ok {page : Page α}
    (hPage : pageOf rows countable window load convert = .ok page) :
    (∃ all, rows = .ok all) ∧ countable = .ok () ∧
      ∃ offset limit, window = ⟨some offset, some limit⟩ := by
  rw [pageOf_eq_bind] at hPage
  obtain ⟨_, -, hPage⟩ := bind_ok_iff.mp hPage
  obtain ⟨_, -, hPage⟩ := bind_ok_iff.mp hPage
  obtain ⟨_, hCountable, hPage⟩ := bind_ok_iff.mp hPage
  obtain ⟨all, hRows, hPage⟩ := bind_ok_iff.mp hPage
  obtain ⟨_, -, hPage⟩ := bind_ok_iff.mp hPage
  obtain ⟨offset, limit, hWindow, -⟩ := ofWindow_eq_ok hPage
  exact ⟨⟨all, hRows⟩, hCountable, offset, limit, hWindow⟩

/-- The page of rows that can all be loaded. -/
theorem pageOf_eq {all : List ρ} (hLoad : ∀ row ∈ all, ∃ loaded, load row = .ok loaded)
    (offset limit : Int) :
    pageOf (.ok all) (.ok ()) ⟨some offset, some limit⟩ load convert =
      ((rowsIn offset limit all).mapM fun row => load row >>= convert).map
        (Page.mk all.length offset limit) := by
  obtain ⟨loaded, hLoaded, hShown⟩ := exists_mapM_load convert fun row hRow =>
    hLoad row (mem_of_mem_rowsIn hRow)
  have hWindow : (if (some limit : Option Int) = some 0 then Except.ok []
      else (Except.ok all : Except Failure (List ρ)).map (Window.slice ⟨some offset, some limit⟩)) =
      .ok (rowsIn offset limit all) := by
    by_cases hNone : limit = 0
    · simp [hNone, rowsIn]
    · rw [if_neg (by simpa using hNone)]
      rfl
  calc
    pageOf (.ok all) (.ok ()) ⟨some offset, some limit⟩ load convert =
        (rowsIn offset limit all).mapM load >>= fun loaded => loaded.mapM convert >>= fun items =>
          .ok ⟨all.length, offset, limit, items⟩ := by
      rw [pageOf_eq_bind, hWindow]
      rfl
    _ = (loaded.mapM convert).map (Page.mk all.length offset limit) := by
      rw [hLoaded]
      cases hItems : loaded.mapM convert <;> simp [bind, Except.bind, Except.map, hItems]
    _ = _ := by rw [hShown]

/-- A page of rows that can all be shown is there exactly if the rows are found and can be counted,
and what keeps them from being found or counted is reported otherwise. -/
theorem pageOf_cases (countable : Except Failure Unit) (offset limit : Int)
    (hShown : ∀ all, rows = .ok all → ∀ row ∈ all, ∃ item, (load row >>= convert) = .ok item) :
    (∃ all page, rows = .ok all ∧ countable = .ok () ∧
      pageOf rows countable ⟨some offset, some limit⟩ load convert = .ok page) ∨
    ∃ failure, (rows = .error failure ∨ countable = .error failure) ∧
      pageOf rows countable ⟨some offset, some limit⟩ load convert = .error failure := by
  cases rows with
  | error failure =>
      rw [pageOf_eq_bind]
      by_cases hNone : limit = 0
      · rw [if_pos (congrArg some hNone)]
        cases countable with
        | error other => exact Or.inr ⟨other, Or.inr rfl, rfl⟩
        | ok _ => exact Or.inr ⟨failure, Or.inl rfl, rfl⟩
      · rw [if_neg (by simpa using hNone)]
        exact Or.inr ⟨failure, Or.inl rfl, rfl⟩
  | ok all =>
      have hLoad : ∀ row ∈ all, ∃ loaded, load row = .ok loaded := by
        intro row hRow
        obtain ⟨item, hItem⟩ := hShown all rfl row hRow
        obtain ⟨loaded, hLoaded, -⟩ := bind_ok_iff.mp hItem
        exact ⟨loaded, hLoaded⟩
      have hInside : ∀ row ∈ rowsIn offset limit all, ∃ item, (load row >>= convert) = .ok item :=
        fun row hRow => hShown all rfl row (mem_of_mem_rowsIn hRow)
      obtain ⟨items, hItems, -⟩ := exists_mapM_load Except.ok hInside
      have hPage : pageOf (.ok all) (.ok ()) ⟨some offset, some limit⟩ load convert = _ :=
        pageOf_eq hLoad offset limit
      rw [hItems] at hPage
      cases countable with
      | ok _ => exact Or.inl ⟨all, _, rfl, rfl, hPage⟩
      | error failure =>
          refine Or.inr ⟨failure, Or.inr rfl, ?_⟩
          rw [pageOf_eq_bind] at hPage ⊢
          obtain ⟨inside, hInside, hPage⟩ := bind_ok_iff.mp hPage
          obtain ⟨loaded, hLoaded, -⟩ := bind_ok_iff.mp hPage
          rw [hInside]
          change (inside.mapM load >>= _) = _
          rw [hLoaded]
          rfl

end Pages

namespace Paginates

variable {read : Window → Except Failure (Page α)} {rows : List ρ} {shown : ρ → Except Failure α}

/-- A read gives the pages of some rows if its answers are such pages, and if it answers every
window of sixty-four bits so. -/
theorem of_answers
    (hPage : ∀ offset limit, Number.fitsWord offset = true → Number.fitsWord limit = true →
      read ⟨some offset, some limit⟩ =
        ((rowsIn offset limit rows).mapM shown).map (Page.mk rows.length offset limit))
    (hSound : ∀ window page, read window = .ok page → ∃ offset limit,
      window = ⟨some offset, some limit⟩ ∧
      ((rowsIn offset limit rows).mapM shown).map (Page.mk rows.length offset limit) = .ok page) :
    Paginates read rows shown := by
  have hItems : ∀ window page, read window = .ok page → ∃ offset limit items,
      window = ⟨some offset, some limit⟩ ∧ page = ⟨rows.length, offset, limit, items⟩ ∧
      List.Forall₂ (fun row item => shown row = .ok item) (rowsIn offset limit rows) items := by
    intro window page hRead
    obtain ⟨offset, limit, hWindow, hPage⟩ := hSound window page hRead
    cases hShown : (rowsIn offset limit rows).mapM shown with
    | error failure =>
        rw [hShown] at hPage
        cases hPage
    | ok items =>
        rw [hShown] at hPage
        cases hPage
        exact ⟨offset, limit, items, hWindow, rfl, mapM_ok_iff.mp hShown⟩
  constructor
  · exact hPage
  · intro window page hRead
    obtain ⟨offset, limit, items, -, rfl, -⟩ := hItems window page hRead
    rfl
  · intro offset limit page hLimit hRead
    obtain ⟨offset, limit, items, hWindow, rfl, hShown⟩ := hItems _ page hRead
    cases hWindow
    rw [← hShown.length_eq, rowsIn, if_neg (by omega), List.length_take, List.length_drop]
  · intro size pages hSize hRead
    have hShown : List.Forall₂ (fun row item => shown row = .ok item)
        ((pageOffsets size rows.length).flatMap fun offset : Nat => rowsIn offset size rows)
        (pages.flatMap Page.items) := by
      refine List.rel_flatMap (mapM_ok_iff.mp hRead) ?_
      intro start page hStart
      obtain ⟨offset, limit, items, hWindow, rfl, hInside⟩ := hItems _ page hStart
      cases hWindow
      exact hInside
    rwa [flatMap_rowsIn hSize] at hShown

/-- A read that puts pages of rows together, once its parameters are taken, gives the pages of
these rows. -/
theorem of_pageOf {Loaded : Type} {load : ρ → Except Failure Loaded}
    {convert : Loaded → Except Failure α} {parameters : List Value}
    (hTaken : Cell.AreTaken parameters) (hLoad : ∀ row ∈ rows, ∃ loaded, load row = .ok loaded)
    (hRead : ∀ window, read window = (Cell.ofValues (parameters ++ window.parameters) >>= fun _ =>
      pageOf (.ok rows) (.ok ()) window load convert)) :
    Paginates read rows fun row => load row >>= convert := by
  refine of_answers (fun offset limit hOffset hLimit => ?_) fun window page hPage => ?_
  · obtain ⟨cells, hCells⟩ := (Cell.ofValues_isOk_iff _).mpr
      ((Cell.areTaken_append _ _).mpr ⟨hTaken, areTaken_window hOffset hLimit⟩)
    rw [hRead, hCells, ← pageOf_eq hLoad]
    rfl
  · rw [hRead] at hPage
    obtain ⟨cells, -, hPage⟩ := bind_ok_iff.mp hPage
    obtain ⟨-, -, offset, limit, rfl⟩ := pageOf_eq_ok hPage
    exact ⟨offset, limit, rfl, by rw [← hPage, pageOf_eq hLoad]⟩

/-- A read that finds nothing gives the pages of no rows. -/
theorem of_empty (hRead : ∀ window, read window = Page.ofWindow 0 window []) :
    Paginates read ([] : List ρ) shown := by
  have hNone (offset limit : Int) : rowsIn offset limit ([] : List ρ) = [] := by simp [rowsIn]
  refine of_answers (fun offset limit _ _ => ?_) fun window page hPage => ?_
  · rw [hRead, hNone]
    rfl
  · rw [hRead] at hPage
    obtain ⟨offset, limit, hWindow, rfl⟩ := ofWindow_eq_ok hPage
    exact ⟨offset, limit, hWindow, by rw [hNone]; rfl⟩

/-- Where every row can be shown, every window of sixty-four bits is answered. -/
theorem exists_page (hPages : Paginates read rows shown)
    (hShown : ∀ row ∈ rows, ∃ item, shown row = .ok item) {offset limit : Int}
    (hOffset : Number.fitsWord offset = true) (hLimit : Number.fitsWord limit = true) :
    ∃ items, read ⟨some offset, some limit⟩ = .ok ⟨rows.length, offset, limit, items⟩ ∧
      List.Forall₂ (fun row item => shown row = .ok item) (rowsIn offset limit rows) items := by
  obtain ⟨items, hItems, -⟩ :=
    exists_mapM_load Except.ok fun row hRow => hShown row (mem_of_mem_rowsIn hRow)
  refine ⟨items, ?_, mapM_ok_iff.mp hItems⟩
  rw [hPages.page offset limit hOffset hLimit, hItems]
  rfl

end Paginates

end DeviceRegistry
