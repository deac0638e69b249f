import DeviceRegistry.Store.Operation
import Mathlib.Data.Prod.Lex
import Mathlib.Data.String.Basic

/-! Listings are in order. Rows are compared by a key from a linear order, and where the keys differ
each row stands strictly before those behind it. -/
namespace DeviceRegistry

section Order

variable {α κ : Type} [LinearOrder κ] {before : α → α → Bool} {key : α → κ} {item : α}
  {items : List α}

theorem insertedBy_perm (before : α → α → Bool) (item : α) (items : List α) :
    (insertedBy before item items).Perm (item :: items) := by
  induction items with
  | nil => exact .refl _
  | cons first others ih =>
      rw [insertedBy]
      split
      · exact .refl _
      · exact (ih.cons first).trans (.swap item first others)

/-- Putting rows in order neither loses nor repeats any. -/
theorem orderedBy_perm (before : α → α → Bool) (items : List α) :
    (orderedBy before items).Perm items := by
  induction items with
  | nil => exact .refl _
  | cons item items ih => exact (insertedBy_perm before item _).trans (ih.cons item)

/-- An item is put into a list in order so that the order stays. -/
theorem pairwise_insertedBy
    (hBefore : ∀ other ∈ items, before item other = decide (key item ≤ key other))
    (hItems : items.Pairwise fun a b => key a ≤ key b) :
    (insertedBy before item items).Pairwise fun a b => key a ≤ key b := by
  induction items with
  | nil => exact List.pairwise_singleton _ item
  | cons first others ih =>
      obtain ⟨hFirst, hOthers⟩ := List.pairwise_cons.mp hItems
      rw [List.forall_mem_cons] at hBefore
      rw [insertedBy, hBefore.1]
      by_cases hLe : key item ≤ key first
      · rw [if_pos (decide_eq_true hLe)]
        refine List.pairwise_cons.mpr ⟨fun other hOther => ?_, hItems⟩
        rcases List.mem_cons.mp hOther with rfl | hOther
        · exact hLe
        · exact hLe.trans (hFirst other hOther)
      · rw [if_neg (by simpa using hLe)]
        refine List.pairwise_cons.mpr ⟨fun other hOther => ?_, ih hBefore.2 hOthers⟩
        rcases List.mem_cons.mp ((insertedBy_perm before item others).mem_iff.mp hOther)
          with rfl | hOther
        · exact (not_le.mp hLe).le
        · exact hFirst other hOther

/-- Rows that are compared by a key stand in ascending order of their keys. -/
theorem pairwise_orderedBy
    (hBefore : ∀ a ∈ items, ∀ b ∈ items, before a b = decide (key a ≤ key b)) :
    (orderedBy before items).Pairwise fun a b => key a ≤ key b := by
  induction items with
  | nil => exact .nil
  | cons item items ih =>
      refine pairwise_insertedBy (fun other hOther => ?_) (ih fun a ha b hb => ?_)
      · have hOther := (orderedBy_perm before items).mem_iff.mp hOther
        exact hBefore item List.mem_cons_self other (List.mem_cons_of_mem _ hOther)
      · exact hBefore a (List.mem_cons_of_mem _ ha) b (List.mem_cons_of_mem _ hb)

/-- Rows with different keys stand in strictly ascending order. -/
theorem strict_orderedBy (hBefore : ∀ a ∈ items, ∀ b ∈ items, before a b = decide (key a ≤ key b))
    (hNodup : (items.map key).Nodup) :
    (orderedBy before items).Pairwise fun a b => key a < key b := by
  have hDiffer : (orderedBy before items).Pairwise fun a b => key a ≠ key b := by
    rw [← List.pairwise_map]
    exact ((orderedBy_perm before items).map key).nodup_iff.mpr hNodup
  exact (pairwise_orderedBy hBefore).imp₂ (fun _ _ hLe hNe => lt_of_le_of_ne hLe hNe) hDiffer

end Order

/-- Entities are compared by their identifiers. -/
theorem EntityTable.before_eq {Row Entity : Type} (table : EntityTable Row Entity)
    {rows : List Row} :
    ∀ a ∈ rows, ∀ b ∈ rows, table.before a b = decide (table.id a ≤ table.id b) :=
      fun _ _ _ _ => rfl

namespace MessageRow

/-- A later message comes before an earlier one, and of messages of one time the one with the
smaller number. -/
def Precedes (a b : MessageRow) : Prop :=
  b.message.time.less a.message.time = true ∨
    b.message.time.equals a.message.time = true ∧ a.number < b.number

/-- The place of a message in a listing: the opposite of its time, and among equal
times its number. -/
def rank (row : MessageRow) : Int ×ₗ Nat := toLex (- row.message.time.place, row.number)

/-- Messages whose times are numbers are compared by their ranks. -/
theorem before_eq_rank {a b : MessageRow} (ha : a.message.time.isNaN = false)
    (hb : b.message.time.isNaN = false) :
    a.before b = decide (a.rank ≤ b.rank) := by
  rw [Bool.eq_iff_iff, decide_eq_true_eq, rank, rank, Prod.Lex.toLex_le_toLex,
    before, Binary64.less, Binary64.equals, ha, hb]
  simp only [Bool.not_false, Bool.true_and, Bool.or_eq_true, Bool.and_eq_true, decide_eq_true_eq]
  omega

/-- A smaller rank means a later time, or the same time and a smaller number. -/
theorem precedes_of_rank_lt {a b : MessageRow} (ha : a.message.time.isNaN = false)
    (hb : b.message.time.isNaN = false) (hLess : a.rank < b.rank) : a.Precedes b := by
  rw [rank, rank, Prod.Lex.toLex_lt_toLex] at hLess
  rw [Precedes, Binary64.less, Binary64.equals, ha, hb]
  simp only [Bool.not_false, Bool.true_and, decide_eq_true_eq]
  omega

end MessageRow

end DeviceRegistry
