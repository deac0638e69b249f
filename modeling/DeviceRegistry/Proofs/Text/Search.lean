import DeviceRegistry.Text.Search
import Mathlib.Tactic.Common

/-! A text is found in another one exactly where it is a part of it. -/
namespace DeviceRegistry.Text

/-- Some end has the property exactly if the text can be split in front of it. -/
theorem someEnd_iff (p : List Char → Bool) (text : List Char) :
    someEnd p text = true ↔ ∃ front rest, text = front ++ rest ∧ p rest = true := by
  induction text with
  | nil => simp [someEnd]
  | cons c text ih =>
      rw [someEnd, Bool.or_eq_true, ih]
      constructor
      · rintro (hWhole | ⟨front, rest, rfl, hRest⟩)
        · exact ⟨[], c :: text, rfl, hWhole⟩
        · exact ⟨c :: front, rest, rfl, hRest⟩
      · rintro ⟨front, rest, hText, hRest⟩
        cases front with
        | nil => exact Or.inl (by rwa [hText])
        | cons d front =>
            obtain ⟨rfl, rfl⟩ := List.cons.inj hText
            exact Or.inr ⟨front, rest, rfl, hRest⟩

/-- A text occurs where it stands without gaps. -/
theorem occursIn_iff (sought text : List Char) :
    occursIn sought text = true ↔ sought <:+: text := by
  rw [occursIn, someEnd_iff]
  constructor
  · rintro ⟨front, rest, rfl, hStart⟩
    exact (List.isPrefixOf_iff_prefix.mp hStart).isInfix.trans
      (List.suffix_append front rest).isInfix
  · rintro ⟨front, back, rfl⟩
    exact ⟨front, sought ++ back, List.append_assoc ..,
      List.isPrefixOf_iff_prefix.mpr (List.prefix_append ..)⟩

end DeviceRegistry.Text
