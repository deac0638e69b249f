import DeviceRegistry.Metadata.Token
import Mathlib.Data.List.TakeDrop

/-! Numerals are read back as they were written, where what follows them ends a value. A
written numeral has no zero in front of other digits before its point, for reading would
stop at that zero. -/
namespace DeviceRegistry.Metadata

/-- Nothing follows, or what follows ends a value. -/
def Ends (rest : List Char) : Prop := ∀ c ∈ rest.head?, c = ',' ∨ c = ']' ∨ c = '\x7d'

theorem ends_nil : Ends [] := by simp [Ends]

theorem ends_comma (rest : List Char) : Ends (',' :: rest) := by simp [Ends]

theorem ends_bracket (rest : List Char) : Ends (']' :: rest) := by simp [Ends]

theorem ends_brace (rest : List Char) : Ends ('\x7d' :: rest) := by simp [Ends]

/-- No white space is passed over before what ends a value. -/
theorem Ends.afterSpace_eq {rest : List Char} (hEnds : Ends rest) : afterSpace rest = rest := by
  cases rest with
  | nil => rfl
  | cons c rest =>
      rcases hEnds c rfl with rfl | rfl | rfl <;> rfl

/-- A run of digits is taken as a whole where no digit follows it. -/
theorem span_digits {digits rest : List Char} (hDigits : ∀ c ∈ digits, c.isDigit = true)
    (hRest : ∀ c ∈ rest.head?, c.isDigit = false) :
    (digits ++ rest).span Char.isDigit = (digits, rest) := by
  have hNone : rest.takeWhile Char.isDigit = [] ∧ rest.dropWhile Char.isDigit = rest := by
    cases rest with
    | nil => exact ⟨rfl, rfl⟩
    | cons c rest =>
        have hNot := hRest c rfl
        simp [hNot]
  rw [List.span_eq_takeWhile_dropWhile, List.takeWhile_append_of_pos hDigits,
    List.dropWhile_append_of_pos hDigits, hNone.1, hNone.2, List.append_nil]

structure Numeral.WellFormed (numeral : Numeral) : Prop where
  wholeDigits : ∀ c ∈ numeral.whole, c.isDigit = true
  wholeStart : numeral.whole = ['0'] ∨ ∃ c digits, numeral.whole = c :: digits ∧ c ≠ '0'
  fractionDigits : ∀ c ∈ numeral.fraction, c.isDigit = true
  exponentForm : numeral.exponent = [] ∨ ∃ sign digits, numeral.exponent = 'e' :: sign :: digits ∧
    (sign = '+' ∨ sign = '-') ∧ digits ≠ [] ∧ ∀ c ∈ digits, c.isDigit = true

namespace Numeral.WellFormed

variable {numeral : Numeral} {rest : List Char}

/-- Behind a fraction stands no digit and no second point. -/
theorem exponent_head (hForm : numeral.WellFormed) (hEnds : Ends rest) :
    ∀ c ∈ (numeral.exponent ++ rest).head?, c.isDigit = false ∧ c ≠ '.' := by
  intro c hc
  rcases hForm.exponentForm with hNone | ⟨sign, digits, hExponent, -⟩
  · rw [hNone, List.nil_append] at hc
    rcases hEnds c hc with rfl | rfl | rfl <;> decide
  · rw [hExponent] at hc
    obtain rfl : 'e' = c := Option.some.inj hc
    decide

/-- An exponent is read up to what ends the numeral. -/
theorem exponentText_eq (hForm : numeral.WellFormed) (hEnds : Ends rest) :
    exponentText (numeral.exponent ++ rest) = (numeral.exponent, rest) := by
  rcases hForm.exponentForm with hNone | ⟨sign, digits, hExponent, hSign, hNonempty, hDigits⟩
  · rw [hNone, List.nil_append]
    cases rest with
    | nil => rfl
    | cons c rest =>
        rcases hEnds c rfl with rfl | rfl | rfl <;> rfl
  · have hNoDigit : ∀ c ∈ rest.head?, c.isDigit = false := by
      intro c hc
      rcases hEnds c hc with rfl | rfl | rfl <;> decide
    have hSpan := span_digits hDigits hNoDigit
    have hIsEmpty : digits.isEmpty = false := by simpa using hNonempty
    rw [hExponent]
    rcases hSign with rfl | rfl <;>
      simp [-List.span_eq_takeWhile_dropWhile, exponentText, hSpan, hIsEmpty]

theorem fractionDigits_eq (hForm : numeral.WellFormed) (hEnds : Ends rest) :
    Metadata.fractionDigits
        ((if numeral.fraction.isEmpty then [] else '.' :: numeral.fraction) ++
          (numeral.exponent ++ rest)) =
      (numeral.fraction, numeral.exponent ++ rest) := by
  have hHead := hForm.exponent_head hEnds
  cases hFraction : numeral.fraction with
  | nil =>
      simp only [List.isEmpty_nil, ↓reduceIte, List.nil_append]
      unfold Metadata.fractionDigits
      split
      · rename_i after hPoint
        exact absurd rfl (hHead '.' (by rw [hPoint]; rfl)).2
      · rfl
  | cons c digits =>
      have hSpan := span_digits (hFraction ▸ hForm.fractionDigits) fun c hc => (hHead c hc).1
      rw [List.isEmpty_cons, if_neg Bool.false_ne_true, List.cons_append,
        Metadata.fractionDigits, hSpan]
      rfl

/-- Whole digits are read up to the first character that is none. -/
theorem wholeDigits?_eq (hForm : numeral.WellFormed) {tail : List Char}
    (hTail : ∀ c ∈ tail.head?, c.isDigit = false) :
    wholeDigits? (numeral.whole ++ tail) = some (numeral.whole, tail) := by
  rcases hForm.wholeStart with hZero | ⟨c, digits, hWhole, hNotZero⟩
  · rw [hZero]
    rfl
  · have hSpan := span_digits hForm.wholeDigits hTail
    have hDigit : c.isDigit = true := hForm.wholeDigits c (by rw [hWhole]; exact List.mem_cons_self)
    rw [hWhole] at hSpan ⊢
    rw [List.cons_append, wholeDigits?, if_neg hNotZero, if_pos hDigit, ← List.cons_append, hSpan]

/-- The first digit is no minus sign. -/
theorem whole_ne_minus (hForm : numeral.WellFormed) (tail after : List Char) :
    numeral.whole ++ tail ≠ '-' :: after := by
  intro hMinus
  rcases hForm.wholeStart with hZero | ⟨c, digits, hWhole, -⟩
  · rw [hZero] at hMinus
    cases hMinus
  · have hDigit : c.isDigit = true := hForm.wholeDigits c (by rw [hWhole]; exact List.mem_cons_self)
    rw [hWhole] at hMinus
    cases hMinus
    cases hDigit

/-- A well-formed numeral is read back, and reading goes on behind it. -/
theorem numeral?_text (hForm : numeral.WellFormed) (hEnds : Ends rest) :
    numeral? (numeral.text ++ rest) = some (numeral, rest) := by
  let fraction := if numeral.fraction.isEmpty then [] else '.' :: numeral.fraction
  have hTail : ∀ c ∈ (fraction ++ (numeral.exponent ++ rest)).head?, c.isDigit = false := by
    intro c hc
    cases hFraction : numeral.fraction with
    | nil =>
        simp only [fraction, hFraction, List.isEmpty_nil, ↓reduceIte, List.nil_append] at hc
        exact (hForm.exponent_head hEnds c hc).1
    | cons d digits =>
        simp only [fraction, hFraction, List.isEmpty_cons] at hc
        obtain rfl : '.' = c := Option.some.inj hc
        decide
  have hWhole := hForm.wholeDigits?_eq hTail
  have hFraction : Metadata.fractionDigits (fraction ++ (numeral.exponent ++ rest)) = _ :=
    hForm.fractionDigits_eq hEnds
  have hExponent := hForm.exponentText_eq hEnds
  unfold numeral?
  cases hNegative : numeral.negative with
  | true =>
      have hText : numeral.text ++ rest =
          '-' :: (numeral.whole ++ (fraction ++ (numeral.exponent ++ rest))) := by
        simp [text, hNegative, fraction]
      rw [hText]
      change Option.map _
        (wholeDigits? (numeral.whole ++ (fraction ++ (numeral.exponent ++ rest)))) = _
      rw [hWhole, Option.map_some]
      dsimp only
      rw [hFraction]
      dsimp only
      rw [hExponent]
      change some (Numeral.mk true numeral.whole numeral.fraction numeral.exponent, rest) = _
      rw [← hNegative]
  | false =>
      have hText : numeral.text ++ rest =
          numeral.whole ++ (fraction ++ (numeral.exponent ++ rest)) := by
        simp [text, hNegative, fraction]
      rw [hText]
      split
      rename_i hSplit
      split at hSplit
      · rename_i after hMinus
        exact absurd hMinus (hForm.whole_ne_minus _ _)
      · cases hSplit
        rw [hWhole, Option.map_some]
        dsimp only
        rw [hFraction]
        dsimp only
        rw [hExponent, ← hNegative]

end Numeral.WellFormed

end DeviceRegistry.Metadata
