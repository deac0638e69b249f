import DeviceRegistry.Metadata.Writing
import DeviceRegistry.Proofs.Metadata.Numeral
import DeviceRegistry.Proofs.Number.Rounding
import DeviceRegistry.Proofs.Number.Shortest

/-! Written numbers are well-formed numerals, except for the reals that are called by a name.
Wherever the point and the exponent are put, the numeral stands for the fraction of the digits that
are written, so that a real is the one that its numeral denotes. -/
namespace DeviceRegistry

namespace Number

/-- Each further digit multiplies what came before by ten. -/
theorem digitsValue_append (first second : List Char) :
    digitsValue (first ++ second) =
      10 ^ second.length * digitsValue first + digitsValue second := by
  rw [digitsValue, Nat.ofDigitChars_append, Nat.ofDigitChars_eq_ofDigitChars_zero]
  rfl

theorem digitsValue_zeros (count : Nat) : digitsValue (Layout.zeros count) = 0 := by
  rw [digitsValue, Layout.zeros, Nat.ofDigitChars_replicate_zero, Nat.mul_zero]

/-- The digits of a number are read back as the number. -/
theorem digitsValue_toDigits (n : Nat) : digitsValue (Nat.toDigits 10 n) = n :=
  Nat.ofDigitChars_ten_toDigits

end Number

/-- Decimal digits start with zero for zero alone. -/
theorem toDigits_eq_cons (n : Nat) (hn : n ≠ 0) :
    ∃ c digits, Nat.toDigits 10 n = c :: digits ∧ c ≠ '0' := by
  induction n using Nat.strongRecOn with
  | ind n ih =>
      rw [Nat.toDigits_eq_if (by decide)]
      split
      · rename_i hSmall
        refine ⟨n.digitChar, [], rfl, ?_⟩
        have hAll : ∀ m < 10, m ≠ 0 → m.digitChar ≠ '0' := by decide
        exact hAll n hSmall hn
      · obtain ⟨c, digits, hDigits, hc⟩ := ih (n / 10) (by omega) (by omega)
        exact ⟨c, digits ++ [Nat.digitChar (n % 10)], by rw [hDigits]; rfl, hc⟩

theorem isDigit_of_mem_toDigits (n : Nat) : ∀ c ∈ Nat.toDigits 10 n, c.isDigit = true :=
  fun _ hc => Nat.isDigit_of_mem_toDigits (by decide) (by decide) hc

theorem isDigit_of_mem_zeros (count : Nat) : ∀ c ∈ Layout.zeros count, c.isDigit = true := by
  intro c hc
  rw [List.eq_of_mem_replicate hc]
  decide

namespace Metadata

/-- The exponent of a written number is a mark, a sign and digits. -/
theorem exponentText_form (exponent : Int) : ∃ sign digits,
    Layout.exponentText exponent = 'e' :: sign :: digits ∧ (sign = '+' ∨ sign = '-') ∧ digits ≠ [] ∧
      ∀ c ∈ digits, c.isDigit = true := by
  refine ⟨if exponent < 0 then '-' else '+', _, rfl, ?_, ?_, ?_⟩
  · split
    · exact Or.inr rfl
    · exact Or.inl rfl
  · exact List.append_ne_nil_of_right_ne_nil _ Nat.toDigits_ne_nil
  · intro c hc
    rcases List.mem_append.mp hc with hZero | hDigit
    · exact isDigit_of_mem_zeros _ c hZero
    · exact isDigit_of_mem_toDigits _ c hDigit

/-- The exponent of a written number denotes itself. -/
theorem exponent?_exponentText (exponent : Int) :
    Number.exponent? (Layout.exponentText exponent) = some exponent := by
  let digits :=
    Layout.zeros (2 - (Nat.toDigits 10 exponent.natAbs).length) ++ Nat.toDigits 10 exponent.natAbs
  have hNonempty : digits ≠ [] := List.append_ne_nil_of_right_ne_nil _ Nat.toDigits_ne_nil
  have hAll : digits.all Char.isDigit = true := by
    rw [List.all_append, Bool.and_eq_true, List.all_eq_true, List.all_eq_true]
    exact ⟨isDigit_of_mem_zeros _, isDigit_of_mem_toDigits _⟩
  have hValue : Number.digitsValue digits = exponent.natAbs := by
    rw [Number.digitsValue_append, Number.digitsValue_zeros, Number.digitsValue_toDigits,
      Nat.mul_zero, Nat.zero_add]
  by_cases hNegative : exponent < 0
  · have hText : Layout.exponentText exponent = 'e' :: '-' :: digits := by
      rw [Layout.exponentText, if_pos hNegative]
    rw [hText, Number.exponent?, Number.signAndRest]
    dsimp only
    rw [if_pos ⟨Or.inl rfl, hNonempty, hAll⟩, hValue, if_pos rfl]
    congr 1
    omega
  · have hText : Layout.exponentText exponent = 'e' :: '+' :: digits := by
      rw [Layout.exponentText, if_neg hNegative]
    rw [hText, Number.exponent?, Number.signAndRest]
    dsimp only
    rw [if_pos ⟨Or.inl rfl, hNonempty, hAll⟩, hValue, if_neg Bool.false_ne_true]
    congr 1
    omega

def Numeral.decimal (numeral : Numeral) : Decimal :=
  ⟨Number.digitsValue (numeral.whole ++ numeral.fraction),
    (Number.exponent? numeral.exponent).getD 0 - numeral.fraction.length⟩

/-- After its sign, the text is that of a well-formed numeral that is no integer, and which stands
for the fraction. -/
def Spells (negative : Bool) (magnitude : List Char) (q : ℚ) : Prop :=
  ∃ numeral : Numeral, numeral.WellFormed ∧ numeral.isInteger = false ∧
    numeral.text = (if negative then ['-'] else []) ++ magnitude ∧ numeral.negative = negative ∧
    numeral.decimal.value = q

section Magnitude

variable (negative : Bool) {first : Char} {others : List Char}

/-- The point stands behind the digits and the zeros that follow them. -/
theorem spells_point_behind (hFirst : first ≠ '0')
    (hDigits : ∀ c ∈ first :: others, c.isDigit = true) (count : Nat) :
    Spells negative (first :: others ++ Layout.zeros count ++ ['.', '0'])
      (Decimal.value ⟨Number.digitsValue (first :: others), count⟩) := by
  refine ⟨⟨negative, first :: others ++ Layout.zeros count, ['0'], []⟩, ⟨?_, ?_, ?_, ?_⟩,
    rfl, ?_, rfl, ?_⟩
  · intro c hc
    rcases List.mem_append.mp hc with hDigit | hZero
    · exact hDigits c hDigit
    · exact isDigit_of_mem_zeros _ c hZero
  · exact Or.inr ⟨first, _, rfl, hFirst⟩
  · simp
  · exact Or.inl rfl
  · simp [Numeral.text]
  · have hZeros : Layout.zeros count ++ ['0'] = Layout.zeros (count + 1) :=
      List.replicate_succ'.symm
    have hValue : Number.digitsValue (first :: others ++ Layout.zeros count ++ ['0']) =
        10 ^ (count + 1) * Number.digitsValue (first :: others) := by
      rw [List.append_assoc, hZeros, Number.digitsValue_append,
        Number.digitsValue_zeros, Layout.zeros, List.length_replicate, Nat.add_zero]
    have hMoved := Decimal.value_pow_mul (count + 1) (Number.digitsValue (first :: others)) (-1)
    rw [← hValue, Nat.cast_succ, neg_add_cancel_comm_assoc] at hMoved
    exact hMoved

/-- The point stands among the digits. -/
theorem spells_point_among (hFirst : first ≠ '0')
    (hDigits : ∀ c ∈ first :: others, c.isDigit = true) {before : Nat}
    (hInside : before < others.length) :
    Spells negative
      ((first :: others).take (before + 1) ++ '.' :: (first :: others).drop (before + 1))
      (Decimal.value ⟨Number.digitsValue (first :: others), before - others.length⟩) := by
  have hSome : (others.drop before).isEmpty = false := by simpa using hInside
  refine ⟨⟨negative, (first :: others).take (before + 1), (first :: others).drop (before + 1), []⟩,
    ⟨?_, ?_, ?_, ?_⟩, ?_, ?_, rfl, ?_⟩
  · exact fun c hc => hDigits c (List.mem_of_mem_take hc)
  · exact Or.inr ⟨first, others.take before, rfl, hFirst⟩
  · exact fun c hc => hDigits c (List.mem_of_mem_drop hc)
  · exact Or.inl rfl
  · simp [Numeral.isInteger, hSome]
  · simp [Numeral.text, hSome]
  · have hLength : ((first :: others).drop (before + 1)).length = others.length - before := by simp
    rw [Numeral.decimal, List.take_append_drop, hLength, Nat.cast_sub hInside.le]
    congr 2
    change 0 - ((others.length : Int) - before) = before - others.length
    omega

/-- The point stands before the digits and before zeros. -/
theorem spells_point_before (hDigits : ∀ c ∈ first :: others, c.isDigit = true) (count : Nat) :
    Spells negative ('0' :: '.' :: (Layout.zeros count ++ first :: others))
      (Decimal.value ⟨Number.digitsValue (first :: others),
        -(count + (first :: others).length : Nat)⟩) := by
  refine ⟨⟨negative, ['0'], Layout.zeros count ++ first :: others, []⟩, ⟨?_, ?_, ?_, ?_⟩,
    ?_, ?_, rfl, ?_⟩
  · simp
  · exact Or.inl rfl
  · intro c hc
    rcases List.mem_append.mp hc with hZero | hDigit
    · exact isDigit_of_mem_zeros _ c hZero
    · exact hDigits c hDigit
  · exact Or.inl rfl
  · simp [Numeral.isInteger]
  · simp [Numeral.text]
  · have hValue : Number.digitsValue (['0'] ++ (Layout.zeros count ++ first :: others)) =
        Number.digitsValue (first :: others) := by
      rw [Number.digitsValue_append, Number.digitsValue_append, Number.digitsValue_zeros,
        Nat.mul_zero, Nat.zero_add]
      exact Nat.zero_add _
    have hLength : (Layout.zeros count ++ first :: others).length =
        count + (first :: others).length := by
      rw [List.length_append, Layout.zeros, List.length_replicate]
    rw [Numeral.decimal, hValue, hLength]
    congr 2

/-- One digit stands before the point, if there is one, and an exponent behind the others. -/
theorem spells_exponent (hFirst : first ≠ '0') (hDigits : ∀ c ∈ first :: others, c.isDigit = true)
    (exponent : Int) :
    Spells negative ((if others.isEmpty then [first] else first :: '.' :: others) ++
      Layout.exponentText exponent)
      (Decimal.value ⟨Number.digitsValue (first :: others), exponent - others.length⟩) := by
  obtain ⟨mark, digits, hExponent, hForm⟩ := exponentText_form exponent
  refine ⟨⟨negative, [first], others, Layout.exponentText exponent⟩, ⟨?_, ?_, ?_, ?_⟩,
    ?_, ?_, rfl, ?_⟩
  · intro c hc
    rw [List.mem_singleton.mp hc]
    exact hDigits first List.mem_cons_self
  · exact Or.inr ⟨first, [], rfl, hFirst⟩
  · exact fun c hc => hDigits c (List.mem_cons_of_mem _ hc)
  · exact Or.inr ⟨mark, digits, hExponent, hForm⟩
  · simp [Numeral.isInteger, hExponent]
  · cases others <;> simp [Numeral.text]
  · rw [Numeral.decimal, exponent?_exponentText]
    rfl

/-- A single digit with a point and an exponent stands for its decimal. -/
theorem spells_exponent_point (hFirst : first ≠ '0') (hDigit : first.isDigit = true)
    (exponent : Int) :
    Spells negative ([first, '.', '0'] ++ Layout.exponentText exponent)
      (Decimal.value ⟨Number.digitsValue [first], exponent⟩) := by
  have hBoth : ∀ c ∈ [first, '0'], c.isDigit = true := by simp [hDigit]
  have hSpells := spells_exponent negative hFirst hBoth exponent
  have hMoved := Decimal.value_pow_mul 1 (Number.digitsValue [first]) (exponent - 1)
  have hValue : Number.digitsValue [first, '0'] = 10 ^ 1 * Number.digitsValue [first] :=
    Number.digitsValue_append [first] ['0']
  rw [← hValue, Nat.cast_one, sub_add_cancel] at hMoved
  rw [← hMoved]
  exact hSpells

end Magnitude

/-- Wherever a layout puts the point and the exponent, a decimal other than zero is written as a
well-formed numeral that is no integer and stands for the same fraction. -/
theorem spells_decimalText (layout : Layout) {d : Decimal} (hDigits : d.digits ≠ 0)
    (negative : Bool) :
    Spells negative (layout.decimalText d) d.value := by
  obtain ⟨first, others, hCons, hFirst⟩ := toDigits_eq_cons d.digits hDigits
  have hAll := isDigit_of_mem_toDigits d.digits
  have hValue := Number.digitsValue_toDigits d.digits
  have hSpelled {magnitude : List Char} {exponent : Int} (hExponent : exponent = d.exponent)
      (hSpells : Spells negative magnitude
        (Decimal.value ⟨Number.digitsValue (first :: others), exponent⟩)) :
      Spells negative magnitude d.value := by
    rwa [← hCons, hValue, hExponent] at hSpells
  unfold Layout.decimalText
  dsimp only
  rw [hCons] at hAll ⊢
  rw [List.length_cons]
  split
  · split
    · exact hSpelled (by omega) (spells_point_behind negative hFirst hAll d.exponent.toNat)
    · split
      · exact hSpelled (by omega) (spells_point_among negative hFirst hAll (by omega))
      · exact hSpelled (by simp; omega) (spells_point_before negative hAll _)
  · have hExponent :=
      spells_exponent negative hFirst hAll (d.exponent + (others.length + 1 : Nat) - 1)
    split
    · rename_i digit hSingle
      cases hSingle
      split
      · exact hSpelled (by simp)
          (spells_exponent_point negative hFirst (hAll first List.mem_cons_self) _)
      · exact hSpelled (by simp) hExponent
    · rename_i digit more hMore hSplit
      cases hSplit
      have hSome : others.isEmpty = false := by simpa using hMore
      rw [hSome, if_neg Bool.false_ne_true] at hExponent
      exact hSpelled (by omega) hExponent
    · rename_i hNil
      cases hNil

def integerNumeral (n : Int) : Numeral := ⟨decide (n < 0), Nat.toDigits 10 n.natAbs, [], []⟩

theorem integerNumeral_wellFormed (n : Int) : (integerNumeral n).WellFormed where
  wholeDigits := isDigit_of_mem_toDigits n.natAbs
  wholeStart := by
    by_cases hZero : n.natAbs = 0
    · left
      rw [integerNumeral, hZero, Nat.toDigits_zero]
    · obtain ⟨c, digits, hDigits, hc⟩ := toDigits_eq_cons n.natAbs hZero
      exact Or.inr ⟨c, digits, hDigits, hc⟩
  fractionDigits := by simp [integerNumeral]
  exponentForm := Or.inl rfl

theorem integerNumeral_text (n : Int) : (integerNumeral n).text = integerText n := by
  by_cases hNegative : n < 0 <;> simp [integerNumeral, Numeral.text, integerText, hNegative]

theorem integerNumeral_integer (n : Int) : (integerNumeral n).integer = n := by
  simp only [integerNumeral, Numeral.integer, Number.digitsValue_toDigits, decide_eq_true_eq]
  split <;> omega

/-- A finite value is written by its sign and its digits. -/
theorem text_of_finite (layout : Layout) {x : Binary64} (hNumber : x.isNaN = false)
    (hFinite : x.isInfinite = false) :
    layout.text x = (if x.negative then ['-'] else []) ++
      (if x.isZero then ['0', '.', '0'] else layout.decimalText (layout.digits x)) := by
  rw [Layout.text, hNumber, if_neg Bool.false_ne_true, hFinite]
  cases x.negative <;> rfl

/-- A real that has digits is written as a well-formed numeral that is no integer and denotes
this real. -/
theorem exists_numeral_of_finite {x : Binary64} (hNumber : x.isNaN = false)
    (hFinite : x.isInfinite = false) :
    ∃ numeral : Numeral, numeral.WellFormed ∧ numeral.isInteger = false ∧
      numeral.text = Layout.metadata.text x ∧ numeral.real = x := by
  rw [text_of_finite Layout.metadata hNumber hFinite]
  cases hZero : x.isZero with
  | true =>
      have hDigit : ∀ c ∈ ['0'], c.isDigit = true := by simp
      refine ⟨⟨x.negative, ['0'], ['0'], []⟩, ⟨hDigit, Or.inl rfl, hDigit, Or.inl rfl⟩, rfl, ?_, ?_⟩
      · simp [Numeral.text]
      · have hDigits : Number.digitsValue (['0'] ++ ['0']) = 0 := rfl
        rw [Numeral.real, Binary64.ofDecimal, if_pos hDigits]
        exact Binary64.ofRank_eq (of_decide_eq_true hZero).symm (Nat.zero_le _)
  | false =>
      have hLayout : Layout.metadata.digits = Binary64.shortest := by
        simp only [Layout.metadata, Layout.plain]
      rw [if_neg Bool.false_ne_true, hLayout]
      obtain ⟨numeral, hForm, hReal, hText, hNegative, hValue⟩ :=
        spells_decimalText Layout.metadata (Binary64.shortest_digits_ne_zero hZero) x.negative
      have hBelow : x.isFinite = true := by
        have hNotAbove : ¬ Binary64.infinityRank < x.rank := of_decide_eq_false hNumber
        have hNotThere : x.rank ≠ Binary64.infinityRank := of_decide_eq_false hFinite
        exact decide_eq_true (by omega)
      have hAttracts : x.Attracts numeral.decimal.value := by
        rw [hValue]
        exact Binary64.attracts_shortest hZero
      refine ⟨numeral, hForm, hReal, hText, ?_⟩
      rw [← Binary64.ofDecimal_eq hBelow (Binary64.significand_ne_zero hZero) hAttracts,
        ← hNegative]
      rfl

/-- A finite value is written as a numeral that is no integer. -/
theorem exists_numeral_text {x : Binary64} (hNumber : x.isNaN = false)
    (hFinite : x.isInfinite = false) :
    ∃ numeral : Numeral, numeral.WellFormed ∧ numeral.isInteger = false ∧
      numeral.text = Layout.metadata.text x := by
  obtain ⟨numeral, hForm, hReal, hText, -⟩ := exists_numeral_of_finite hNumber hFinite
  exact ⟨numeral, hForm, hReal, hText⟩

end Metadata

end DeviceRegistry
