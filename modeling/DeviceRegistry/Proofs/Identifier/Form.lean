import DeviceRegistry.Identifier.Supply
import DeviceRegistry.Proofs.Number.HexInteger

/-! Which texts pass for identifiers. An identifier is documented to have hyphens at four places and
digits in base sixteen at all others. What is accepted is wider. Marks, braces and hyphens are taken
away wherever they are found, and what is left is read as an integer, so that any four characters
too many will do that are taken away, and any way to write an integer. -/
namespace DeviceRegistry.Identifier

open Number

/-- The places of the hyphens, counted from zero. -/
def hyphenPlaces : List Nat := [8, 13, 18, 23]

/-- The documented form: thirty-six characters, a hyphen at each of the four places and a digit in
base sixteen at each other one. -/
def HasForm (text : String) : Prop :=
  text.length = 36 ∧ ∀ place c, text.toList[place]? = some c →
    if place ∈ hyphenPlaces then c = '-' else isHexDigit c = true

/-- An integer with a mark of identifiers somewhere in it. -/
def IsMarked (text : List Char) : Prop :=
  ∃ front back, text = front ++ ("urn:".toList ++ back) ∧ '-' ∉ front ++ back ∧
  IsHexNumber (front ++ back)

/-- An integer with hyphens anywhere and braces at the ends, four of them together. -/
def IsGrouped (text : List Char) : Prop :=
  ∃ left middle right, text = left ++ middle ++ right ∧ (∀ c ∈ left, isBrace c = true) ∧
    (∀ c ∈ right, isBrace c = true) ∧ left.length + middle.count '-' + right.length = 4 ∧
    IsHexNumber (middle.filter (· != '-'))

section Removing

variable {pattern text : List Char}

/-- Characters that are still to be passed over are dropped first. -/
theorem removingFrom_eq (pattern : List Char) (skip : Nat) (text : List Char) :
    removingFrom pattern skip text = removing pattern (text.drop skip) := by
  induction text generalizing skip with
  | nil => cases skip <;> simp [removing, removingFrom]
  | cons c rest ih =>
      cases skip with
      | zero => rfl
      | succ skip => rw [removingFrom, ih, List.drop_succ_cons]

theorem removing_cons (pattern : List Char) (c : Char) (rest : List Char) :
    removing pattern (c :: rest) =
      if pattern.isPrefixOf (c :: rest) then removing pattern (rest.drop (pattern.length - 1))
      else c :: removing pattern rest := by
  rw [removing, removingFrom, removingFrom_eq]
  rfl

theorem removing_append_self (hSome : pattern ≠ []) (rest : List Char) :
    removing pattern (pattern ++ rest) = removing pattern rest := by
  cases pattern with
  | nil => exact absurd rfl hSome
  | cons first pattern =>
      have hStart : (first :: pattern).isPrefixOf (first :: (pattern ++ rest)) = true :=
        List.isPrefixOf_iff_prefix.mpr ⟨rest, rfl⟩
      rw [List.cons_append, removing_cons, if_pos hStart]
      simp

/-- Nothing is taken away before the first character of the pattern comes up. -/
theorem removing_append {first : Char} {front : List Char} (hAbsent : first ∉ front)
    (rest : List Char) :
    removing (first :: pattern) (front ++ rest) = front ++ removing (first :: pattern) rest := by
  induction front with
  | nil => rfl
  | cons c front ih =>
      rw [List.mem_cons, not_or] at hAbsent
      have hOther : (first :: pattern).isPrefixOf (c :: (front ++ rest)) = false := by
        simp [List.isPrefixOf, hAbsent.1]
      rw [List.cons_append, removing_cons, hOther, ih hAbsent.2]
      rfl

/-- Either the pattern stands nowhere in the text, or it is taken away where it stands first. -/
theorem removing_cases (hSome : pattern ≠ []) (text : List Char) :
    removing pattern text = text ∨
      ∃ front back, text = front ++ (pattern ++ back) ∧ removing pattern text =
        front ++ removing pattern back := by
  induction text with
  | nil => exact Or.inl rfl
  | cons c rest ih =>
      rw [removing_cons]
      split
      · rename_i hStart
        obtain ⟨back, hBack⟩ := List.isPrefixOf_iff_prefix.mp hStart
        refine Or.inr ⟨[], back, hBack.symm, ?_⟩
        cases pattern with
        | nil => exact absurd rfl hSome
        | cons first pattern =>
            obtain ⟨-, rfl⟩ := List.cons.inj hBack
            simp
      · rcases ih with hSame | ⟨front, back, hText, hRemoved⟩
        · exact Or.inl (by rw [hSame])
        · exact Or.inr ⟨c :: front, back, by rw [hText]; rfl, by rw [hRemoved]; rfl⟩

/-- What is taken away makes the text shorter by the whole pattern. -/
theorem removing_eq_or_shorter (hSome : pattern ≠ []) (text : List Char) :
    removing pattern text = text ∨
    (removing pattern text).length + pattern.length ≤ text.length := by
  have hLess (text : List Char) : ∀ skip,
      (removingFrom pattern skip text).length ≤ text.length := by
    induction text with
    | nil => intro skip; cases skip <;> simp [removingFrom]
    | cons c rest ih =>
        intro skip
        cases skip with
        | zero =>
            have hRest := ih (pattern.length - 1)
            have hSame := ih 0
            rw [removingFrom]
            split <;> simp <;> omega
        | succ skip => exact (ih skip).trans (Nat.le_succ _)
  rcases removing_cases hSome text with hSame | ⟨front, back, rfl, hRemoved⟩
  · exact Or.inl hSame
  · have hBack : (removing pattern back).length ≤ back.length := hLess back 0
    rw [hRemoved]
    refine Or.inr ?_
    simp only [List.length_append]
    omega

/-- Characters that are taken away and those that stay make up the text. -/
theorem length_filter_add_count (c : Char) (text : List Char) :
    (text.filter (· != c)).length + text.count c = text.length := by
  induction text with
  | nil => rfl
  | cons d text ih =>
      by_cases hSame : d = c
      · simp [hSame]
        omega
      · simp [hSame]
        omega

end Removing

section Characters

variable {text : List Char}

/-- Integers hold neither marks nor braces. -/
theorem not_mem_of_isHexNumber (hNumber : IsHexNumber text) :
    'u' ∉ text ∧ ∀ c, isBrace c = true → c ∉ text := by
  obtain ⟨front, middle, back, rfl, hFront, hBack, hSigned⟩ := hNumber
  have hPart : ∀ c ∈ front ++ middle ++ back,
      Text.isBlank c = true ∨ Text.toAsciiDigit c ∈ hexMarks ∨
      isHexDigit (Text.toAsciiDigit c) = true := by
    intro c hMem
    rcases List.mem_append.mp hMem with hMem | hInBack
    · rcases List.mem_append.mp hMem with hInFront | hInMiddle
      · exact Or.inl (hFront c hInFront)
      · exact Or.inr (hSigned.mem _ (List.mem_map_of_mem hInMiddle))
    · exact Or.inl (hBack c hInBack)
  refine ⟨fun hMem => absurd (hPart 'u' hMem) (by decide), fun c hBrace hMem => ?_⟩
  rw [isBrace, Bool.or_eq_true, beq_iff_eq, beq_iff_eq] at hBrace
  rcases hBrace with rfl | rfl
  · exact absurd (hPart _ hMem) (by decide)
  · exact absurd (hPart _ hMem) (by decide)

end Characters

/-- What is left of an integer with a mark in it is the integer. -/
theorem core_of_isMarked {front back : List Char} (hHyphen : '-' ∉ front ++ back)
    (hNumber : IsHexNumber (front ++ back)) :
    core (front ++ ("urn:".toList ++ back)) = front ++ back := by
  obtain ⟨hMark, hBrace⟩ := not_mem_of_isHexNumber hNumber
  have hApart : 'u' ∉ front ∧ 'u' ∉ back := by simpa using hMark
  have hUrn : removing "urn:".toList (front ++ ("urn:".toList ++ back)) = front ++ back := by
    have hBack : removing "urn:".toList back = back := removingFrom_eq_self hApart.2
    have hFront : removing "urn:".toList (front ++ ("urn:".toList ++ back)) =
        front ++ removing "urn:".toList ("urn:".toList ++ back) := removing_append hApart.1 _
    rw [hFront, removing_append_self (by decide), hBack]
  have hUuid : removing "uuid:".toList (front ++ back) = front ++ back := removingFrom_eq_self hMark
  have hBraces : withoutBraces (front ++ back) = front ++ back :=
    withoutBraces_eq_self fun c hMem => Bool.eq_false_iff.mpr fun hSame => hBrace c hSame hMem
  rw [core, hUrn, hUuid, hBraces, List.filter_eq_self]
  exact fun c hMem => by simpa using fun hSame : c = '-' => hHyphen (hSame ▸ hMem)

/-- What is left of an integer with hyphens and braces is the integer. -/
theorem core_of_isGrouped {left middle right : List Char} (hLeft : ∀ c ∈ left, isBrace c = true)
    (hRight : ∀ c ∈ right, isBrace c = true) (hSome : middle ≠ [])
    (hNumber : IsHexNumber (middle.filter (· != '-'))) :
    core (left ++ middle ++ right) = middle.filter (· != '-') := by
  obtain ⟨hMark, hBrace⟩ := not_mem_of_isHexNumber hNumber
  have hKept {c : Char} (hMem : c ∈ middle) (hOther : c ≠ '-') : c ∈ middle.filter (· != '-') :=
    List.mem_filter.mpr ⟨hMem, by simpa using hOther⟩
  have hAbsent : 'u' ∉ left ++ middle ++ right := by
    simp only [List.mem_append, not_or]
    refine ⟨⟨fun hMem => ?_, fun hMem => hMark (hKept hMem (by decide))⟩, fun hMem => ?_⟩
    · exact absurd (hLeft _ hMem) (by decide)
    · exact absurd (hRight _ hMem) (by decide)
  have hUrn : removing "urn:".toList (left ++ middle ++ right) = left ++ middle ++ right :=
    removingFrom_eq_self hAbsent
  have hUuid : removing "uuid:".toList (left ++ middle ++ right) = left ++ middle ++ right :=
    removingFrom_eq_self hAbsent
  have hMiddle : ∀ c ∈ middle, isBrace c = false := by
    intro c hMem
    refine Bool.eq_false_iff.mpr fun hSame => hBrace c hSame (hKept hMem ?_)
    rintro rfl
    exact absurd hSame (by decide)
  have hBraces : withoutBraces (left ++ middle ++ right) = middle :=
    dropEnds_eq hLeft hRight hSome hMiddle
  rw [core, hUrn, hUuid, hBraces]

/-- The characters that are taken away from an identifier are four, and they are a mark, or braces
and hyphens. -/
theorem core_cases {text : List Char} (hLength : text.length = 36)
    (hCore : (core text).length = 32) :
    (∃ front back, text = front ++ ("urn:".toList ++ back) ∧ '-' ∉ front ++ back ∧
      core text = front ++ back) ∨
      ∃ left middle right, text = left ++ middle ++ right ∧ (∀ c ∈ left, isBrace c = true) ∧
        (∀ c ∈ right, isBrace c = true) ∧ left.length + middle.count '-' + right.length = 4 ∧
        core text = middle.filter (· != '-') := by
  have hUrn : "urn:".toList ≠ [] := by decide
  have hUuid : "uuid:".toList ≠ [] := by decide
  obtain ⟨marked, hMarked⟩ : ∃ marked, marked = removing "urn:".toList text := ⟨_, rfl⟩
  obtain ⟨bare, hBare⟩ : ∃ bare, bare = removing "uuid:".toList marked := ⟨_, rfl⟩
  have hCoreEq : core text = (withoutBraces bare).filter (· != '-') := by
    rw [core, ← hMarked, ← hBare]
  obtain ⟨left, right, hBraces, hLeft, hRight⟩ := exists_ends isBrace bare
  replace hBraces : bare = left ++ withoutBraces bare ++ right := hBraces
  have hHyphens := length_filter_add_count '-' (withoutBraces bare)
  have hEnds := congrArg List.length hBraces
  simp only [List.length_append] at hEnds
  rw [← hCoreEq, hCore] at hHyphens
  -- The longer mark has five characters, which is one more than may be taken away.
  have hShort : marked.length ≤ 36 := by
    rcases removing_eq_or_shorter hUrn text with hSame | hShorter
    · rw [hMarked, hSame, hLength]
    · rw [hMarked]
      omega
  have hSameMark : bare = marked := by
    rcases removing_eq_or_shorter hUuid marked with hSame | hShorter
    · rw [hBare, hSame]
    · have hFive : "uuid:".toList.length = 5 := by decide
      rw [← hBare] at hShorter
      omega
  rcases removing_cases hUrn text with hSame | ⟨front, back, hText, hRemoved⟩
  · have hWhole : bare = text := by rw [hSameMark, hMarked, hSame]
    have hAll := congrArg List.length hWhole
    exact Or.inr ⟨left, withoutBraces bare, right, hWhole ▸ hBraces, hLeft,
      hRight, by omega, hCoreEq⟩
  · have hFour : "urn:".toList.length = 4 := by decide
    have hParts := congrArg List.length hText
    have hRest := congrArg List.length (hSameMark.trans (hMarked.trans hRemoved))
    simp only [List.length_append] at hParts hRest
    have hBack : removing "urn:".toList back = back := by
      rcases removing_eq_or_shorter hUrn back with hSame | hShorter
      · exact hSame
      · omega
    have hWhole : bare = front ++ back := by rw [hSameMark, hMarked, hRemoved, hBack]
    rw [hBack] at hRest
    obtain ⟨hNoLeft, hNoRight, hNone⟩ :
        left.length = 0 ∧ right.length = 0 ∧ (withoutBraces bare).count '-' = 0 := by omega
    have hInside : withoutBraces bare = front ++ back := by
      rw [← hWhole]
      conv_rhs => rw [hBraces, List.length_eq_zero_iff.mp hNoLeft,
        List.length_eq_zero_iff.mp hNoRight]
      simp
    rw [hInside, List.count_eq_zero] at hNone
    refine Or.inl ⟨front, back, hText, hNone, ?_⟩
    rw [hCoreEq, hInside, List.filter_eq_self]
    exact fun c hMem => by simpa using fun hSame : c = '-' => hNone (hSame ▸ hMem)

/-- A text is accepted exactly if it has thirty-six characters and is an integer of thirty-two with
a mark in it, or with hyphens and braces. -/
theorem isValid_iff (text : String) :
    isValid text = true ↔ text.length = 36 ∧ (IsMarked text.toList ∨ IsGrouped text.toList) := by
  rw [isValid, Bool.and_eq_true, Bool.and_eq_true, decide_eq_true_eq, decide_eq_true_eq,
    isHexInteger_iff, and_assoc]
  refine and_congr_right fun hLength => ?_
  rw [← String.length_toList] at hLength
  constructor
  · rintro ⟨hCore, hNumber⟩
    rcases core_cases hLength hCore with ⟨front, back, hText, hHyphen, hBare⟩ |
      ⟨left, middle, right, hText, hLeft, hRight, hFour, hBare⟩
    · exact Or.inl ⟨front, back, hText, hHyphen, hBare ▸ hNumber⟩
    · exact Or.inr ⟨left, middle, right, hText, hLeft, hRight, hFour, hBare ▸ hNumber⟩
  · rintro (⟨front, back, hText, hHyphen, hNumber⟩ | ⟨left, middle, right, hText, hLeft, hRight,
      hFour, hNumber⟩)
    · have hFourMark : "urn:".toList.length = 4 := by decide
      rw [hText] at hLength ⊢
      rw [core_of_isMarked hHyphen hNumber]
      simp only [List.length_append] at hLength ⊢
      exact ⟨by omega, hNumber⟩
    · have hKept := length_filter_add_count '-' middle
      rw [hText] at hLength ⊢
      simp only [List.length_append] at hLength
      have hSome : middle ≠ [] := by
        rintro rfl
        simp at hLength hFour
        omega
      rw [core_of_isGrouped hLeft hRight hSome hNumber]
      exact ⟨by omega, hNumber⟩

section Plain

variable {text : List Char}

/-- A digit of base sixteen is written as it is. -/
theorem toAsciiDigit_of_isHexDigit {c : Char} (hDigit : isHexDigit c = true) :
    Text.toAsciiDigit c = c ∧ c ≠ '-' ∧ c ≠ ':' ∧ isBrace c = false := by
  have hAll : ∀ code < 128, isHexDigit (Char.ofNat code) = true →
      Text.toAsciiDigit (Char.ofNat code) = Char.ofNat code ∧ Char.ofNat code ≠ '-' ∧
      Char.ofNat code ≠ ':' ∧
        isBrace (Char.ofNat code) = false := by decide
  have hSmall : c.toNat < 128 := by
    simp only [isHexDigit, Char.isDigit, Bool.or_eq_true, Bool.and_eq_true,
      decide_eq_true_eq, Char.le_def, UInt32.le_iff_toNat_le] at hDigit
    have hLast : '9'.val.toNat = 57 ∧ 'f'.val.toNat = 102 ∧ 'F'.val.toNat = 70 := ⟨rfl, rfl, rfl⟩
    show c.val.toNat < 128
    omega
  have hCode := hAll c.toNat hSmall
  rw [Char.ofNat_toNat] at hCode
  exact hCode hDigit

theorem isHexNumber_of_all (hSome : text ≠ []) (hDigits : ∀ c ∈ text, isHexDigit c = true) :
    IsHexNumber text := by
  have hSame : text.map Text.toAsciiDigit = text := by
    conv_rhs => rw [← List.map_id text]
    exact List.map_congr_left fun c hMem => (toAsciiDigit_of_isHexDigit (hDigits c hMem)).1
  refine ⟨[], text, [], by simp, by simp, by simp, [], by simp [signs], [], by
    simp [baseMarks], text, hSame, ?_⟩
  exact hexDigits_of_all hSome hDigits

/-- Of texts of hyphens and digits those are accepted that have thirty-six characters and four
hyphens, wherever the hyphens stand. -/
theorem isValid_iff_of_plain {text : String}
    (hPlain : ∀ c ∈ text.toList, c = '-' ∨ isHexDigit c = true) :
    isValid text = true ↔ text.length = 36 ∧ text.toList.count '-' = 4 := by
  have hOther : ∀ c ∈ text.toList, c ≠ ':' ∧ isBrace c = false := by
    intro c hMem
    rcases hPlain c hMem with rfl | hDigit
    · decide
    · exact (toAsciiDigit_of_isHexDigit hDigit).2.2
  rw [isValid_iff]
  refine and_congr_right fun hLength => ?_
  constructor
  · rintro (⟨front, back, hText, -, -⟩ | ⟨left, middle, right, hText, hLeft, hRight, hFour, -⟩)
    · exact absurd rfl (hOther ':' (by simp [hText])).1
    · have hNone (part : List Char) (hPart : ∀ c ∈ part, isBrace c = true)
          (hSubset : part ⊆ text.toList) :
          part = [] := by
        refine List.eq_nil_iff_forall_not_mem.mpr fun c hMem => ?_
        have hBrace := hPart c hMem
        rw [(hOther c (hSubset hMem)).2] at hBrace
        cases hBrace
      obtain rfl := hNone left hLeft (by simp [hText])
      obtain rfl := hNone right hRight (by simp [hText])
      simpa [hText] using hFour
  · intro hFour
    refine Or.inr ⟨[], text.toList, [], by simp, by simp, by simp, by simpa using hFour, ?_⟩
    have hKept := length_filter_add_count '-' text.toList
    rw [String.length_toList] at hKept
    refine isHexNumber_of_all ?_ fun c hMem => ?_
    · intro hNone
      rw [hNone] at hKept
      simp at hKept
      omega
    · obtain ⟨hMem, hHyphen⟩ := List.mem_filter.mp hMem
      exact (hPlain c hMem).resolve_left (by simpa using hHyphen)

/-- The documented form has nothing but hyphens and digits, and four hyphens. -/
theorem HasForm.plain {text : String} (hForm : HasForm text) :
    (∀ c ∈ text.toList, c = '-' ∨ isHexDigit c = true) ∧ text.toList.count '-' = 4 := by
  obtain ⟨hLength, hPlaces⟩ := hForm
  rw [← String.length_toList] at hLength
  constructor
  · intro c hMem
    obtain ⟨place, hPlace⟩ := List.mem_iff_getElem?.mp hMem
    have hChar := hPlaces place c hPlace
    split at hChar
    · exact Or.inl hChar
    · exact Or.inr hChar
  · have hText : text.toList = (List.range 36).map fun place => text.toList[place]?.getD ' ' := by
      refine List.ext_getElem (by simp [hLength]) fun place hFirst _ => ?_
      simp [List.getElem?_eq_getElem hFirst]
    have hHyphen : ∀ place ∈ List.range 36, (text.toList[place]?.getD ' ' == '-') =
        decide (place ∈ hyphenPlaces) := by
      intro place hPlace
      have hInside : place < text.toList.length := by rw [hLength]; exact List.mem_range.mp hPlace
      have hChar := hPlaces place _ (List.getElem?_eq_getElem hInside)
      rw [List.getElem?_eq_getElem hInside, Option.getD_some]
      split at hChar
      · rename_i hMark
        simp [hChar, hMark]
      · rename_i hMark
        simp [(toAsciiDigit_of_isHexDigit hChar).2.1, hMark]
    rw [hText, List.count, List.countP_map, List.countP_congr (fun place hPlace => by
      rw [Function.comp, hHyphen place hPlace])]
    decide

end Plain

/-- Every text of the documented form is accepted, but not only those. Among texts of hyphens and
digits it does not matter where the four hyphens stand. In general the texts are accepted that have
thirty-six characters and come to an integer when a mark is taken out of them, or braces from their
ends and hyphens from anywhere. -/
theorem isValid_exact (text : String) :
    (HasForm text → isValid text = true) ∧
    ((∀ c ∈ text.toList, c = '-' ∨ isHexDigit c = true) →
      (isValid text = true ↔ text.length = 36 ∧ text.toList.count '-' = 4)) ∧
    (isValid text = true ↔ text.length = 36 ∧ (IsMarked text.toList ∨ IsGrouped text.toList)) := by
  refine ⟨fun hForm => ?_, isValid_iff_of_plain, isValid_iff text⟩
  rw [isValid_iff_of_plain hForm.plain.1]
  exact ⟨hForm.1, hForm.plain.2⟩

/-- All four hyphens stand in front of the digits. -/
theorem isValid_exact_hyphens_in_front :
    let text := "----0123456789abcdef0123456789ABCDEF"
    let form := "01234567-89ab-cdef-0123-456789ABCDEF"
    isValid text = true ∧ ¬ HasForm text ∧ HasForm form ∧ isValid form = true := by
  intro text form
  have hPlain : ∀ c ∈ text.toList, c = '-' ∨ isHexDigit c = true :=
    Text.forall_mem_of_all (by decide)
  have hValid := ((isValid_exact text).2.1 hPlain).mpr (by decide)
  have hForm : HasForm form := by
    have hPlaces : ∀ place < 36, (form.toList[place]?.all fun c =>
        decide (if place ∈ hyphenPlaces then c = '-' else isHexDigit c = true)) = true := by decide
    refine ⟨by decide, fun place c hPlace => ?_⟩
    refine of_decide_eq_true (Option.all_eq_true _ _ |>.mp (hPlaces place ?_) c hPlace)
    obtain ⟨hInside, -⟩ := List.getElem?_eq_some_iff.mp hPlace
    have hLength : form.toList.length = 36 := by decide
    omega
  refine ⟨hValid, fun hWrong => ?_, hForm, (isValid_exact form).1 hForm⟩
  exact absurd (hWrong.2 0 '-' (by decide)) (by decide)

end DeviceRegistry.Identifier
