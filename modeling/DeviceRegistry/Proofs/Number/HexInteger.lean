import DeviceRegistry.Number.Reading
import Mathlib.Data.List.DropRight
import Mathlib.Tactic.Common

/-! Integers in base sixteen, as they may be written. Between white space at the ends there may be a
sign, a mark of the base, and then digits, of which two may have an underscore between them. Decimal
digits may be of any script. -/
namespace DeviceRegistry

section Ends

variable {α : Type} {p : α → Bool}

/-- A list is what is left between its ends, with the ends around it. -/
theorem exists_ends (p : α → Bool) (items : List α) :
    ∃ front back, items = front ++ (items.dropWhile p).rdropWhile p ++ back ∧
      (∀ x ∈ front, p x = true) ∧ ∀ x ∈ back, p x = true := by
  refine ⟨items.takeWhile p, (items.dropWhile p).rtakeWhile p, ?_, ?_, ?_⟩
  · rw [List.append_assoc, List.rdropWhile_append_rtakeWhile, List.takeWhile_append_dropWhile]
  · exact fun _ => List.mem_takeWhile_imp
  · exact fun _ => List.mem_rtakeWhile_imp

/-- The ends are taken away as far as they go. -/
theorem dropEnds_eq {front middle back : List α} (hFront : ∀ x ∈ front, p x = true)
    (hBack : ∀ x ∈ back, p x = true) (hSome : middle ≠ []) (hMiddle : ∀ x ∈ middle, p x = false) :
    ((front ++ middle ++ back).dropWhile p).rdropWhile p = middle := by
  have hKeep (part rest : List α) (hPart : part ≠ []) (hNone : ∀ x ∈ part, p x = false) :
      (part ++ rest).dropWhile p = part ++ rest := by
    cases part with
    | nil => exact absurd rfl hPart
    | cons x part => simp [hNone x List.mem_cons_self]
  have hReversed := hKeep middle.reverse [] (by simpa using hSome) (by simpa using hMiddle)
  rw [List.append_nil] at hReversed
  rw [List.append_assoc, List.dropWhile_append_of_pos hFront, hKeep middle back hSome hMiddle,
    List.rdropWhile,
    List.reverse_append, List.dropWhile_append_of_pos (by simpa using hBack), hReversed,
    List.reverse_reverse]

end Ends

namespace Text

/-- The code points of ranges, one after the other. -/
theorem Ranges.covers_iff (ranges : Ranges) (code : Nat) :
    ranges.covers code = true ↔
    code ∈ ranges.flatMap fun range => List.range' range.1 (range.2 + 1 - range.1) := by
  simp only [covers, List.any_eq_true, Bool.and_eq_true, decide_eq_true_eq, List.mem_flatMap,
    List.mem_range'_1]
  refine exists_congr fun range => and_congr_right fun _ => ?_
  omega

end Text

namespace Number

open Text

/-- Digits in base sixteen, of which two may have one underscore between them. -/
inductive HexDigits : List Char → Prop where
  | one {d : Char} (hDigit : isHexDigit d = true) : HexDigits [d]
  | next {d : Char} {rest : List Char} (hDigit : isHexDigit d = true) (hRest : HexDigits rest) :
      HexDigits (d :: rest)
  | separated {d : Char} {rest : List Char} (hDigit : isHexDigit d = true)
      (hRest : HexDigits rest) :
      HexDigits (d :: '_' :: rest)

def signs : List (List Char) := [[], ['+'], ['-']]

def baseMarks : List (List Char) := [[], ['0', 'x'], ['0', 'X'], ['0', 'x', '_'], ['0', 'X', '_']]

def IsSignedHex (text : List Char) : Prop :=
  ∃ sign ∈ signs, ∃ mark ∈ baseMarks, ∃ digits, text = sign ++ (mark ++ digits) ∧ HexDigits digits

/-- An integer in base sixteen with white space around it, whose decimal digits may be of
any script. -/
def IsHexNumber (text : List Char) : Prop :=
  ∃ front middle back, text = front ++ middle ++ back ∧ (∀ c ∈ front, isBlank c = true) ∧
    (∀ c ∈ back, isBlank c = true) ∧ IsSignedHex (middle.map toAsciiDigit)

theorem HexDigits.isHexDigit_head {d : Char} {rest : List Char} (hDigits : HexDigits (d :: rest)) :
    isHexDigit d = true := by
  cases hDigits <;> assumption

theorem not_hexDigits_mark (rest : List Char) : ¬ HexDigits ('_' :: rest) :=
  fun hDigits => absurd hDigits.isHexDigit_head (by decide)

/-- After a digit comes another one, with or without one underscore between them. -/
theorem hexDigits_cons_cons_iff {d c : Char} {rest : List Char} :
    HexDigits (d :: c :: rest) ↔
      isHexDigit d = true ∧ if c = '_' then HexDigits rest else HexDigits (c :: rest) := by
  split
  · rename_i hSame
    subst hSame
    constructor
    · intro hDigits
      cases hDigits with
      | next _ hRest => exact absurd hRest (not_hexDigits_mark rest)
      | separated hDigit hRest => exact ⟨hDigit, hRest⟩
    · exact fun hBoth => .separated hBoth.1 hBoth.2
  · rename_i hOther
    constructor
    · intro hDigits
      cases hDigits with
      | next hDigit hRest => exact ⟨hDigit, hRest⟩
      | separated => exact absurd rfl hOther
    · exact fun hBoth => .next hBoth.1 hBoth.2

theorem hexDigits_of_all {text : List Char} (hSome : text ≠ [])
    (hAll : ∀ c ∈ text, isHexDigit c = true) :
    HexDigits text := by
  induction text with
  | nil => exact absurd rfl hSome
  | cons d rest ih =>
      rw [List.forall_mem_cons] at hAll
      cases rest with
      | nil => exact .one hAll.1
      | cons c rest => exact .next hAll.1 (ih (by simp) hAll.2)

section Separators

def SeparatesDigits (before : Char) (text : List Char) : Prop :=
  ∃ digits, withoutSeparators? isHexDigit before text = some digits ∧ digits.all isHexDigit = true

theorem separatesDigits_cons_iff {before c : Char} {rest : List Char} :
    SeparatesDigits before (c :: rest) ↔
      if c = '_' then isHexDigit before = true ∧ SeparatesDigits '_' rest
      else isHexDigit c = true ∧ SeparatesDigits c rest := by
  rw [SeparatesDigits, withoutSeparators?]
  split
  · rename_i hMark
    subst hMark
    by_cases hBefore : isHexDigit before = true
    · simp [hBefore, SeparatesDigits]
    · simp [hBefore]
  · by_cases hDigit : isHexDigit c = true
    · simp [hDigit, SeparatesDigits]
    · simp [hDigit]

/-- After a separator digits have to follow, and after a digit they may go on. -/
theorem separatesDigits_iff (text : List Char) :
    (SeparatesDigits '_' text ↔ HexDigits text) ∧
      ∀ d, isHexDigit d = true → (SeparatesDigits d text ↔ HexDigits (d :: text)) := by
  have hMark : isHexDigit '_' = false := by decide
  induction text with
  | nil =>
      constructor
      · exact iff_of_false (by simp [SeparatesDigits, withoutSeparators?]) nofun
      · intro d hDigit
        have hOther : d ≠ '_' := fun hSame => by simp [hSame, hMark] at hDigit
        exact iff_of_true (by simp [SeparatesDigits, withoutSeparators?, hOther]) (.one hDigit)
  | cons c rest ih =>
      have hNext : isHexDigit c = true ∧ SeparatesDigits c rest ↔ HexDigits (c :: rest) :=
        ⟨fun hBoth => (ih.2 c hBoth.1).mp hBoth.2,
          fun hDigits => ⟨hDigits.isHexDigit_head, (ih.2 c hDigits.isHexDigit_head).mpr hDigits⟩⟩
      constructor
      · rw [separatesDigits_cons_iff]
        split
        · rename_i hSame
          subst hSame
          exact iff_of_false (by simp [hMark]) (not_hexDigits_mark rest)
        · exact hNext
      · intro d hDigit
        rw [separatesDigits_cons_iff, hexDigits_cons_cons_iff, ih.1, hNext]
        split <;> simp [hDigit]

/-- Without separators there are digits exactly if the text has the form of digits. -/
theorem separatesDigits_start_iff (text : List Char) (hSome : text ≠ []) :
    SeparatesDigits ' ' text ↔ HexDigits text := by
  rw [← (separatesDigits_iff text).1]
  cases text with
  | nil => exact absurd rfl hSome
  | cons c rest =>
      have hNone : isHexDigit ' ' = false ∧ isHexDigit '_' = false := by decide
      simp [separatesDigits_cons_iff, hNone]

end Separators

section Reading

def withoutBaseMark (text : List Char) : List Char :=
  match text with
  | '0' :: mark :: rest =>
    if mark = 'x' ∨ mark = 'X' then
      match rest with
      | '_' :: others => others
      | _ => rest
    else text
  | _ => text

theorem exists_baseMark (text : List Char) :
    ∃ mark ∈ baseMarks, text = mark ++ withoutBaseMark text := by
  unfold withoutBaseMark
  split
  · split
    · rename_i mark rest hMark
      split
      · rcases hMark with rfl | rfl
        · exact ⟨['0', 'x', '_'], by simp [baseMarks], rfl⟩
        · exact ⟨['0', 'X', '_'], by simp [baseMarks], rfl⟩
      · rcases hMark with rfl | rfl
        · exact ⟨['0', 'x'], by simp [baseMarks], rfl⟩
        · exact ⟨['0', 'X'], by simp [baseMarks], rfl⟩
    · exact ⟨[], by simp [baseMarks], rfl⟩
  · exact ⟨[], by simp [baseMarks], rfl⟩

theorem withoutBaseMark_append {mark digits : List Char} (hMark : mark ∈ baseMarks)
    (hDigits : HexDigits digits) :
    withoutBaseMark (mark ++ digits) = digits := by
  have hNone : withoutBaseMark digits = digits := by
    unfold withoutBaseMark
    split
    · rw [if_neg]
      rintro (rfl | rfl)
      all_goals
        have hRest := (hexDigits_cons_cons_iff.mp hDigits).2
        exact absurd hRest.isHexDigit_head (by decide)
    · rfl
  have hMarked (x : Char) (hBase : x = 'x' ∨ x = 'X') : withoutBaseMark
      ('0' :: x :: digits) = digits := by
    simp only [withoutBaseMark, hBase, if_true]
    split
    · exact absurd hDigits (not_hexDigits_mark _)
    · rfl
  have hSeparated (x : Char) (hBase : x = 'x' ∨ x = 'X') : withoutBaseMark
      ('0' :: x :: '_' :: digits) = digits := by
    simp only [withoutBaseMark, hBase, if_true]
  simp only [baseMarks, List.mem_cons, List.not_mem_nil, or_false] at hMark
  rcases hMark with rfl | rfl | rfl | rfl | rfl
  · exact hNone
  · exact hMarked 'x' (by decide)
  · exact hMarked 'X' (by decide)
  · exact hSeparated 'x' (by decide)
  · exact hSeparated 'X' (by decide)

theorem exists_sign (text : List Char) : ∃ sign ∈ signs, text = sign ++ (signAndRest text).2 := by
  unfold signAndRest
  split
  · exact ⟨['-'], by simp [signs], rfl⟩
  · exact ⟨['+'], by simp [signs], rfl⟩
  · exact ⟨[], by simp [signs], rfl⟩

/-- A sign in front is taken away and nothing else. -/
theorem signAndRest_append {sign mark digits : List Char} (hSign : sign ∈ signs)
    (hMark : mark ∈ baseMarks) (hDigits : HexDigits digits) :
    (signAndRest (sign ++ (mark ++ digits))).2 = mark ++ digits := by
  have hUnsigned : (signAndRest (mark ++ digits)).2 = mark ++ digits := by
    have hNone : '-' ∉ (mark ++ digits).head? ∧ '+' ∉ (mark ++ digits).head? := by
      simp only [baseMarks, List.mem_cons, List.not_mem_nil, or_false] at hMark
      rcases hMark with rfl | rfl | rfl | rfl | rfl
      · cases digits with
        | nil => simp
        | cons d rest =>
            have hDigit := hDigits.isHexDigit_head
            constructor
            all_goals
              rintro hSame
              cases hSame
              exact absurd hDigit (by decide)
      all_goals simp
    unfold signAndRest
    split
    · rename_i hText
      simp [hText] at hNone
    · rename_i hText
      simp [hText] at hNone
    · rfl
  simp only [signs, List.mem_cons, List.not_mem_nil, or_false] at hSign
  rcases hSign with rfl | rfl | rfl
  · exact hUnsigned
  · rfl
  · rfl

theorem isHexInteger_eq (text : List Char) :
    isHexInteger text =
      (withoutSeparators? isHexDigit ' '
        (withoutBaseMark (signAndRest ((trimmed text).map toAsciiDigit)).2)).elim
        false fun digits => digits ≠ [] && digits.all isHexDigit := rfl

/-- Reading in base sixteen accepts the form that is described. -/
theorem isHexInteger_iff_hexDigits (text : List Char) :
    isHexInteger text = true ↔
      HexDigits (withoutBaseMark (signAndRest ((trimmed text).map toAsciiDigit)).2) := by
  rw [isHexInteger_eq]
  generalize withoutBaseMark (signAndRest ((trimmed text).map toAsciiDigit)).2 = rest
  cases rest with
  | nil => exact iff_of_false (by simp [withoutSeparators?]) nofun
  | cons c rest =>
      rw [← separatesDigits_start_iff _ (by simp), SeparatesDigits]
      have hSome : withoutSeparators? isHexDigit ' ' (c :: rest) ≠ some [] := by
        have hNone : isHexDigit ' ' = false := by decide
        rw [withoutSeparators?]
        split <;> simp [hNone]
      cases hDigits : withoutSeparators? isHexDigit ' ' (c :: rest) with
      | none => simp
      | some digits =>
          have hNonempty : digits ≠ [] := fun hEmpty => hSome (hEmpty ▸ hDigits)
          simp [hNonempty]

theorem isSignedHex_iff_hexDigits (text : List Char) :
    IsSignedHex text ↔ HexDigits (withoutBaseMark (signAndRest text).2) := by
  constructor
  · rintro ⟨sign, hSign, mark, hMark, digits, rfl, hDigits⟩
    rwa [signAndRest_append hSign hMark hDigits, withoutBaseMark_append hMark hDigits]
  · intro hDigits
    obtain ⟨sign, hSign, hText⟩ := exists_sign text
    obtain ⟨mark, hMark, hRest⟩ := exists_baseMark (signAndRest text).2
    exact ⟨sign, hSign, mark, hMark, _, by rw [← hRest, ← hText], hDigits⟩

end Reading

section Characters

variable {text : List Char}

def hexMarks : List Char := ['+', '-', 'x', 'X', '_']

theorem HexDigits.mem (hDigits : HexDigits text) :
    ∀ c ∈ text, c ∈ hexMarks ∨ isHexDigit c = true := by
  have hMark : '_' ∈ hexMarks := by decide
  induction hDigits with
  | one hDigit => simpa using Or.inr hDigit
  | next hDigit hRest ih => simpa [hDigit] using ih
  | separated hDigit hRest ih => simpa [hDigit, hMark] using ih

/-- Nothing but digits and the named marks stands in such an integer. -/
theorem IsSignedHex.mem (hSigned : IsSignedHex text) :
    ∀ c ∈ text, c ∈ hexMarks ∨ isHexDigit c = true := by
  obtain ⟨sign, hSign, mark, hMark, digits, rfl, hDigits⟩ := hSigned
  have hZero : isHexDigit '0' = true := rfl
  have hSigns : ∀ sign ∈ signs, ∀ c ∈ sign,
      c ∈ hexMarks ∨ isHexDigit c = true := by simp [signs, hexMarks]
  have hMarks : ∀ mark ∈ baseMarks, ∀ c ∈ mark, c ∈ hexMarks ∨ isHexDigit c = true := by
    simp [baseMarks, hexMarks, hZero]
  intro c hMem
  rcases List.mem_append.mp hMem with hInSign | hMem
  · exact hSigns sign hSign c hInSign
  · rcases List.mem_append.mp hMem with hInMark | hInDigits
    · exact hMarks mark hMark c hInMark
    · exact hDigits.mem c hInDigits

theorem IsSignedHex.ne_nil (hSigned : IsSignedHex text) : text ≠ [] := by
  obtain ⟨sign, hSign, mark, hMark, digits, rfl, hDigits⟩ := hSigned
  cases hDigits <;> simp

/-- White space is no part of an integer. -/
theorem not_mem_of_isBlank {c : Char} (hBlank : isBlank c = true) :
    ¬ (toAsciiDigit c ∈ hexMarks ∨ isHexDigit (toAsciiDigit c) = true) := by
  have hAll : ∀ code ∈ blankRanges.flatMap fun range => List.range' range.1 (range.2 + 1 - range.1),
      ¬ (toAsciiDigit (Char.ofNat code) ∈ hexMarks ∨
        isHexDigit (toAsciiDigit (Char.ofNat code)) = true) := by
    decide
  have hCode := hAll c.toNat ((Ranges.covers_iff _ _).mp hBlank)
  rwa [Char.ofNat_toNat] at hCode

end Characters

/-- Reading accepts exactly the integers in base sixteen. -/
theorem isHexInteger_iff (text : List Char) : isHexInteger text = true ↔ IsHexNumber text := by
  rw [isHexInteger_iff_hexDigits, ← isSignedHex_iff_hexDigits]
  constructor
  · intro hSigned
    obtain ⟨front, back, hText, hFront, hBack⟩ := exists_ends isBlank text
    exact ⟨front, trimmed text, back, hText, hFront, hBack, hSigned⟩
  · rintro ⟨front, middle, back, rfl, hFront, hBack, hSigned⟩
    have hSome : middle ≠ [] := by simpa using hSigned.ne_nil
    have hMiddle : ∀ c ∈ middle, isBlank c = false := by
      intro c hMem
      have hPart := hSigned.mem _ (List.mem_map_of_mem hMem)
      exact Bool.eq_false_iff.mpr fun hBlank => not_mem_of_isBlank hBlank hPart
    have hTrimmed : trimmed (front ++ middle ++ back) = middle :=
      dropEnds_eq hFront hBack hSome hMiddle
    rwa [hTrimmed]

end Number

end DeviceRegistry
