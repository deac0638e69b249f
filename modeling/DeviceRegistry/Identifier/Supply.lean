import DeviceRegistry.Identifier

/-! Identifiers that are generated. A supply of them is any sequence of valid identifiers. One
supply counts: its identifiers consist of hyphens and of the digits that numbers in base sixteen are
written with, and none of these is a mark, a brace, a blank or a separator. -/
namespace DeviceRegistry

namespace Text

def hexAlphabet : List Char := "0123456789abcdef".toList

/-- What is found to hold of all characters of a text holds of each of them. -/
theorem forall_mem_of_all {holds : Char → Prop} [DecidablePred holds] {text : List Char}
    (hAll : (text.all fun c => decide (holds c)) = true) : ∀ c ∈ text, holds c := by
  simpa using hAll

theorem mem_hexAlphabet_of_mem_toDigits {c : Char} {n : Nat} (hMem : c ∈ Nat.toDigits 16 n) :
    c ∈ hexAlphabet := by
  have hDigit : ∀ d < 16, d.digitChar ∈ hexAlphabet := by decide
  induction n using Nat.strongRecOn with
  | ind n ih =>
      rw [Nat.toDigits_eq_if (by omega)] at hMem
      split at hMem
      · rename_i hSmall
        rw [List.mem_singleton.mp hMem]
        exact hDigit n hSmall
      · rcases List.mem_append.mp hMem with hFront | hLast
        · exact ih (n / 16) (by omega) hFront
        · rw [List.mem_singleton.mp hLast]
          exact hDigit (n % 16) (by omega)

theorem mem_hexAlphabet_of_mem_hexDigits {c : Char} {width n : Nat} (hMem : c ∈ hexDigits width n) :
    c ∈ hexAlphabet := by
  rcases List.mem_append.mp hMem with hZero | hDigit
  · rw [List.eq_of_mem_replicate hZero]
    decide
  · exact mem_hexAlphabet_of_mem_toDigits hDigit

/-- Digits that fit a width are padded to it exactly. -/
theorem length_hexDigits {width n : Nat} (hWidth : 0 < width) (hFits : n < Nat.pow 16 width) :
    (hexDigits width n).length = width := by
  have hLength : (Nat.toDigits 16 n).length ≤ width :=
    (Nat.length_toDigits_le_iff (by omega) hWidth).mpr hFits
  simp only [hexDigits, List.length_append, List.length_replicate]
  omega

end Text

namespace Identifier

open Text

theorem removingFrom_eq_self {first : Char} {pattern text : List Char} (hAbsent : first ∉ text) :
    removing (first :: pattern) text = text := by
  induction text with
  | nil => rfl
  | cons c rest ih =>
      rw [List.mem_cons, not_or] at hAbsent
      obtain ⟨hFirst, hRest⟩ := hAbsent
      have hTail : removingFrom (first :: pattern) 0 rest = rest := ih hRest
      simp [removing, removingFrom, hFirst, hTail]

/-- Only braces are taken away at the ends. -/
theorem withoutBraces_eq_self {text : List Char} (hPlain : ∀ c ∈ text, isBrace c = false) :
    withoutBraces text = text := by
  have hDrop (part : List Char) (hPart : ∀ c ∈ part, isBrace c = false) :
      part.dropWhile isBrace = part := by
    cases part with
    | nil => rfl
    | cons c rest => simp [hPart c List.mem_cons_self]
  rw [withoutBraces, hDrop text hPlain, hDrop text.reverse (by simpa using hPlain),
    List.reverse_reverse]

/-- Digits and hyphens hold no marks, so that only the hyphens are taken away. -/
theorem core_eq_filter {text : List Char} (hText : ∀ c ∈ text, c = '-' ∨ c ∈ hexAlphabet) :
    core text = text.filter (· != '-') := by
  have hMark : 'u' ∉ text := fun hMem => absurd (hText 'u' hMem) (by decide)
  have hBrace : ∀ c ∈ text, isBrace c = false := by
    intro c hMem
    have hAll : ∀ c ∈ '-' :: hexAlphabet, isBrace c = false := forall_mem_of_all (by decide)
    exact hAll c (List.mem_cons.mpr (hText c hMem))
  have hUrn : removing "urn:".toList text = text := removingFrom_eq_self hMark
  have hUuid : removing "uuid:".toList text = text := removingFrom_eq_self hMark
  rw [core, hUrn, hUuid, withoutBraces_eq_self hBrace]

end Identifier

namespace Number

open Text

theorem withoutSeparators?_eq_some {text : List Char} (hText : ∀ c ∈ text, c ∈ hexAlphabet)
    {before : Char} (hBefore : before ≠ '_') :
    withoutSeparators? isHexDigit before text = some text := by
  have hPlain : ∀ c ∈ hexAlphabet, c ≠ '_' := forall_mem_of_all (by decide)
  induction text generalizing before with
  | nil => simp [withoutSeparators?, hBefore]
  | cons c rest ih =>
      have hChar := hPlain c (hText c List.mem_cons_self)
      have hRest := ih (fun d hMem => hText d (List.mem_cons_of_mem _ hMem)) hChar
      simp [withoutSeparators?, hBefore, hChar, hRest]

/-- A run of digits in base sixteen is an integer of that base, without any use of
what is lenient. -/
theorem isHexInteger_of_hexAlphabet {text : List Char} (hNonempty : text ≠ [])
    (hText : ∀ c ∈ text, c ∈ hexAlphabet) : isHexInteger text = true := by
  have hBlank : ∀ c ∈ hexAlphabet, isBlank c = false := forall_mem_of_all (by decide)
  have hAscii : ∀ c ∈ hexAlphabet, toAsciiDigit c = c := forall_mem_of_all (by decide)
  have hDigit : ∀ c ∈ hexAlphabet, isHexDigit c = true := forall_mem_of_all (by decide)
  have hTrimmed : trimmed text = text := by
    have hDrop (part : List Char) (hPart : ∀ c ∈ part, c ∈ hexAlphabet) :
        part.dropWhile isBlank = part := by
      cases part with
      | nil => rfl
      | cons c rest => simp [hBlank c (hPart c List.mem_cons_self)]
    rw [trimmed, hDrop text hText, hDrop text.reverse (by simpa using hText), List.reverse_reverse]
  have hMapped : text.map toAsciiDigit = text :=
    (List.map_congr_left fun c hMem => hAscii c (hText c hMem)).trans (List.map_id text)
  have hSign : signAndRest text = (false, text) := by
    cases text with
    | nil => rfl
    | cons c rest =>
        have hMark : ∀ c ∈ hexAlphabet, c ≠ '-' ∧ c ≠ '+' := forall_mem_of_all (by decide)
        obtain ⟨hMinus, hPlus⟩ := hMark c (hText c List.mem_cons_self)
        simp [signAndRest, hMinus, hPlus]
  have hBase : ∀ c ∈ hexAlphabet, ¬ (c = 'x' ∨ c = 'X') := forall_mem_of_all (by decide)
  have hDigits : withoutSeparators? isHexDigit ' ' text = some text :=
    withoutSeparators?_eq_some hText (by decide)
  have hAll : text.all isHexDigit = true :=
    List.all_eq_true.mpr fun c hMem => hDigit c (hText c hMem)
  rw [isHexInteger, hTrimmed, hMapped, hSign]
  dsimp only
  split
  · rename_i mark rest
    have hMark : ¬ (mark = 'x' ∨ mark = 'X') := hBase mark (hText mark (by simp))
    simp [hMark, hDigits, hAll]
  · simp [hDigits, hAll, hNonempty]

end Number

namespace Identifier

open Text

/-- The identifier of a number. Its first and its last group hold as many of the last digits of the
number as they have room for, so that it always has the form of an identifier. -/
def numbered (n : Nat) : String :=
  String.ofList (hexDigits 8 (n % 0x100000000) ++ "-0000-4000-8000-".toList ++
    hexDigits 12 (n % 0x1000000000000))

/-- Every number has a valid identifier. -/
theorem isValid_numbered (n : Nat) : isValid (numbered n) = true := by
  have hFirst : (hexDigits 8 (n % 0x100000000)).length = 8 :=
    length_hexDigits (by omega) (Nat.mod_lt _ (by decide))
  have hLast : (hexDigits 12 (n % 0x1000000000000)).length = 12 :=
    length_hexDigits (by omega) (Nat.mod_lt _ (by decide))
  have hKept (width m : Nat) : (hexDigits width m).filter (· != '-') = hexDigits width m := by
    have hPlain : ∀ c ∈ hexAlphabet, (c != '-') = true := forall_mem_of_all (by decide)
    exact List.filter_eq_self.mpr fun c hMem => hPlain c (mem_hexAlphabet_of_mem_hexDigits hMem)
  have hMiddle : ∀ c ∈ "-0000-4000-8000-".toList, c = '-' ∨ c ∈ hexAlphabet :=
    forall_mem_of_all (by decide)
  have hText : ∀ c ∈ (numbered n).toList, c = '-' ∨ c ∈ hexAlphabet := by
    intro c hMem
    rw [numbered, String.toList_ofList, List.mem_append, List.mem_append] at hMem
    rcases hMem with (hDigit | hMark) | hDigit
    · exact Or.inr (mem_hexAlphabet_of_mem_hexDigits hDigit)
    · exact hMiddle c hMark
    · exact Or.inr (mem_hexAlphabet_of_mem_hexDigits hDigit)
  have hCore : core (numbered n).toList =
      hexDigits 8 (n % 0x100000000) ++ "000040008000".toList ++ hexDigits 12
        (n % 0x1000000000000) := by
    rw [core_eq_filter hText, numbered, String.toList_ofList, List.filter_append,
      List.filter_append, hKept, hKept]
    rfl
  have hLength : (core (numbered n).toList).length = 32 := by
    rw [hCore, List.length_append, List.length_append, hFirst, hLast]
    rfl
  have hDigits : ∀ c ∈ core (numbered n).toList, c ∈ hexAlphabet := by
    intro c hMem
    rw [core_eq_filter hText, List.mem_filter] at hMem
    rcases hText c hMem.1 with hHyphen | hDigit
    · simp [hHyphen] at hMem
    · exact hDigit
  have hInteger : Number.isHexInteger (core (numbered n).toList) = true :=
    Number.isHexInteger_of_hexAlphabet (by intro hNil; simp [hNil] at hLength) hDigits
  have hWidth : (numbered n).length = 36 := by
    rw [numbered, String.length_ofList, List.length_append, List.length_append, hFirst, hLast]
    rfl
  simp [isValid, hWidth, hLength, hInteger]

/-- Every form that is accepted has thirty-six characters. -/
theorem length_of_isValid {text : String} (hValid : isValid text = true) : text.length = 36 := by
  rw [isValid, Bool.and_eq_true, Bool.and_eq_true, decide_eq_true_eq] at hValid
  exact hValid.1.1

/-- Identifiers that are drawn one after the other. All of them are valid. -/
structure Supply where
  drawn : Nat → String
  isValid_drawn : ∀ n, isValid (drawn n) = true

namespace Supply

def counting : Supply := ⟨fun n => numbered (n + 1), fun n => isValid_numbered (n + 1)⟩

def rest (supply : Supply) : Supply :=
  ⟨fun n => supply.drawn (n + 1), fun n => supply.isValid_drawn (n + 1)⟩

/-- The text as it was given, or the next identifier in place of an empty one. -/
def orDrawn (supply : Supply) (text : String) : String × Supply :=
  if text = "" then (supply.drawn 0, supply.rest) else (text, supply)

/-- What is given or drawn in its place is valid if what is given is valid where it is not empty. -/
theorem isValid_orDrawn (supply : Supply) {text : String}
    (hGiven : text = "" ∨ isValid text = true) :
    isValid (supply.orDrawn text).1 = true := by
  unfold orDrawn
  split
  · exact supply.isValid_drawn 0
  · rename_i hNonempty
    exact hGiven.resolve_left hNonempty

end Supply

end Identifier

end DeviceRegistry
