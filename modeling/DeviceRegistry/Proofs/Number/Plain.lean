import DeviceRegistry.Proofs.Metadata.Number

/-! Numbers read from texts in which nothing is lenient: no white space, no underscore, and no digit
of another script. Digits alone denote their value, and digits before a hyphen denote no number. -/
namespace DeviceRegistry.Number

open Text

/-- Reading leniently takes the character as it is. -/
structure IsPlain (c : Char) : Prop where
  ascii : c.toNat < 0x80
  notBlank : isBlank c = false
  notConverted : toAsciiDigit c = c
  notSeparator : c ≠ '_'

theorem toNat_lt_of_isDigit {c : Char} (hDigit : c.isDigit = true) : c.toNat < 58 := by
  rw [Char.isDigit, Bool.and_eq_true, decide_eq_true_eq, decide_eq_true_eq] at hDigit
  exact Nat.lt_succ_of_le (UInt32.le_iff_toNat_le.mp hDigit.2)

theorem isPlain_of_isDigit {c : Char} (hDigit : c.isDigit = true) : IsPlain c := by
  have hAll : ∀ code < 58, (Char.ofNat code).isDigit = true → isBlank (Char.ofNat code) = false ∧
      toAsciiDigit (Char.ofNat code) = Char.ofNat code ∧ Char.ofNat code ≠ '_' := by decide
  have hSmall := toNat_lt_of_isDigit hDigit
  have hCode := hAll c.toNat hSmall
  rw [Char.ofNat_toNat] at hCode
  obtain ⟨hBlank, hConverted, hSeparator⟩ := hCode hDigit
  exact ⟨hSmall.trans (by decide), hBlank, hConverted, hSeparator⟩

section Texts

variable {text digits rest : List Char}

/-- Nothing is trimmed off plain characters, and none of them is converted. -/
theorem map_trimmed (hPlain : ∀ c ∈ text, IsPlain c) : (trimmed text).map toAsciiDigit = text := by
  have hKept (part : List Char) (hPart : ∀ c ∈ part, IsPlain c) :
      part.dropWhile isBlank = part := by
    cases part with
    | nil => rfl
    | cons c part => simp [(hPart c List.mem_cons_self).notBlank]
  rw [trimmed, hKept text hPlain, hKept text.reverse (by simpa using hPlain), List.reverse_reverse]
  calc
    text.map toAsciiDigit = text.map id :=
      List.map_congr_left fun c hMem => (hPlain c hMem).notConverted
    _ = text := List.map_id text

/-- Plain characters are read leniently as they are. -/
theorem withoutSeparators?_plain (isDigit : Char → Bool)
    (hPlain : ∀ c ∈ text, IsPlain c) {before : Char} (hBefore : before ≠ '_') :
    withoutSeparators? isDigit before text = some text := by
  induction text generalizing before with
  | nil => rw [withoutSeparators?, if_neg hBefore]
  | cons c text ih =>
      rw [List.forall_mem_cons] at hPlain
      have hNot := hPlain.1.notSeparator
      rw [withoutSeparators?, if_neg hNot, if_neg fun hBoth => hBefore hBoth.1, ih hPlain.2 hNot]
      rfl

theorem signAndRest_digits (hSome : digits ≠ []) (hDigits : ∀ c ∈ digits, c.isDigit = true)
    (rest : List Char) :
    signAndRest (digits ++ rest) = (false, digits ++ rest) := by
  cases digits with
  | nil => exact absurd rfl hSome
  | cons c digits =>
      have hDigit := hDigits c List.mem_cons_self
      have hMinus : c ≠ '-' := by
        rintro rfl
        cases hDigit
      have hPlus : c ≠ '+' := by
        rintro rfl
        cases hDigit
      simp [signAndRest, hMinus, hPlus]

/-- Digits denote their value. -/
theorem integer?_digits (hSome : digits ≠ []) (hDigits : ∀ c ∈ digits, c.isDigit = true) :
    integer? digits = some (digitsValue digits : Int) := by
  have hPlain : ∀ c ∈ digits, IsPlain c := fun c hMem => isPlain_of_isDigit (hDigits c hMem)
  have hSign := signAndRest_digits hSome hDigits []
  rw [List.append_nil] at hSign
  rw [integer?, map_trimmed hPlain, hSign]
  dsimp only
  rw [withoutSeparators?_plain _ hPlain (by decide)]
  dsimp only
  rw [if_pos ⟨hSome, List.all_eq_true.mpr hDigits⟩]
  rfl

/-- A digit starts none of the names of values. -/
theorem folded_digits_ne (hSome : digits ≠ []) (hDigits : ∀ c ∈ digits, c.isDigit = true)
    {name : List Char} (hName : name.head?.any Char.isDigit = false) (rest : List Char) :
    folded (digits ++ rest) ≠ name := by
  rintro rfl
  cases digits with
  | nil => exact absurd rfl hSome
  | cons c digits =>
      have hDigit := hDigits c List.mem_cons_self
      have hAll : ∀ code < 58, (Char.ofNat code).toLower = Char.ofNat code := by decide
      have hSame := hAll c.toNat (toNat_lt_of_isDigit hDigit)
      rw [Char.ofNat_toNat] at hSame
      have hHead : c.toLower.isDigit = false := hName
      rw [hSame, hDigit] at hHead
      cases hHead

/-- A hyphen after digits continues no number. -/
theorem readLeniently?_hyphen (hSome : digits ≠ []) (hDigits : ∀ c ∈ digits, c.isDigit = true)
    (hRest : ∀ c ∈ rest, IsPlain c) : readLeniently? (digits ++ '-' :: rest) = none := by
  have hHyphen : IsPlain '-' := ⟨by decide, by decide, by decide, by decide⟩
  have hPlain : ∀ c ∈ digits ++ '-' :: rest, IsPlain c := by
    rw [List.forall_mem_append, List.forall_mem_cons]
    exact ⟨fun c hMem => isPlain_of_isDigit (hDigits c hMem), hHyphen, hRest⟩
  have hSpan : (digits ++ '-' :: rest).span Char.isDigit = (digits, '-' :: rest) :=
    Metadata.span_digits hDigits fun c hHead => by
      obtain rfl : '-' = c := Option.some.inj hHead
      decide
  have hNoExponent : exponent? ('-' :: rest) = none := by
    rw [exponent?]
    exact if_neg fun hMark => absurd hMark.1 (by decide)
  have hUnsigned : unsigned? false (digits ++ '-' :: rest) = none := by
    rw [unsigned?, hSpan]
    dsimp only
    rw [if_neg fun hNone => hSome hNone.1]
    change (exponent? ('-' :: rest)).map _ = none
    rw [hNoExponent, Option.map_none]
  have hNamed (name : List Char) (hName : name.head?.any Char.isDigit = false) :
      folded (digits ++ '-' :: rest) ≠ name := folded_digits_ne hSome hDigits hName _
  rw [readLeniently?, map_trimmed hPlain, withoutSeparators?_plain _ hPlain (by decide)]
  rw [Option.bind_some, read?, signAndRest_digits hSome hDigits]
  dsimp only
  rw [if_neg (not_or.mpr ⟨hNamed _ (by decide), hNamed _ (by decide)⟩),
    if_neg (hNamed _ (by decide))]
  exact hUnsigned

end Texts

end DeviceRegistry.Number
