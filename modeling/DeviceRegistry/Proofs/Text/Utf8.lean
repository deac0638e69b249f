import DeviceRegistry.Text.Utf8
import Mathlib.Tactic.Common

/-! Bytes are text exactly if they are the bytes of some text, and then they are read as that text.
A character is told by its bytes whatever follows them, and no other bytes are read as it. -/
namespace DeviceRegistry.Text

def encoded (text : List Char) : List UInt8 := text.flatMap String.utf8EncodeChar

section Characters

variable {c : Char}

theorem continuation?_eq_some_iff {byte : UInt8} {payload : Nat} :
    continuation? byte = some payload ↔ payload < 0x40 ∧ byte = UInt8.ofNat (payload + 0x80) := by
  rw [continuation?]
  have hByte := byte.toNat_lt
  split_ifs with hRange
  · rw [Option.some_inj, ← UInt8.toNat_inj, UInt8.toNat_ofNat']
    omega
  · refine iff_of_false nofun ?_
    rintro ⟨hPayload, rfl⟩
    rw [UInt8.toNat_ofNat'] at hRange
    omega

theorem charFrom?_eq_some_iff {least code : Nat} :
    charFrom? least code = some c ↔ least ≤ code ∧ c.toNat = code := by
  have hNone : none ≠ some c := (Option.some_ne_none c).symm
  rw [charFrom?]
  by_cases hValid : code.isValidChar
  · rw [dif_pos hValid]
    by_cases hLeast : least ≤ code
    · rw [if_pos hLeast, Option.some_inj, ← Char.toNat_inj]
      exact ⟨fun hCode => ⟨hLeast, hCode.symm⟩, fun hBoth => hBoth.2.symm⟩
    · rw [if_neg hLeast]
      exact iff_of_false hNone fun hBoth => hLeast hBoth.1
  · rw [dif_neg hValid]
    refine iff_of_false hNone ?_
    rintro ⟨-, rfl⟩
    exact hValid c.valid

theorem toNat_lt (c : Char) : c.toNat < 0x110000 := by
  rcases c.valid with hLow | hHigh
  · exact Nat.lt_trans hLow (by decide)
  · exact hHigh.2

/-- The bytes of a character by the number of bytes that it takes. -/
theorem utf8EncodeChar_eq (c : Char) :
    String.utf8EncodeChar c =
      if c.toNat < 0x80 then [UInt8.ofNat c.toNat]
      else if c.toNat < 0x800 then [UInt8.ofNat (c.toNat / 0x40 + 0xC0),
        UInt8.ofNat (c.toNat % 0x40 + 0x80)]
      else if c.toNat < 0x10000 then
        [UInt8.ofNat (c.toNat / 0x1000 + 0xE0), UInt8.ofNat (c.toNat / 0x40 % 0x40 + 0x80),
          UInt8.ofNat (c.toNat % 0x40 + 0x80)]
      else
        [UInt8.ofNat (c.toNat / 0x40000 + 0xF0), UInt8.ofNat (c.toNat / 0x1000 % 0x40 + 0x80),
          UInt8.ofNat (c.toNat / 0x40 % 0x40 + 0x80), UInt8.ofNat (c.toNat % 0x40 + 0x80)] := by
  have hRange := toNat_lt c
  have hVal : c.val.toNat = c.toNat := rfl
  simp only [String.utf8EncodeChar, hVal]
  split_ifs <;> try omega
  · rfl
  · have hTop : c.toNat / 64 % 32 = c.toNat / 64 := by omega
    rw [hTop]
  · have hTop : c.toNat / 4096 % 16 = c.toNat / 4096 := by omega
    rw [hTop]
  · have hTop : c.toNat / 262144 % 8 = c.toNat / 262144 := by omega
    rw [hTop]

theorem toNat_ofNat_of_lt {n : Nat} (hSmall : n < 0x100) : (UInt8.ofNat n).toNat = n := by
  rw [UInt8.toNat_ofNat', Nat.mod_eq_of_lt hSmall]

/-- A character is read off its bytes, whatever follows them. -/
theorem firstChar?_utf8EncodeChar (c : Char) (rest : List UInt8) :
    firstChar? (String.utf8EncodeChar c ++ rest) =
      some (c, (String.utf8EncodeChar c).length - 1) := by
  have hRange := toNat_lt c
  have hPayload (n : Nat) : continuation? (UInt8.ofNat (n % 0x40 + 0x80)) = some (n % 0x40) :=
    continuation?_eq_some_iff.mpr ⟨Nat.mod_lt n (by decide), rfl⟩
  have hChar {least code : Nat} (hLeast : least ≤ c.toNat) (hCode : code = c.toNat) :
      charFrom? least code = some c :=
    charFrom?_eq_some_iff.mpr ⟨hCode ▸ hLeast, hCode.symm⟩
  rw [utf8EncodeChar_eq]
  split_ifs with hOne hTwo hThree <;> simp only [List.cons_append, List.nil_append, firstChar?]
  · rw [toNat_ofNat_of_lt (by omega), if_pos hOne, Char.ofNat_toNat]
    rfl
  · rw [toNat_ofNat_of_lt (by omega), if_neg (by omega), if_neg (by omega), if_pos (by omega)]
    simp only [hPayload, Option.bind_eq_bind, Option.bind_some]
    rw [hChar (by omega) (by omega)]
    rfl
  · rw [toNat_ofNat_of_lt (by omega), if_neg (by omega), if_neg (by omega), if_neg (by omega),
      if_pos (by omega)]
    simp only [hPayload, Option.bind_eq_bind, Option.bind_some]
    rw [hChar (by omega) (by omega)]
    rfl
  · rw [toNat_ofNat_of_lt (by omega), if_neg (by omega), if_neg (by omega), if_neg (by omega),
      if_neg (by omega),
      if_pos (by omega)]
    simp only [hPayload, Option.bind_eq_bind, Option.bind_some]
    rw [hChar (by omega) (by omega)]
    rfl

/-- Bytes are read as a character only where they start with the bytes of the character. -/
theorem eq_append_of_firstChar? {bytes : List UInt8} {further : Nat}
    (hFirst : firstChar? bytes = some (c, further)) :
    bytes = String.utf8EncodeChar c ++ bytes.drop (further + 1) := by
  have hByte {byte : UInt8} {n : Nat} (hSame : byte.toNat = n) : byte = UInt8.ofNat n := by
    rw [← hSame, UInt8.ofNat_toNat]
  rw [utf8EncodeChar_eq]
  cases bytes with
  | nil => cases hFirst
  | cons lead rest =>
      have hLead := lead.toNat_lt
      simp only [firstChar?] at hFirst
      split_ifs at hFirst with hOne hNone hTwo hThree hFour
      · cases hFirst
        have hCode : (Char.ofNat lead.toNat).toNat = lead.toNat := by
          rw [Char.ofNat, dif_pos (Or.inl (by omega))]
          rfl
        rw [hCode, if_pos hOne, UInt8.ofNat_toNat]
        rfl
      · cases rest with
        | nil => cases hFirst
        | cons a rest =>
            obtain ⟨x, hA, hRead⟩ := Option.bind_eq_some_iff.mp hFirst
            obtain ⟨_, hChar, hSame⟩ := Option.bind_eq_some_iff.mp hRead
            cases hSame
            obtain ⟨hX, rfl⟩ := continuation?_eq_some_iff.mp hA
            obtain ⟨hLeast, hCode⟩ := charFrom?_eq_some_iff.mp hChar
            rw [if_neg (by omega), if_pos (by omega),
              hByte (show lead.toNat = c.toNat / 0x40 + 0xC0 by omega),
              show x = c.toNat % 0x40 by omega]
            rfl
      · obtain _ | ⟨a, _ | ⟨b, rest⟩⟩ := rest
        · cases hFirst
        · cases hFirst
        · obtain ⟨x, hA, hRead⟩ := Option.bind_eq_some_iff.mp hFirst
          obtain ⟨y, hB, hRead⟩ := Option.bind_eq_some_iff.mp hRead
          obtain ⟨_, hChar, hSame⟩ := Option.bind_eq_some_iff.mp hRead
          cases hSame
          obtain ⟨hX, rfl⟩ := continuation?_eq_some_iff.mp hA
          obtain ⟨hY, rfl⟩ := continuation?_eq_some_iff.mp hB
          obtain ⟨hLeast, hCode⟩ := charFrom?_eq_some_iff.mp hChar
          rw [if_neg (by omega), if_neg (by omega), if_pos (by omega),
            hByte (show lead.toNat = c.toNat / 0x1000 + 0xE0 by omega),
            show x = c.toNat / 0x40 % 0x40 by omega,
            show y = c.toNat % 0x40 by omega]
          rfl
      · obtain _ | ⟨a, _ | ⟨b, _ | ⟨d, rest⟩⟩⟩ := rest
        · cases hFirst
        · cases hFirst
        · cases hFirst
        · obtain ⟨x, hA, hRead⟩ := Option.bind_eq_some_iff.mp hFirst
          obtain ⟨y, hB, hRead⟩ := Option.bind_eq_some_iff.mp hRead
          obtain ⟨z, hD, hRead⟩ := Option.bind_eq_some_iff.mp hRead
          obtain ⟨_, hChar, hSame⟩ := Option.bind_eq_some_iff.mp hRead
          cases hSame
          obtain ⟨hX, rfl⟩ := continuation?_eq_some_iff.mp hA
          obtain ⟨hY, rfl⟩ := continuation?_eq_some_iff.mp hB
          obtain ⟨hZ, rfl⟩ := continuation?_eq_some_iff.mp hD
          obtain ⟨hLeast, hCode⟩ := charFrom?_eq_some_iff.mp hChar
          rw [if_neg (by omega), if_neg (by omega), if_neg (by omega),
            hByte (show lead.toNat = c.toNat / 0x40000 + 0xF0 by omega),
            show x = c.toNat / 0x1000 % 0x40 by omega,
            show y = c.toNat / 0x40 % 0x40 by omega, show z = c.toNat % 0x40 by omega]
          rfl

end Characters

/-- Encoded text is read back character by character. -/
theorem symbolsOfBytes_encoded (text : List Char) :
    symbolsOfBytes (encoded text) = symbols text := by
  induction text with
  | nil => simp [encoded, symbols, symbolsOfBytes]
  | cons c text ih =>
      have hFirst := firstChar?_utf8EncodeChar c (encoded text)
      have hEncoded : encoded (c :: text) = String.utf8EncodeChar c ++ encoded text :=
        List.flatMap_cons
      rw [hEncoded]
      have hSome : 0 < (String.utf8EncodeChar c).length :=
        String.length_utf8EncodeChar c ▸ c.utf8Size_pos
      obtain ⟨lead, others, hBytes⟩ := List.exists_cons_of_length_pos hSome
      rw [hBytes, List.cons_append] at hFirst ⊢
      rw [symbolsOfBytes, hFirst]
      simp only [List.length_cons, Nat.add_sub_cancel, List.drop_left, ih]
      rfl

/-- Bytes that are read as a text are the bytes of that text. -/
theorem eq_encoded_of_symbolsOfBytes {bytes : List UInt8} {text : List Char}
    (hSymbols : symbolsOfBytes bytes = symbols text) : bytes = encoded text := by
  fun_induction symbolsOfBytes bytes generalizing text with
  | case1 =>
      rw [List.map_eq_nil_iff.mp hSymbols.symm]
      rfl
  | case2 byte rest c further hFirst ih =>
      cases text with
      | nil => cases hSymbols
      | cons d text =>
          obtain ⟨hSame, hOthers⟩ := List.cons.inj hSymbols
          cases hSame
          calc
            byte :: rest = String.utf8EncodeChar c ++ rest.drop further :=
              eq_append_of_firstChar? hFirst
            _ = encoded (c :: text) := by rw [ih hOthers, encoded, encoded, List.flatMap_cons]
  | case3 byte rest hFirst ih =>
      cases text with
      | nil => cases hSymbols
      | cons d text => cases (List.cons.inj hSymbols).1

theorem mapM_id_eq_some_iff {symbols : List Symbol} {text : List Char} :
    symbols.mapM id = some text ↔ symbols = text.map some := by
  induction symbols generalizing text with
  | nil => cases text <;> simp
  | cons symbol symbols ih =>
      rw [List.mapM_cons]
      constructor
      · intro hRead
        obtain ⟨c, hSymbol, hRead⟩ := Option.bind_eq_some_iff.mp hRead
        obtain ⟨others, hOthers, hText⟩ := Option.bind_eq_some_iff.mp hRead
        cases hText
        rw [ih.mp hOthers, show symbol = some c from hSymbol, List.map_cons]
      · intro hSymbols
        cases text with
        | nil => cases hSymbols
        | cons c text =>
            obtain ⟨rfl, hOthers⟩ := List.cons.inj hSymbols
            rw [ih.mpr hOthers]
            rfl

/-- Bytes that are text throughout are the bytes of one text, and bytes of a text are read as
that text. -/
theorem decode?_eq_some_iff {bytes : List UInt8} {text : List Char} :
    decode? bytes = some text ↔ bytes = encoded text := by
  rw [decode?, mapM_id_eq_some_iff]
  exact ⟨eq_encoded_of_symbolsOfBytes, fun hBytes => hBytes ▸ symbolsOfBytes_encoded text⟩

end DeviceRegistry.Text
