import DeviceRegistry.Metadata.Column
import DeviceRegistry.Proofs.Text.Utf8

/-! Raw values of a metadata column. Each is read, or it is reported as no metadata, except for
bytes that are the bytes of no text. Bytes of a text denote what the text denotes. -/
namespace DeviceRegistry.Metadata

def IsNoText (raw : Value) : Prop :=
  ∃ holder content, raw = .bytes holder content ∧ ∀ text, content ≠ Text.encoded text

/-- A text is read, or it is reported as no metadata. -/
theorem mapError_decodeText_cases (text : List Char) :
    (∃ entries, (decodeText text).mapError Failure.unreadableMetadata = .ok entries) ∨
      ∃ fault, (decodeText text).mapError Failure.unreadableMetadata =
        .error (.unreadableMetadata fault) := by
  cases decodeText text with
  | ok entries => exact Or.inl ⟨entries, rfl⟩
  | error fault => exact Or.inr ⟨fault, rfl⟩

/-- The bytes of a text denote what the text denotes. -/
theorem decode_encoded (holder : ByteHolder) (text : List Char) :
    decode (.bytes holder (Text.encoded text)) = decode (.text (String.ofList text)) := by
  have hRead : Text.decode? (Text.encoded text) = some text := Text.decode?_eq_some_iff.mpr rfl
  simp only [decode, hRead, String.toList_ofList]

/-- Bytes that are no text cannot be decoded. -/
theorem decode_of_isNoText {raw : Value} (hBytes : IsNoText raw) :
    decode raw = .error .undecodableMetadata := by
  obtain ⟨holder, content, rfl, hNoText⟩ := hBytes
  rw [decode]
  cases hRead : Text.decode? content with
  | none => rfl
  | some text => exact absurd (Text.decode?_eq_some_iff.mp hRead) (hNoText text)

/-- There is no other way in which reading a raw value ends. -/
theorem decode_cases (raw : Value) :
    IsNoText raw ∨ (∃ entries, decode raw = .ok entries) ∨
      ∃ fault, decode raw = .error (.unreadableMetadata fault) := by
  cases raw with
  | null => exact Or.inr (Or.inl ⟨[], rfl⟩)
  | map entries => exact Or.inr (Or.inl ⟨entries, rfl⟩)
  | text s => exact Or.inr (mapError_decodeText_cases s.toList)
  | bytes holder content =>
      by_cases hText : ∃ text, content = Text.encoded text
      · obtain ⟨text, rfl⟩ := hText
        rw [decode_encoded]
        exact Or.inr (mapError_decodeText_cases _)
      · exact Or.inl ⟨holder, content, rfl, not_exists.mp hText⟩
  | _ => exact Or.inr (Or.inr ⟨.notMapping _, rfl⟩)

end DeviceRegistry.Metadata
