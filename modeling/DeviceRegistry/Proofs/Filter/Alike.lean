import DeviceRegistry.Proofs.Store.Listing

/-! Filters that ask for the same. Two filters that hand the same values to the storage engine, that
agree with the same documents, and whose conditions lie as deep inside each other and reach as high
are told apart by no listing. -/
namespace DeviceRegistry

namespace Filter.MetadataPart

/-- The two values ask for the same and are as deep and as high. -/
structure AreAlike (first second : Value) : Prop where
  parameters : valueParameters first = valueParameters second
  agreement : ∀ node, agrees first node = agrees second node
  nesting : valueNesting first = valueNesting second
  height : valueHeight first = valueHeight second
  pathHeight : valuePathHeight first = valuePathHeight second

theorem AreAlike.refl (value : Value) : AreAlike value value := ⟨rfl, fun _ => rfl, rfl, rfl, rfl⟩

/-- The two mappings have the same keys in the same order, with values that ask for the same. -/
def EntriesAlike : Mapping → Mapping → Prop :=
  List.Forall₂ fun first second => first.1 = second.1 ∧ AreAlike first.2 second.2

namespace EntriesAlike

variable {first second : Mapping}

/-- Alike filters hand over the same values. -/
theorem entryParameters_eq (hAlike : EntriesAlike first second) (inside : Bool) :
    entryParameters inside first = entryParameters inside second := by
  induction hAlike with
  | nil => rfl
  | @cons a b first second hHead hTail ih =>
      obtain ⟨key, value⟩ := a
      obtain ⟨_, other⟩ := b
      obtain ⟨rfl, hValue⟩ := hHead
      rw [entryParameters, entryParameters, hValue.parameters, ih]

/-- Alike filters are contained in the same documents. -/
theorem contained_eq (hAlike : EntriesAlike first second) (node : Metadata.Node) :
    contained first node = contained second node := by
  induction hAlike with
  | nil => rfl
  | @cons a b first second hHead hTail ih =>
      obtain ⟨key, value⟩ := a
      obtain ⟨_, other⟩ := b
      obtain ⟨rfl, hValue⟩ := hHead
      simp only [contained, hValue.agreement, ih]

theorem entryNesting_eq (hAlike : EntriesAlike first second) :
    entryNesting first = entryNesting second := by
  induction hAlike with
  | nil => rfl
  | cons hHead hTail ih => rw [entryNesting, entryNesting, hHead.2.nesting, ih]

theorem joinedHeight_eq (hAlike : EntriesAlike first second) (height : Nat) :
    joinedHeight height first = joinedHeight height second := by
  induction hAlike generalizing height with
  | nil => rfl
  | cons hHead hTail ih => rw [joinedHeight, joinedHeight, hHead.2.height, ih]

/-- Alike filters are as deep as each other along their greatest path. -/
theorem entryPathHeight_eq (hAlike : EntriesAlike first second) :
    entryPathHeight first = entryPathHeight second := by
  induction hAlike with
  | nil => rfl
  | cons hHead hTail ih => rw [entryPathHeight, entryPathHeight, hHead.2.pathHeight, ih]

theorem valueParameters_map (entries : Mapping) :
    valueParameters (.map entries) = (entryParameters true entries).map (.text "object" :: ·) := by
  cases entries with
  | nil => rfl
  | cons entry entries => rw [valueParameters]; exact List.cons_ne_nil _ _

/-- Mappings ask for the same if their entries do. -/
theorem map (hAlike : EntriesAlike first second) : AreAlike (.map first) (.map second) where
  parameters := by rw [valueParameters_map, valueParameters_map, hAlike.entryParameters_eq]
  agreement node := by
    cases node with
    | map named =>
        rw [agrees, agrees]
        exact hAlike.contained_eq _
    | _ => rfl
  nesting := by rw [valueNesting, valueNesting, hAlike.entryNesting_eq]
  height := by rw [valueHeight, valueHeight, hAlike.joinedHeight_eq]
  pathHeight := by
    rw [valuePathHeight, valuePathHeight, valueHeight, valueHeight, hAlike.joinedHeight_eq,
      hAlike.entryPathHeight_eq]

end EntriesAlike

end Filter.MetadataPart

open Filter.MetadataPart (EntriesAlike)

namespace EntityFilter

/-- The storage engine treats the two filters in the same way. -/
structure AreAlike (first second : EntityFilter) : Prop where
  searchable : first.expectSearchable = second.expectSearchable
  countable : first.expectCountable = second.expectCountable
  selects : ∀ owner rowOwner rowName cell,
    first.selects owner rowOwner rowName cell = second.selects owner rowOwner rowName cell

/-- Alike parts of metadata make alike filters under one name. -/
theorem AreAlike.of_entriesAlike {first second : Mapping} (hAlike : EntriesAlike first second)
    (name : Option Filter.NamePart) : AreAlike ⟨name, some ⟨first⟩⟩ ⟨name, some ⟨second⟩⟩ := by
  have hNesting : nesting ⟨name, some ⟨first⟩⟩ = nesting ⟨name, some ⟨second⟩⟩ :=
    hAlike.entryNesting_eq
  have hHeight : height ⟨name, some ⟨first⟩⟩ = height ⟨name, some ⟨second⟩⟩ := by
    simp only [height, Option.elim_some, hAlike.joinedHeight_eq, hAlike.entryPathHeight_eq]
  have hSelects : Filter.MetadataPart.selects ⟨first⟩ = Filter.MetadataPart.selects ⟨second⟩ :=
    funext hAlike.contained_eq
  constructor
  · rw [expectSearchable, expectSearchable, hNesting, hHeight]
  · rw [expectCountable, expectCountable, hNesting]
  · intro owner rowOwner rowName cell
    simp only [EntityFilter.selects, selectsName, selectsMetadata, hSelects]

theorem AreAlike.refl (filter : EntityFilter) : AreAlike filter filter :=
  ⟨rfl, rfl, fun _ _ _ _ => rfl⟩

/-- The filter of a mapping with entries. Its part of the metadata is looked at before the part of
the name. -/
theorem ofValues_cons (name : Value) (entry : Value × Value) (entries : Mapping) :
    ofValues name (.map (entry :: entries)) =
      (Filter.MetadataPart.entryParameters false (entry :: entries)).bind fun parameters =>
        (Filter.NamePart.ofValue name).bind fun part =>
          .ok (⟨part, some ⟨entry :: entries⟩⟩,
            parameters ++ part.toList.map fun sought => .text (String.ofList sought.escaped)) := rfl

/-- Filters of mappings that ask for the same are understood in the same way. -/
theorem ofValues_alike {first second : Mapping} (hAlike : EntriesAlike first second)
    (name : Value) :
    (∃ failure, ofValues name (.map first) = .error failure ∧
      ofValues name (.map second) = .error failure) ∨
      ∃ sought same parameters, ofValues name (.map first) = .ok (sought, parameters) ∧
        ofValues name (.map second) = .ok (same, parameters) ∧ sought.AreAlike same := by
  cases hAlike with
  | nil =>
      cases ofValues name (.map []) with
      | error failure => exact Or.inl ⟨failure, rfl, rfl⟩
      | ok found => exact Or.inr ⟨found.1, found.1, found.2, rfl, rfl, .refl _⟩
  | @cons a b first second hHead hTail =>
      have hAlike : EntriesAlike (a :: first) (b :: second) := .cons hHead hTail
      rw [ofValues_cons, ofValues_cons, hAlike.entryParameters_eq]
      cases Filter.MetadataPart.entryParameters false (b :: second) with
      | error failure => exact Or.inl ⟨failure, rfl, rfl⟩
      | ok parameters =>
          cases Filter.NamePart.ofValue name with
          | error failure => exact Or.inl ⟨failure, rfl, rfl⟩
          | ok part => exact Or.inr ⟨_, _, _, rfl, rfl, .of_entriesAlike hAlike part⟩

end EntityFilter

/-- Filters that ask for the same list the same. -/
theorem EntityTable.list_alike {Row Entity : Type} (table : EntityTable Row Entity) (store : Store)
    (owner name : Value) (window : Window) {first second : Mapping}
    (hAlike : EntriesAlike first second) :
    table.list store owner window name (.map first) = table.list store owner window name
      (.map second) := by
  rcases EntityFilter.ofValues_alike hAlike name with
    ⟨failure, hFirst, hSecond⟩ | ⟨sought, same, parameters, hFirst, hSecond, hSame⟩
  · rw [list, list, hFirst, hSecond]
  · rw [list, list, hFirst, hSecond]
    simp only [bind, Except.bind, selected, hSame.searchable, hSame.countable, hSame.selects]

end DeviceRegistry
