import DeviceRegistry.Proofs.Store.Listing
import DeviceRegistry.Proofs.Text.Search
import Mathlib.Data.List.TakeWhile

/-! Search by a part of a name is search for a piece of text. Patterns have a meaning of their own,
of which matching is a decision, and the pattern that a part of a name is turned into means any text
with that part somewhere in it: whatever characters the part has, each of them stands for itself. -/
namespace DeviceRegistry

namespace Text

inductive Matches : List PatternItem → List Char → Prop where
  | nil : Matches [] []
  | anyText (front : List Char) {items : List PatternItem} {rest : List Char}
      (hRest : Matches items rest) :
      Matches (.anyText :: items) (front ++ rest)
  | anyChar (c : Char) {items : List PatternItem} {rest : List Char} (hRest : Matches items rest) :
      Matches (.anyChar :: items) (c :: rest)
  | exactly (c : Char) {items : List PatternItem} {rest : List Char} (hRest : Matches items rest) :
      Matches (.exactly c :: items) (c :: rest)

/-- Matching tries every end of the text where any text may stand, and so finds a match if there
is one. -/
theorem matchesItems_iff (items : List PatternItem) (text : List Char) :
    matchesItems items text = true ↔ Matches items text := by
  induction items generalizing text with
  | nil =>
      rw [matchesItems, List.isEmpty_iff]
      exact ⟨fun hEmpty => hEmpty ▸ .nil, fun hMatches => by cases hMatches; rfl⟩
  | cons item items ih =>
      cases item with
      | anyText =>
          rw [matchesItems, someEnd_iff]
          constructor
          · rintro ⟨front, rest, rfl, hRest⟩
            exact .anyText front ((ih rest).mp hRest)
          · rintro (_ | ⟨front, hRest⟩)
            exact ⟨front, _, rfl, (ih _).mpr hRest⟩
      | anyChar =>
          cases text with
          | nil => exact iff_of_false Bool.false_ne_true nofun
          | cons c text =>
              rw [matchesItems, ih]
              exact ⟨.anyChar c, fun hMatches => by cases hMatches; assumption⟩
      | exactly c =>
          cases text with
          | nil => exact iff_of_false Bool.false_ne_true nofun
          | cons d text =>
              rw [matchesItems, Bool.and_eq_true, beq_iff_eq, ih]
              constructor
              · rintro ⟨rfl, hRest⟩
                exact .exactly c hRest
              · intro hMatches
                cases hMatches with
                | exactly _ hRest => exact ⟨rfl, hRest⟩

/-- Places that stand for themselves are matched by themselves alone. -/
theorem matches_exactly_append_iff (sought : List Char) (items : List PatternItem)
    (text : List Char) :
    Matches (sought.map .exactly ++ items) text ↔ ∃ rest, text = sought ++ rest ∧
    Matches items rest := by
  induction sought generalizing text with
  | nil => simp
  | cons c sought ih =>
      rw [List.map_cons, List.cons_append]
      constructor
      · rintro (_ | _ | _ | ⟨_, hRest⟩)
        obtain ⟨rest, rfl, hItems⟩ := (ih _).mp hRest
        exact ⟨rest, rfl, hItems⟩
      · rintro ⟨rest, rfl, hItems⟩
        exact .exactly c ((ih _).mpr ⟨rest, rfl, hItems⟩)

theorem matches_anyText (text : List Char) : Matches [.anyText] text := by
  simpa using Matches.anyText text .nil

/-- A text with any text around it is matched by the texts that it stands in. -/
theorem matches_containing_iff (sought text : List Char) :
    Matches (.anyText :: (sought.map .exactly ++ [.anyText])) text ↔ sought <:+: text := by
  constructor
  · rintro (_ | ⟨front, hRest⟩)
    obtain ⟨rest, rfl, -⟩ := (matches_exactly_append_iff sought _ _).mp hRest
    exact ⟨front, rest, List.append_assoc _ _ _⟩
  · rintro ⟨front, rest, rfl⟩
    rw [List.append_assoc]
    refine .anyText front ((matches_exactly_append_iff sought _ _).mpr ?_)
    exact ⟨rest, rfl, matches_anyText rest⟩

theorem patternItems?_escape (c : Char) (rest : List Char) :
    patternItems? (escapeChar :: c :: rest) = (patternItems? rest).map (.exactly c :: ·) := by
  simp [patternItems?]

theorem patternItems?_anyText (rest : List Char) :
    patternItems? (anyText :: rest) = (patternItems? rest).map (.anyText :: ·) := by
  have hPercent : anyText ≠ escapeChar := by decide
  rw [patternItems?.eq_def]
  simp [hPercent]

theorem patternItems?_plain {c : Char} (hPlain : ¬ (c = escapeChar ∨ c = anyText ∨ c = anyChar))
    (rest : List Char) :
    patternItems? (c :: rest) = (patternItems? rest).map (.exactly c :: ·) := by
  rw [not_or, not_or] at hPlain
  rw [patternItems?.eq_def]
  simp [hPlain]

/-- Each character of an escaped text is read as a place that stands for this character. -/
theorem patternItems?_escaped_append (text rest : List Char) :
    patternItems? (escaped text ++ rest) = (patternItems? rest).map (text.map .exactly ++ ·) := by
  induction text with
  | nil => simp [escaped]
  | cons c text ih =>
      have hCons : escaped (c :: text) ++ rest =
          (if c = escapeChar ∨ c = anyText ∨ c = anyChar then [escapeChar, c] else [c]) ++
            (escaped text ++ rest) := by
        rw [← List.append_assoc]
        rfl
      rw [hCons]
      split
      · show patternItems? (escapeChar :: c :: (escaped text ++ rest)) = _
        rw [patternItems?_escape, ih, Option.map_map]
        rfl
      · rename_i hPlain
        show patternItems? (c :: (escaped text ++ rest)) = _
        rw [patternItems?_plain hPlain, ih, Option.map_map]
        rfl

/-- Any text, the sought text as it is, and any text again. -/
theorem patternItems?_containing (text : List Char) :
    patternItems? (containing text) = some (.anyText :: (text.map .exactly ++ [.anyText])) := by
  have hEnd : patternItems? [anyText] = some [.anyText] := patternItems?_anyText []
  rw [containing, patternItems?_anyText, patternItems?_escaped_append, hEnd]
  rfl

/-- Names are matched exactly if they hold the sought text. -/
theorem matchesPattern_containing_iff (sought text : List Char) :
    matchesPattern (containing sought) text = true ↔ sought <:+: text := by
  rw [matchesPattern, patternItems?_containing, Option.elim_some, matchesItems_iff,
    matches_containing_iff]

section Folding

variable {c d : Char} {text : List Char}

theorem toLower_of_isUpper_eq_false (hOther : c.isUpper = false) : c.toLower = c :=
  dif_neg (of_decide_eq_false hOther)

theorem isLower_toLower (hCapital : c.isUpper = true) : c.toLower.isLower = true := by
  have hRange : 65 ≤ c.val ∧ c.val ≤ 90 := of_decide_eq_true hCapital
  have hSmall : c.toLower.val = c.val + 32 := congrArg Char.val (dif_pos hRange)
  show (decide (97 ≤ c.toLower.val) && decide (c.toLower.val ≤ 122)) = true
  simp only [UInt32.le_iff_toNat_le, UInt32.reduceToNat, Char.toNat_val] at hRange
  simp [hSmall, UInt32.le_iff_toNat_le]
  omega

/-- Folding neither makes nor loses a character that is no letter. -/
theorem toLower_eq_iff (hOther : d.isAlpha = false) : c.toLower = d ↔ c = d := by
  obtain ⟨hCapital, hSmall⟩ : d.isUpper = false ∧ d.isLower = false :=
    Bool.or_eq_false_iff.mp hOther
  constructor
  · rintro rfl
    cases hUpper : c.isUpper with
    | true => exact absurd (isLower_toLower hUpper) (by simp [hSmall])
    | false => exact (toLower_of_isUpper_eq_false hUpper).symm
  · rintro rfl
    exact toLower_of_isUpper_eq_false hCapital

/-- Folding neither makes nor loses a character that is no letter. -/
theorem mem_folded_iff (hOther : d.isAlpha = false) : d ∈ folded text ↔ d ∈ text := by
  simp [folded, toLower_eq_iff hOther]

/-- It does not matter whether a part is escaped before its letters are made small or after. -/
theorem escaped_folded (text : List Char) : escaped (folded text) = folded (escaped text) := by
  have hEscape (c : Char) : c.toLower = escapeChar ↔ c = escapeChar := toLower_eq_iff rfl
  have hText (c : Char) : c.toLower = anyText ↔ c = anyText := toLower_eq_iff rfl
  have hChar (c : Char) : c.toLower = anyChar ↔ c = anyChar := toLower_eq_iff rfl
  have hMark : escapeChar.toLower = escapeChar := rfl
  simp only [escaped, folded, List.flatMap_map, List.map_flatMap, hEscape, hText, hChar]
  congr 1
  funext c
  split <;> simp [hMark]

end Folding

end Text

namespace Filter

/-- The part stands somewhere in the name, where letters of ASCII may differ in their case. -/
def HoldsPart (part name : String) : Prop := Text.folded part.toList <:+: Text.folded name.toList

instance (part name : String) : Decidable (HoldsPart part name) :=
  inferInstanceAs (Decidable (_ <:+: _))

theorem holdsPart_empty (name : String) : HoldsPart "" name := List.nil_infix

/-- What names are matched with under a filter: the escaped filter in small letters, with any text
around it. -/
def patternText (sought : String) : List Char :=
  Text.anyText :: (Text.folded (Text.escaped sought.toList) ++ [Text.anyText])

namespace NamePart

/-- What the engine matches with is the documented pattern. -/
theorem pattern_eq (sought : String) : pattern ⟨sought⟩ = patternText sought := by
  rw [pattern, Text.containing, Text.escaped_folded, patternText]

theorem ofValue_of_isBlank {filter : Value} (hBlank : filter.isBlank = true) :
    ofValue filter = .ok none := by
  simp [ofValue, hBlank]

theorem ofValue_text {sought : String} (hSome : sought ≠ "") :
    ofValue (.text sought) = .ok (some ⟨sought⟩) := by
  simp [ofValue, Value.isBlank, hSome]

theorem beforeNul_eq_self {text : List Char} (hText : '\x00' ∉ text) : beforeNul text = text := by
  rw [beforeNul, List.takeWhile_eq_self_iff]
  intro c hMem
  simpa using fun hNul : c = '\x00' => hText (hNul ▸ hMem)

/-- No NUL gets into the pattern of a text without NUL. -/
theorem nul_not_mem_pattern {sought : String} (hSought : '\x00' ∉ sought.toList) :
    '\x00' ∉ pattern ⟨sought⟩ := by
  have hEscaped : '\x00' ∉ Text.escaped sought.toList := by
    intro hMem
    obtain ⟨c, hChar, hNul⟩ := List.mem_flatMap.mp hMem
    split at hNul
    · rcases List.mem_pair.mp hNul with hMark | rfl
      · cases hMark
      · exact hSought hChar
    · exact hSought (List.mem_singleton.mp hNul ▸ hChar)
  rw [pattern_eq, patternText, List.mem_cons, List.mem_append, List.mem_singleton,
    Text.mem_folded_iff rfl]
  rintro (hPercent | hMem | hPercent)
  · cases hPercent
  · exact hEscaped hMem
  · cases hPercent

/-- A part without NUL selects the names that hold it. -/
theorem selects_iff_holdsPart {sought name : String} (hSought : '\x00' ∉ sought.toList)
    (hName : '\x00' ∉ name.toList) : selects ⟨sought⟩ name = true ↔ HoldsPart sought name := by
  have hFolded : '\x00' ∉ Text.folded name.toList := by rwa [Text.mem_folded_iff rfl]
  rw [selects, beforeNul_eq_self (nul_not_mem_pattern hSought), beforeNul_eq_self hFolded, pattern,
    Text.matchesPattern_containing_iff, HoldsPart]

end NamePart

end Filter

namespace EntityFilter

open DeviceRegistry.Filter

variable {sought : String}

/-- A filter by a part of a name selects the names that hold the part. It never fails if its pattern
is not too long. -/
theorem selectsName_part (hSought : '\x00' ∉ sought.toList)
    (hShort : (String.ofList (patternText sought)).utf8ByteSize ≤ 50000)
    (metadata : Option MetadataPart) {name : String} (hName : '\x00' ∉ name.toList) :
    selectsName ⟨some ⟨sought⟩, metadata⟩ name = .ok (decide (HoldsPart sought name)) := by
  have hFits : NamePart.isTooLong ⟨sought⟩ = false := by
    rw [NamePart.isTooLong, NamePart.pattern_eq]
    exact decide_eq_false (Nat.not_lt.mpr hShort)
  have hSelects : NamePart.selects ⟨sought⟩ name = decide (HoldsPart sought name) := by
    rw [Bool.eq_iff_iff, NamePart.selects_iff_holdsPart hSought hName, decide_eq_true_eq]
  simp [selectsName, hFits, hSelects]

/-- Under a pattern that is short enough a name is selected exactly if it holds the part. -/
theorem selectsName_ofValue (hSought : '\x00' ∉ sought.toList)
    (hShort : (String.ofList (patternText sought)).utf8ByteSize ≤ 50000) {part : Option NamePart}
    (hPart : NamePart.ofValue (.text sought) = .ok part)
    (metadata : Option MetadataPart) {name : String} (hName : '\x00' ∉ name.toList) :
    selectsName ⟨part, metadata⟩ name = .ok (decide (HoldsPart sought name)) := by
  by_cases hEmpty : sought = ""
  · subst hEmpty
    cases hPart
    simp [selectsName, holdsPart_empty]
  · rw [NamePart.ofValue_text hEmpty] at hPart
    cases hPart
    exact selectsName_part hSought hShort metadata hName

/-- A row is selected if its owner and its metadata are, and its name is. -/
theorem selects_iff_of_selectsName {part : Option NamePart}
    {metadata : Option MetadataPart} {owner : Value} {rowOwner rowName : String} {cell : Cell}
    {selected : Bool} (hName : selectsName ⟨part, metadata⟩ rowName = .ok selected) :
    selects ⟨part, metadata⟩ owner rowOwner rowName cell = .ok true ↔
      selects ⟨none, metadata⟩ owner rowOwner rowName cell = .ok true ∧ selected = true := by
  have hNone : selectsName ⟨none, metadata⟩ rowName = .ok true := rfl
  have hMetadata : selectsMetadata ⟨part, metadata⟩ cell = selectsMetadata ⟨none, metadata⟩ cell :=
    rfl
  rw [selects, selects, hName, hNone]
  split
  · cases selected with
    | true => simp [bind, Except.bind, hMetadata]
    | false => simp [bind, Except.bind, pure, Except.pure]
  · simp [pure, Except.pure]

/-- A filter by name and metadata is the filter by metadata together with the part of the name. -/
theorem ofValues_eq_ok {name metadata : Value} {filter : EntityFilter} {parameters : List Value}
    (hFilter : ofValues name metadata = .ok (filter, parameters)) :
    ∃ part others, NamePart.ofValue name = .ok part ∧ filter = ⟨part, filter.metadata⟩ ∧
      ofValues .null metadata = .ok (⟨none, filter.metadata⟩, others) := by
  obtain ⟨asked, hAsked, hFilter⟩ := bind_ok_iff.mp hFilter
  cases asked with
  | none =>
      obtain ⟨others, -, hFilter⟩ := bind_ok_iff.mp hFilter
      obtain ⟨part, hPart, hFilter⟩ := bind_ok_iff.mp hFilter
      cases hFilter
      refine ⟨part, [], hPart, rfl, ?_⟩
      rw [ofValues, hAsked]
      rfl
  | some asked =>
      obtain ⟨others, hOthers, hFilter⟩ := bind_ok_iff.mp hFilter
      obtain ⟨part, hPart, hFilter⟩ := bind_ok_iff.mp hFilter
      cases hFilter
      refine ⟨part, others ++ [], hPart, rfl, ?_⟩
      rw [ofValues, hAsked]
      change (asked.parameters >>= _) = _
      rw [hOthers]
      rfl

end EntityFilter

namespace Store

open DeviceRegistry.Filter

/-- Among the rows of a listing by a part of a name are those of the same listing without it whose
names hold the part. -/
theorem mem_named_iff {Row Entity : Type} {table : EntityTable Row Entity} {store : Store}
    {rows : List Row} {filter : EntityFilter} {parameters : List Value} {sought : String}
    {owner metadata : Value} (hSought : '\x00' ∉ sought.toList)
    (hShort : (String.ofList (patternText sought)).utf8ByteSize ≤ 50000)
    (hFilter : EntityFilter.ofValues (.text sought) metadata = .ok (filter, parameters))
    (hRows : ∀ row, row ∈ rows ↔ row ∈ table.rows store ∧
      filter.selects owner (table.owner row) (table.name row) (table.metadata row) = .ok true) :
    ∃ unnamed others, EntityFilter.ofValues .null metadata = .ok (unnamed, others) ∧
      ∀ row, '\x00' ∉ (table.name row).toList → (row ∈ rows ↔ row ∈ table.rows store ∧
        unnamed.selects owner (table.owner row) (table.name row) (table.metadata row) = .ok true ∧
          HoldsPart sought (table.name row)) := by
  obtain ⟨part, others, hPart, hSame, hUnnamed⟩ := EntityFilter.ofValues_eq_ok hFilter
  refine ⟨_, others, hUnnamed, fun row hName => ?_⟩
  rw [hRows, hSame]
  refine and_congr_right fun _ => ?_
  rw [EntityFilter.selects_iff_of_selectsName
    (EntityFilter.selectsName_ofValue hSought hShort hPart _ hName), decide_eq_true_eq]

/-- Search by a part of a name is search for a piece of text. A filter that is empty or absent
selects every name. Any other selects a name exactly if it stands in the name as it is, but for the
case of letters of ASCII, whatever characters it has: none of them is a wildcard. Listings of things
and of channels by name therefore show those rows of the same listing without a name whose names
hold the part, in the order of their identifiers. -/
theorem name_search_exact (supply : Identifier.Supply) :
    (∀ filter : Value, filter.isBlank = true → NamePart.ofValue filter = .ok none ∧
      ∀ metadata name, EntityFilter.selectsName ⟨none, metadata⟩ name = .ok true) ∧
    ∀ sought : String, '\x00' ∉ sought.toList →
    (String.ofList (patternText sought)).utf8ByteSize ≤ 50000 →
      (∃ part, NamePart.ofValue (.text sought) = .ok part ∧ ∀ metadata name, '\x00' ∉ name.toList →
        EntityFilter.selectsName ⟨part, metadata⟩ name = .ok (decide (HoldsPart sought name))) ∧
      ∀ steps owner metadata window, let store := (empty supply).run steps
        (∀ page, store.listThings owner window (.text sought) metadata = .ok page →
          ∃ rows filter parameters,
            EntityFilter.ofValues .null metadata = .ok (filter, parameters) ∧
            Paginates (fun window => store.listThings owner window (.text sought) metadata) rows
              thingTable.shown ∧
            rows.Pairwise (fun a b => a.id < b.id) ∧
            ∀ row, '\x00' ∉ row.name.toList → (row ∈ rows ↔ row ∈ store.things ∧
              filter.selects owner row.owner row.name row.metadata = .ok true ∧
              HoldsPart sought row.name)) ∧
        ∀ page, store.listChannels owner window (.text sought) metadata = .ok page →
          ∃ rows filter parameters,
            EntityFilter.ofValues .null metadata = .ok (filter, parameters) ∧
            Paginates (fun window => store.listChannels owner window (.text sought) metadata) rows
              channelTable.shown ∧
            rows.Pairwise (fun a b => a.id < b.id) ∧
            ∀ row, '\x00' ∉ row.name.toList → (row ∈ rows ↔ row ∈ store.channels ∧
              filter.selects owner row.owner row.name row.metadata = .ok true ∧
              HoldsPart sought row.name) := by
  refine ⟨fun filter hBlank => ⟨NamePart.ofValue_of_isBlank hBlank, fun _ _ => rfl⟩, ?_⟩
  intro sought hSought hShort
  refine ⟨?_, ?_⟩
  · obtain ⟨part, hPart⟩ : ∃ part, NamePart.ofValue (.text sought) = .ok part := by
      by_cases hEmpty : sought = ""
      · exact ⟨none, NamePart.ofValue_of_isBlank (by simp [Value.isBlank, hEmpty])⟩
      · exact ⟨_, NamePart.ofValue_text hEmpty⟩
    exact ⟨part, hPart, fun metadata name => EntityFilter.selectsName_ofValue hSought
      hShort hPart metadata⟩
  · intro steps owner metadata window store
    have hIdentified : store.Identified := (Identified.empty supply).run steps
    have hDocumented : store.Documented := (Documented.empty supply).run steps
    refine ⟨fun page hPage => ?_, fun page hPage => ?_⟩
    · obtain ⟨named, _, rows, hNamed, hLists⟩ :=
        EntityTable.lists hIdentified.things hDocumented.things hPage
      obtain ⟨filter, parameters, hFilter, hMem⟩ := mem_named_iff hSought hShort hNamed hLists.mem
      exact ⟨rows, filter, parameters, hFilter, hLists.toPaginates, hLists.order, hMem⟩
    · obtain ⟨named, _, rows, hNamed, hLists⟩ :=
        EntityTable.lists hIdentified.channels hDocumented.channels hPage
      obtain ⟨filter, parameters, hFilter, hMem⟩ := mem_named_iff hSought hShort hNamed hLists.mem
      exact ⟨rows, filter, parameters, hFilter, hLists.toPaginates, hLists.order, hMem⟩

/-- Two things whose names a pattern would mix up if the signs in it were wildcards. -/
def labelled : List Step :=
  let thing (n name : String) : Mapping :=
    [(.text "id", .text ("00000000-0000-0000-0000-0000000000d" ++ n)), (.text "owner", .text "ada"),
      (.text "name", .text name), (.text "key", .text n)]
  [⟨.saveThing (thing "1" "rate 5%_/Ab"), none⟩, ⟨.saveThing (thing "2" "rate 5xy/ab"), none⟩]

theorem name_search_exact_wildcards :
    let store := empty.run labelled
    let sought := "%_/aB"
    '\x00' ∉ sought.toList ∧ (String.ofList (patternText sought)).utf8ByteSize ≤ 50000 ∧
    (∃ part, NamePart.ofValue (.text sought) = .ok part ∧
      EntityFilter.selectsName ⟨part, none⟩ "rate 5%_/Ab" = .ok true ∧
      EntityFilter.selectsName ⟨part, none⟩ "rate 5xy/ab" = .ok false) ∧
    ∃ rows, Paginates (fun window => store.listThings (.text "ada") window
      (.text sought) .null) rows
        thingTable.shown ∧
      ∀ row ∈ store.things, row ∈ rows ↔ row.name = "rate 5%_/Ab" := by
  intro store sought
  have hSought : '\x00' ∉ sought.toList := by decide
  have hShort : (String.ofList (patternText sought)).utf8ByteSize ≤ 50000 := by decide
  have hHolds : HoldsPart sought "rate 5%_/Ab" ∧ ¬ HoldsPart sought "rate 5xy/ab" := by decide
  obtain ⟨⟨part, hPart, hSelects⟩, hListings⟩ :=
    (name_search_exact .counting).2 sought hSought hShort
  have hNames : '\x00' ∉ "rate 5%_/Ab".toList ∧ '\x00' ∉ "rate 5xy/ab".toList := by decide
  refine ⟨hSought, hShort, ⟨part, hPart, ?_, ?_⟩, ?_⟩
  · rw [hSelects none _ hNames.1, decide_eq_true hHolds.1]
  · rw [hSelects none _ hNames.2, decide_eq_false hHolds.2]
  · have hAnswered :
        (store.listThings (.text "ada") {} (.text sought) .null).toOption.isSome = true := by
      decide +kernel
    obtain ⟨page, hPage⟩ : ∃ page, store.listThings (.text "ada") {}
      (.text sought) .null = .ok page := by
      cases hPage : store.listThings (.text "ada") {} (.text sought) .null with
      | error failure => simp [hPage, Except.toOption] at hAnswered
      | ok page => exact ⟨page, rfl⟩
    obtain ⟨rows, filter, parameters, hFilter, hPages, -, hMem⟩ :=
      (hListings labelled (.text "ada") .null {}).1 page hPage
    cases hFilter
    refine ⟨rows, hPages, fun row hRow => ?_⟩
    have hThings : ∃ first second, store.things = [first, second] ∧ first.name = "rate 5%_/Ab" ∧
      second.name = "rate 5xy/ab" ∧ first.owner = "ada" := ⟨_, _, rfl, rfl, rfl, rfl⟩
    obtain ⟨first, second, hThings, hFirst, hSecond, hOwner⟩ := hThings
    have hBoth := hRow
    rw [hThings, List.mem_pair] at hBoth
    rcases hBoth with rfl | rfl
    · rw [hMem _ (hFirst ▸ hNames.1), hFirst]
      refine iff_of_true ⟨hRow, ?_, hHolds.1⟩ rfl
      rw [EntityFilter.selects, hOwner]
      rfl
    · rw [hMem _ (hSecond ▸ hNames.2), hSecond]
      exact iff_of_false (fun hAll => hHolds.2 hAll.2.2) (by decide)

end Store

end DeviceRegistry
