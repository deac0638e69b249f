import DeviceRegistry.Proofs.Text.Search
import DeviceRegistry.Store.Basic

/-! Errors of storage are recognised as what they report. A known code decides whatever the
message says, and without a code the first phrase decides that stands somewhere in the message.
The message of an error of the tables starts with the phrase by which it is recognised, whatever
column it names. -/
namespace DeviceRegistry

namespace EngineError

/-- The error gives the code. An empty code is none, and the second code counts only where there is
no first one. -/
inductive GivesCode (error : EngineError) (code : String) : Prop where
  | first (hCode : error.sqlstate = some code) (hSome : code ≠ "")
  | second (hNone : ∀ other ∈ error.sqlstate, other = "") (hCode : error.pgcode = some code)
      (hSome : code ≠ "")

def knownCodes : List (String × Violation) :=
  [("23505", .unique), ("23503", .foreignKey), ("22P02", .invalidText), ("22001", .truncation),
    ("23514", .truncation)]

def Says (error : EngineError) (phrase : String) : Prop := phrase.toList <:+: error.message.toList

instance (error : EngineError) (phrase : String) : Decidable (error.Says phrase) :=
  decidable_of_iff _ (Text.occursIn_iff phrase.toList error.message.toList)

/-- What an error is recognised as, if as anything. A code decides alone, also one that is
not known. Where there is no code the message decides, by the first of three phrases that
stands in it. -/
inductive IsRecognisedAs (error : EngineError) : Option Violation → Prop where
  | known {code : String} {violation : Violation} (hCode : error.GivesCode code)
      (hKnown : (code, violation) ∈ knownCodes) : IsRecognisedAs error (some violation)
  | unknown {code : String} (hCode : error.GivesCode code)
      (hUnknown : ∀ violation, (code, violation) ∉ knownCodes) :
      IsRecognisedAs error none
  | unique (hNone : ∀ code, ¬ error.GivesCode code)
      (hSays : error.Says "UNIQUE constraint failed") :
      IsRecognisedAs error (some .unique)
  | foreignKey (hNone : ∀ code, ¬ error.GivesCode code)
      (hUnique : ¬ error.Says "UNIQUE constraint failed")
      (hSays : error.Says "FOREIGN KEY constraint failed") : IsRecognisedAs error (some .foreignKey)
  | truncation (hNone : ∀ code, ¬ error.GivesCode code)
      (hUnique : ¬ error.Says "UNIQUE constraint failed")
      (hForeign : ¬ error.Says "FOREIGN KEY constraint failed")
      (hSays : error.Says "CHECK constraint failed") :
      IsRecognisedAs error (some .truncation)
  | silent (hNone : ∀ code, ¬ error.GivesCode code)
      (hUnique : ¬ error.Says "UNIQUE constraint failed")
      (hForeign : ¬ error.Says "FOREIGN KEY constraint failed")
      (hCheck : ¬ error.Says "CHECK constraint failed") :
      IsRecognisedAs error none

end EngineError

namespace Violation

open EngineError (knownCodes)

/-- The codes that are known are those of the table. -/
theorem ofCode?_eq_some_iff {code : String} {violation : Violation} :
    ofCode? code = some violation ↔ (code, violation) ∈ knownCodes := by
  constructor
  · intro hKnown
    rw [ofCode?] at hKnown
    split_ifs at hKnown with hCode hCode hCode hCode hCode <;> cases hKnown <;>
      subst hCode <;> decide
  · intro hMem
    have hCodes : ∀ entry ∈ knownCodes, ofCode? entry.1 = some entry.2 := by decide
    exact hCodes _ hMem

theorem ofCode?_eq_none_iff {code : String} :
    ofCode? code = none ↔ ∀ violation, (code, violation) ∉ knownCodes := by
  rw [Option.eq_none_iff_forall_ne_some]
  exact forall_congr' fun violation => not_congr ofCode?_eq_some_iff

end Violation

namespace EngineError

section Recognition

variable {error : EngineError}

/-- The code of an error is the one that it gives. -/
theorem code?_eq_some_iff {code : String} : error.code? = some code ↔ error.GivesCode code := by
  rw [code?, Option.or_eq_some_iff]
  constructor
  · rintro (hFirst | ⟨hNone, hSecond⟩)
    · obtain ⟨hCode, hSome⟩ := Option.filter_eq_some_iff.mp hFirst
      exact .first hCode (of_decide_eq_true hSome)
    · obtain ⟨hCode, hSome⟩ := Option.filter_eq_some_iff.mp hSecond
      refine .second (fun other hOther => ?_) hCode (of_decide_eq_true hSome)
      simpa using Option.filter_eq_none_iff.mp hNone other hOther
  · rintro (⟨hCode, hSome⟩ | ⟨hNone, hCode, hSome⟩)
    · exact Or.inl (Option.filter_eq_some_iff.mpr ⟨hCode, decide_eq_true hSome⟩)
    · refine Or.inr ⟨?_, Option.filter_eq_some_iff.mpr ⟨hCode, decide_eq_true hSome⟩⟩
      exact Option.filter_eq_none_iff.mpr fun other hOther => by simpa using hNone other hOther

theorem code?_eq_none_iff : error.code? = none ↔ ∀ code, ¬ error.GivesCode code := by
  rw [Option.eq_none_iff_forall_ne_some]
  exact forall_congr' fun code => not_congr code?_eq_some_iff

/-- A message is recognised by the first of the phrases that stands in it. -/
theorem ofMessage?_eq (error : EngineError) :
    Violation.ofMessage? error.message =
      if error.Says "UNIQUE constraint failed" then some .unique
      else if error.Says "FOREIGN KEY constraint failed" then some .foreignKey
      else if error.Says "CHECK constraint failed" then some .truncation
      else none := by
  simp only [Violation.ofMessage?, Violation.phrases, List.find?_cons, List.find?_nil, Says,
    ← Text.occursIn_iff]
  generalize Text.occursIn "UNIQUE constraint failed".toList error.message.toList = isUnique
  generalize Text.occursIn "FOREIGN KEY constraint failed".toList error.message.toList = isForeign
  generalize Text.occursIn "CHECK constraint failed".toList error.message.toList = isCheck
  cases isUnique with
  | true => rfl
  | false =>
      cases isForeign with
      | true => rfl
      | false => cases isCheck <;> rfl

/-- An error is recognised by its code, or else by its message. -/
theorem isRecognisedAs_violation? (error : EngineError) :
    error.IsRecognisedAs error.violation? := by
  rw [violation?]
  cases hCode : error.code? with
  | some code =>
      have hGives := code?_eq_some_iff.mp hCode
      dsimp only
      cases hKnown : Violation.ofCode? code with
      | some violation => exact .known hGives (Violation.ofCode?_eq_some_iff.mp hKnown)
      | none => exact .unknown hGives (Violation.ofCode?_eq_none_iff.mp hKnown)
  | none =>
      have hNone := code?_eq_none_iff.mp hCode
      dsimp only
      rw [ofMessage?_eq]
      split_ifs with hUnique hForeign hCheck
      · exact .unique hNone hUnique
      · exact .foreignKey hNone hUnique hForeign
      · exact .truncation hNone hUnique hForeign hCheck
      · exact .silent hNone hUnique hForeign hCheck

/-- Every error is recognised as one thing, or as nothing. -/
theorem violation?_eq_iff {found : Option Violation} :
    error.violation? = found ↔ error.IsRecognisedAs found := by
  refine ⟨fun hFound => hFound ▸ error.isRecognisedAs_violation?, fun hFound => ?_⟩
  have hCoded {code : String} (hCode : error.GivesCode code) : error.violation? =
      Violation.ofCode? code := by
    rw [violation?, code?_eq_some_iff.mpr hCode]
  have hUncoded (hNone : ∀ code, ¬ error.GivesCode code) :
      error.violation? = Violation.ofMessage? error.message := by
    rw [violation?, code?_eq_none_iff.mpr hNone]
  cases hFound with
  | known hCode hKnown => rw [hCoded hCode, Violation.ofCode?_eq_some_iff.mpr hKnown]
  | unknown hCode hUnknown => rw [hCoded hCode, Violation.ofCode?_eq_none_iff.mpr hUnknown]
  | unique hNone hSays => rw [hUncoded hNone, ofMessage?_eq, if_pos hSays]
  | foreignKey hNone hUnique hSays =>
      rw [hUncoded hNone, ofMessage?_eq, if_neg hUnique, if_pos hSays]
  | truncation hNone hUnique hForeign hSays =>
      rw [hUncoded hNone, ofMessage?_eq, if_neg hUnique, if_neg hForeign, if_pos hSays]
  | silent hNone hUnique hForeign hCheck =>
      rw [hUncoded hNone, ofMessage?_eq, if_neg hUnique, if_neg hForeign, if_neg hCheck]

end Recognition

@[simp] theorem violation?_notUnique (column : String) :
    (notUnique column).violation? = some .unique := by
  refine violation?_eq_iff.mpr (.unique (fun code hCode => ?_) ?_)
  · rcases hCode with ⟨hCode, -⟩ | ⟨-, hCode, -⟩ <;> cases hCode
  · have hMessage : ("UNIQUE constraint failed: " ++ column).toList =
        "UNIQUE constraint failed".toList ++ (": ".toList ++ column.toList) := by
      simp
    rw [Says, notUnique, hMessage]
    exact (List.prefix_append _ _).isInfix

/-- A text that is too long is recognised as such in every column of entities that has a limit. -/
theorem violation?_tooLong {table column : String} (hTable : table ∈ ["things", "channels"])
    (hColumn : column ∈ ["owner", "name", "key"]) :
    (tooLong table column).violation? = some .truncation := by
  have hAll : ∀ table ∈ ["things", "channels"], ∀ column ∈ ["owner", "name", "key"],
      (tooLong table column).violation? = some .truncation := by decide
  exact hAll table hTable column hColumn

@[simp] theorem violation?_noParent : noParent.violation? = some .foreignKey := by decide

end EngineError

end DeviceRegistry
