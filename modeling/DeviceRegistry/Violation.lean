import DeviceRegistry.Text.Search

/-! Errors that the storage engine reports, and the violations that they are recognised as. An
engine that gives a code is recognised by its code alone, and one that gives none by its message. -/
namespace DeviceRegistry

inductive Violation where
  | unique
  | foreignKey
  | invalidText
  | truncation
deriving DecidableEq

namespace Violation

def name : Violation → String
  | .unique => "unique_violation"
  | .foreignKey => "foreign_key_violation"
  | .invalidText => "invalid_text_representation"
  | .truncation => "string_data_right_truncation"

/-- The violation of a code. The only checks of the tables are limits of length, so that a failed
check is a text that is too long. -/
def ofCode? (code : String) : Option Violation :=
  if code = "23505" then some .unique
  else if code = "23503" then some .foreignKey
  else if code = "22P02" then some .invalidText
  else if code = "22001" then some .truncation
  else if code = "23514" then some .truncation
  else none

/-- The phrases by which messages are recognised, in the order in which they are looked for. -/
def phrases : List (String × Violation) :=
  [("UNIQUE constraint failed", .unique),
   ("FOREIGN KEY constraint failed", .foreignKey),
   ("CHECK constraint failed", .truncation)]

def ofMessage? (message : String) : Option Violation :=
  (phrases.find? fun phrase => Text.occursIn phrase.1.toList message.toList).map Prod.snd

end Violation

inductive EngineErrorKind where
  | integrity
  | operational
  | programming
  | data
deriving DecidableEq

structure EngineError where
  kind : EngineErrorKind
  sqlstate : Option String := none
  pgcode : Option String := none
  message : String
deriving DecidableEq

namespace EngineError

/-- The first of the two codes that is there and not empty. -/
def code? (error : EngineError) : Option String :=
  (error.sqlstate.filter (· ≠ "")).or (error.pgcode.filter (· ≠ ""))

def violation? (error : EngineError) : Option Violation :=
  match error.code? with
  | some code => Violation.ofCode? code
  | none => Violation.ofMessage? error.message

end EngineError

end DeviceRegistry
