import DeviceRegistry.Entity.Basic
import DeviceRegistry.Identifier.Supply
import DeviceRegistry.Metadata.Column
import DeviceRegistry.Store.Cell
import DeviceRegistry.Store.Event

/-! The tables of the registry, and how the outcome of an operation on them is reported. -/
namespace DeviceRegistry

structure ThingRow where
  id : String
  owner : String
  name : String
  key : Cell
  metadata : Cell
deriving DecidableEq

structure ChannelRow where
  id : String
  owner : String
  name : String
  metadata : Cell
deriving DecidableEq

/-- A stored connection. The owners of both ends are stored with it. -/
structure ConnectionRow where
  channelId : String
  channelOwner : String
  thingId : String
  thingOwner : String
deriving DecidableEq

structure MessageRow where
  number : Nat
  message : Message
deriving DecidableEq

/-- The tables, in the order in which their rows arrived, and the identifiers that are still to
be drawn. -/
structure Store where
  things : List ThingRow := []
  channels : List ChannelRow := []
  connections : List ConnectionRow := []
  messages : List MessageRow := []
  supply : Identifier.Supply

/-- The tables after an operation, its answer, and what it reported. -/
structure Outcome (α : Type) where
  store : Store
  answer : Except Failure α
  log : List Event := []

namespace EngineError

def notNull (column : String) : EngineError where
  kind := .integrity
  message := "NOT NULL constraint failed: " ++ column

def tooLong (table column : String) : EngineError where
  kind := .integrity
  message := "CHECK constraint failed: " ++ table ++ "_" ++ column ++ "_length"

def notUnique (column : String) : EngineError where
  kind := .integrity
  message := "UNIQUE constraint failed: " ++ column

def noParent : EngineError where
  kind := .integrity
  message := "FOREIGN KEY constraint failed"

/-- Stored metadata that is searched has no reading. -/
def malformedDocument : EngineError where
  kind := .operational
  message := "malformed JSON"

/-- Conditions of a search lie too deep inside each other. -/
def nestedTooDeep : EngineError where
  kind := .operational
  message := "parser stack overflow"

/-- Too many conditions of a search are joined. -/
def joinedTooHigh : EngineError where
  kind := .operational
  message := "Expression tree is too large (maximum depth 1000)"

def patternTooComplex : EngineError where
  kind := .operational
  message := "LIKE or GLOB pattern too complex"

def ofEntityWrite (error : EngineError) (kind : EntityKind) : Failure × List Event :=
  match error.violation? with
  | some .invalidText => (.rejected error.message, [.textRefused kind .invalidText])
  | some .truncation => (.rejected error.message, [.textRefused kind .truncation])
  | some .unique => (.conflict kind, if kind = .thing then [.thingConflict] else [])
  | _ => (.engine error, [])

end EngineError

namespace Failure

/-- The failure of a write to an entity, and what is reported of it. Only errors of the storage
engine have another meaning there. -/
def ofEntityWrite (failure : Failure) (kind : EntityKind) : Failure × List Event :=
  match failure with
  | .engine error => error.ofEntityWrite kind
  | other => (other, [])

end Failure

namespace Outcome

variable {α : Type}

/-- A write to an entity that failed and left the tables as they were. -/
def refused (store : Store) (kind : EntityKind) (failure : Failure) : Outcome α :=
  let (failure, log) := failure.ofEntityWrite kind
  ⟨store, .error failure, log⟩

def failed (store : Store) (failure : Failure) : Outcome α := ⟨store, .error failure, []⟩

def reading (store : Store) (answer : Except Failure α) : Outcome α := ⟨store, answer, []⟩

end Outcome

/-- The greatest lengths of texts. -/
def maxOwnerLength : Nat := 254

def maxNameLength : Nat := 1024

def maxKeyLength : Nat := 4096

end DeviceRegistry
