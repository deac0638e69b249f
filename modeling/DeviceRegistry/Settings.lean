import DeviceRegistry.Text.Capitals
import DeviceRegistry.Text.Folding

/-! Settings of the registry, taken from an environment. -/
namespace DeviceRegistry

structure Environment where
  databaseUrl : Option String := none
  databaseEcho : Option String := none
  logLevel : Option String := none

structure Settings where
  databaseUrl : String
  databaseEcho : Bool
  logLevel : String
deriving DecidableEq

namespace Settings

/-- The words that switch a setting on. No letter outside ASCII has one of their letters as its
small form. -/
def affirmations : List String := ["1", "true", "yes"]

def ofEnvironment (environment : Environment) : Settings where
  databaseUrl := environment.databaseUrl.getD "sqlite:///./devicehub.db"
  databaseEcho :=
    affirmations.contains
      (String.ofList (Text.folded (environment.databaseEcho.getD "false").toList))
  logLevel := String.ofList (Text.inCapitals (environment.logLevel.getD "INFO").toList)

def severity? (settings : Settings) : Option Nat :=
  [("CRITICAL", 50), ("FATAL", 50), ("ERROR", 40), ("WARN", 30), ("WARNING", 30), ("INFO", 20),
   ("DEBUG", 10), ("NOTSET", 0)].lookup settings.logLevel

end Settings

end DeviceRegistry
