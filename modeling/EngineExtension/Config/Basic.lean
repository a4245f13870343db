import EngineExtension.Log.Config

/-!
# Extension configuration
-/

namespace EngineExtension

/-- The configuration of an extension. -/
structure Config where
  /-- name of the extension, which starts its console lines -/
  name : String := "gdextension"
  /-- filters of the logger it installs; without them it installs none -/
  logger : Option Log.Config := some {}
  deriving DecidableEq, Repr

namespace Config

/-! ## The keys of a written configuration -/

/-- Key of the name. -/
def nameKey : String := "extension_name"

/-- Key of the logger. -/
def loggerKey : String := "logger_config"

/-- Key of the filter for the extension's own targets. -/
def appKey : String := "app_level_filter"

/-- Key of the filter for all other targets. -/
def otherKey : String := "level_filter"

/-! ## Building a configuration -/

/-- Gives the extension a name. -/
def withName (c : Config) (name : String) : Config := { c with name }

/-- Lets the extension install a logger. -/
def withLogger (c : Config) (filters : Log.Config) : Config := { c with logger := some filters }

/-- Leaves logging to the process. -/
def withoutLogger (c : Config) : Config := { c with logger := none }

end Config

end EngineExtension
