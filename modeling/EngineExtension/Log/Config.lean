import EngineExtension.Log.Severity
import EngineExtension.Text.Blank
import EngineExtension.Text.Utf8

/-!
# Log configuration

Two filters: one for the extension's own targets and one for all others. The filter for the own
targets can be overridden by a filter name, which an environment variable may hold.
-/

namespace EngineExtension.Log

/-- The filters of a backend. -/
structure Config where
  /-- for the extension's own targets -/
  app : Filter := .upTo .info
  /-- for all other targets -/
  other : Filter := .upTo .info
  deriving DecidableEq, Repr

namespace Config

/-- Name of the environment variable that overrides the own filter. -/
def variableName : String := "GDSCAFFOLD_LOG"

/-- Sets the own filter to the one a value names, blanks around the name aside. A missing value
and one that names no filter change nothing. -/
def withOverride (c : Config) (value : Option String) : Config :=
  match value.bind fun v => Filter.ofName? (Text.trim v) with
  | some f => { c with app := f }
  | none => c

/-- Applies the bytes of the environment variable; bytes that are no text count as unset. -/
def withEnvironment (c : Config) (value : Option (List UInt8)) : Config :=
  c.withOverride (value.bind fun bs => (Text.decode? bs).map String.ofList)

/-- The most that passes anywhere. -/
def loudest (c : Config) : Filter := max c.app c.other

end Config

end EngineExtension.Log
