import EngineExtension.Config.Basic
import EngineExtension.Json.Quote

/-!
# Writing a configuration

A configuration is written as one object without blanks, with all fields in a fixed order.
-/

namespace EngineExtension.Config

open Json

/-- The filters of a logger. -/
def writeLogger (c : Log.Config) : List Char :=
  '\x7b' :: quote appKey ++ ':' :: quote c.app.name ++
    ',' :: quote otherKey ++ ':' :: quote c.other.name ++ ['\x7d']

/-- The characters of a written configuration. -/
def writeChars (c : Config) : List Char :=
  '\x7b' :: quote nameKey ++ ':' :: quote c.name ++ ',' :: quote loggerKey ++
    ':' :: (match c.logger with
      | some filters => writeLogger filters
      | none => ['n', 'u', 'l', 'l']) ++ ['\x7d']

/-- Writes a configuration. -/
def write (c : Config) : String := String.ofList c.writeChars

end EngineExtension.Config
