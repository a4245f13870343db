import EngineExtension.Log.Severity

/-!
# Log records
-/

namespace EngineExtension.Log

/-- One record, as it is handed to a backend. -/
structure Record where
  severity : Severity
  /-- what the record is filed under: a path of names joined by a double colon -/
  target : String
  message : String
  /-- path of the module that made the record -/
  modulePath : Option String := none
  /-- file and line of the place that made the record -/
  file : Option String := none
  line : Option Nat := none
  deriving DecidableEq, Repr

end EngineExtension.Log
