import EngineExtension.Host.Basic

/-!
# Why a load fails
-/

namespace EngineExtension

/-- The reasons for which a load fails. -/
inductive LoadError where
  /-- the request has no initializer -/
  | noInitializer
  /-- there is no host to ask for functions -/
  | noHost
  /-- there is no record to fill in -/
  | noRecord
  /-- the host lacks a function -/
  | missing (function : HostFunction)
  /-- the host is older than any supported version; `found` shows its version -/
  | unsupported (found : String)
  deriving DecidableEq, Repr

/-- The wording of a failure. -/
def LoadError.message : LoadError → String
  | noInitializer => "initialization callback must be registered before init"
  | noHost => "host passed a null get_proc_address"
  | noRecord => "host passed a null initialization record"
  | missing f => "unable to load GDExtension interface function " ++ f.name ++ "()"
  | unsupported found =>
    "cannot load a GDExtension built for Godot " ++ toString Version.oldest.1 ++ "." ++
      toString Version.oldest.2 ++ " using an older version of Godot (" ++ found ++ ")"

/-- The report of a failure. -/
def LoadError.report (e : LoadError) : String := "GDExtension init failed: " ++ e.message

end EngineExtension
