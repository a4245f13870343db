import EngineExtension.Host.Version
import EngineExtension.Level

/-!
# Hosts

A host is an engine as an extension sees it at load time: something that finds functions by name. An
extension looks for three of them, and a host may lack any. For every load it keeps a record, which
says how to call the extension back; the load has to fill it in.
-/

namespace EngineExtension

/-- The functions of a host that an extension looks for. -/
inductive HostFunction where
  | printError
  | printWarning
  | getVersion
  deriving DecidableEq, Repr

/-- The name a function is found by. -/
def HostFunction.name : HostFunction → String
  | printError => "print_error"
  | printWarning => "print_warning"
  | getVersion => "get_godot_version"

/-- What a host's functions are and answer. -/
structure Host where
  /-- which host -/
  id : Nat := 0
  printsErrors : Bool := false
  printsWarnings : Bool := false
  /-- the version it reports, if it reports one -/
  version : Option VersionReport := none
  deriving DecidableEq, Repr

/-- Whether a host has a function. -/
def Host.provides (h : Host) : HostFunction → Bool
  | .printError => h.printsErrors
  | .printWarning => h.printsWarnings
  | .getVersion => h.version.isSome

/-- The record a host keeps of a load: how to call back. -/
structure InitRecord where
  /-- number of the lowest level at which the extension can be loaded -/
  minimum : Int := Level.core.raw
  /-- whether there is a state to hand back -/
  hasState : Bool := false
  /-- whether the host can bring levels up and tear them down -/
  canStart : Bool := false
  canStop : Bool := false
  deriving DecidableEq, Repr

/-- A record filled in by a load. -/
def InitRecord.filled (minimum : Level) : InitRecord := ⟨minimum.raw, true, true, true⟩

end EngineExtension
