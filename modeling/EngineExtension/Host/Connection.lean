import EngineExtension.Attempt

/-!
# Connecting to a host

* `Host.lookUp` — asks for a function; one that is missing is noticed;
* `Printer.resolve` — finds the functions to print with: errors must be printed, warnings may be;
* `Host.supportedVersion` — asks for the version and refuses one that is too old.
-/

namespace EngineExtension

/-- Asks a host for a function. -/
def Host.lookUp (h : Host) (f : HostFunction) : Attempt Bool := do
  Attempt.send [.asked h.id f (h.provides f)]
  unless h.provides f do
    Attempt.send [.notice (.missingFunction f)]
  return h.provides f

/-- Finds what is needed to print through a host. -/
def Printer.resolve : Option Host → Attempt Printer
  | none => Attempt.fail .noHost
  | some h => do
    let found ← h.lookUp .printError
    Attempt.require found (.missing .printError)
    let showsWarnings ← h.lookUp .printWarning
    return ⟨h.id, showsWarnings⟩

/-- Asks a host for its version, which must be supported. -/
def Host.supportedVersion : Option Host → Attempt Version
  | none => Attempt.fail .noHost
  | some h => do
    let _ ← h.lookUp .getVersion
    match h.version with
    | none => Attempt.fail (.missing .getVersion)
    | some report =>
      Attempt.send [.askedVersion h.id]
      let version := report.read
      Attempt.require version.isSupported (.unsupported version.text)
      return version

end EngineExtension
