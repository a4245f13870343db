import EngineExtension.Text.HostText

/-!
# Engine versions

A host reports its version as three numbers and, if it likes, a text. The text stands for the
version in messages; only the first two numbers decide whether a host is recent enough.
-/

namespace EngineExtension

/-- The version of an engine. -/
structure Version where
  major : Nat
  minor : Nat
  patch : Nat
  /-- how the version is shown -/
  text : String
  deriving DecidableEq, Repr

namespace Version

/-- Whether a version is not older than `major.minor`. -/
def isAtLeast (v : Version) (major minor : Nat) : Bool :=
  v.major > major || (v.major == major && v.minor ≥ minor)

/-- The oldest version that a load accepts, as major and minor number. -/
def oldest : Nat × Nat := (4, 1)

/-- Whether a load accepts the version. -/
def isSupported (v : Version) : Bool := v.isAtLeast oldest.1 oldest.2

end Version

/-- A version as a host reports it, with the bytes of its text if it has one. -/
structure VersionReport where
  major : Nat := 0
  minor : Nat := 0
  patch : Nat := 0
  text : Option (List UInt8) := none
  deriving DecidableEq, Repr

/-- Reads a report. A version without a text is shown by its three numbers. -/
def VersionReport.read (r : VersionReport) : Version where
  major := r.major
  minor := r.minor
  patch := r.patch
  text := match r.text with
    | some bs => (HostText.ofBytes bs).text
    | none => toString r.major ++ "." ++ toString r.minor ++ "." ++ toString r.patch

end EngineExtension
