import EngineExtension.Program

/-!
# The bare extension

An extension with everything in place but classes of its own: its callbacks act at one level, and
registration there registers nothing. A registration that failed would be logged, and no more.
-/

namespace EngineExtension.Bare

/-- Name of the extension. -/
def name : String := "gdscaffold"

/-- The level its callbacks act at. -/
def level : Level := .scene

/-- Registers the extension's classes, and fails at the first that is refused. It has none. -/
def registerClasses : Program (Except RegistrationError Unit) := pure (.ok ())

/-- The record of a registration that failed. The cause is set in, each line of it. -/
def registrationFailed (cause : RegistrationError) : Log.Record where
  severity := .error
  target := "gdscaffold"
  message := "class registration failed\n\nCaused by:\n    " ++
    String.intercalate "\n    " (cause.message.splitOn "\n")
  modulePath := some "gdscaffold"
  file := some "gdscaffold/src/lib.rs"
  line := some 39

/-- Its initializer. -/
def start : Callback := fun l => do
  if l = level then
    match ← registerClasses with
    | .ok _ => pure ()
    | .error cause => Program.command (.log (registrationFailed cause))

/-- Its terminator. The classes of a level are unregistered without it. -/
def stop : Callback := fun _ => pure ()

end EngineExtension.Bare
