import EngineExtension.Program

/-!
# The state of one load

After a successful load the host calls back, over and over: bring a level up, tear a level down.
`Library` is what a load remembers between these calls.

* `Library.start` — turns to the level and runs the initializer;
* `Library.stop` — turns to the level, runs the terminator, and unregisters the level's classes;
  the load is over once the lowest level it ever started has been stopped;
* `Call.apply` — a call as the host makes it, with any number for a level.

A callback that panics is cut short there and noticed; nothing else changes.
-/

namespace EngineExtension

/-- The state of one load. -/
structure Library where
  printer : Printer
  version : Version
  /-- what the host knows the extension by -/
  token : Int
  initializer : Callback
  terminator : Option Callback
  /-- the lowest level at which the extension can be loaded -/
  minimum : Level
  /-- the lowest level started so far -/
  lowest : Option Level := none
  registry : Registry := {}

namespace Library

/-- Runs a callback at a level. A panic ends the callback only. -/
def runCallback (lib : Library) (role : Role) (callback : Callback) (level : Level) :
    Library × List Signal :=
  let outcome := (callback level).run lib.registry
  let panicked := match outcome.result with
    | some _ => []
    | none => [.notice (.panicked role level)]
  ({ lib with registry := outcome.registry }, outcome.signals ++ panicked)

/-- Turns the registry to a level. -/
def enter (lib : Library) (level : Level) : Library :=
  { lib with registry := lib.registry.enter level }

/-- Brings a level up. -/
def start (lib : Library) (level : Level) : Library × List Signal :=
  let lowest := match lib.lowest with
    | some l => min l level
    | none => level
  ({ lib with lowest := some lowest }.enter level).runCallback .initializer lib.initializer level

/-- Runs the terminator, if there is one. -/
def terminate (lib : Library) (level : Level) : Library × List Signal :=
  match lib.terminator with
  | some callback => lib.runCallback .terminator callback level
  | none => (lib, [])

/-- Unregisters the classes of a level. -/
def clear (lib : Library) (level : Level) : Library × List Signal :=
  let (gone, registry) := lib.registry.unregister level
  ({ lib with registry }, gone.map fun e => .notice (.unregistered e))

/-- Whether a load is over once a level has been stopped: that level is the lowest started so far or
lies below it, or no level was ever started. -/
def isOverAt (lib : Library) (level : Level) : Bool :=
  match lib.lowest with
  | some lowest => level ≤ lowest
  | none => true

/-- Tears a level down. -/
def stop (lib : Library) (level : Level) : Library × List Signal :=
  let (lib, terminated) := (lib.enter level).terminate level
  let (lib, cleared) := lib.clear level
  (lib, terminated ++ cleared)

end Library

/-- The two directions of a lifecycle call. -/
inductive Phase where
  | start
  | stop
  deriving DecidableEq, Repr

/-- A lifecycle call, as a host makes it. -/
structure Call where
  phase : Phase
  /-- the number the host sends for a level -/
  raw : Int
  /-- the host forgot to hand the load's state back -/
  isNull : Bool := false
  deriving DecidableEq, Repr

/-- What a call does to a load: the state after it, gone when the load is over, and what it
sends. A call without a state does nothing, and one with an unknown level is only noticed. -/
def Call.apply (c : Call) (lib : Library) : Option Library × List Signal :=
  if c.isNull then (some lib, [])
  else match Level.decode c.raw with
    | .error e => (some lib, [.notice (.ignored e)])
    | .ok level =>
      match c.phase with
      | .start =>
        let (lib, sent) := lib.start level
        (some lib, .notice (.starting level) :: sent)
      | .stop =>
        let (lib, sent) := lib.stop level
        if lib.isOverAt level then
          (none, .notice (.stopping level) :: sent ++ [.notice (.releasing level)])
        else (some lib, .notice (.stopping level) :: sent)

end EngineExtension
