import EngineExtension.Signal

/-!
# Logging in a process

A process has one log backend, and the first one installed stays. Records are dropped at once when
they are above the process-wide threshold, which is off until a backend is installed.

* `Logging.install` — installs a dispatch unless there is a backend already;
* `Logging.receive` — what a signal makes the outside see;
* `Logging.receiveAll` — a row of signals, in order.
-/

namespace EngineExtension

/-- Where the records of a process go. -/
inductive Backend where
  /-- they are kept as they are -/
  | recorder
  /-- they are filtered, written and printed -/
  | dispatch (d : Log.Dispatch)
  deriving DecidableEq, Repr

/-- What a backend does with a record. -/
def Backend.emit : Backend → Log.Record → List Output
  | recorder, r => [.recorded r]
  | dispatch d, r => (d.emit r).map .ofEmission

/-- The logging state of a process. -/
structure Logging where
  backend : Option Backend := none
  /-- records above this are dropped -/
  threshold : Log.Filter := .off
  /-- the environment variable that overrides filters, if it is set -/
  environment : Option (List UInt8) := none
  deriving DecidableEq, Repr

namespace Logging

/-- Logging in a process where every record is kept. -/
def recording : Logging where
  backend := some .recorder
  threshold := .upTo .trace

/-- Installs a logger, with the environment applied to its filters. Only the first backend of a
process is installed; the flag says whether this one was. -/
def install (g : Logging) (name : String) (filters : Log.Config) (printer : Option Printer) :
    Bool × Logging :=
  match g.backend with
  | some _ => (false, g)
  | none =>
    let d : Log.Dispatch := ⟨name, filters.withEnvironment g.environment, printer⟩
    (true, { g with backend := some (.dispatch d), threshold := d.loudest })

/-- What a record produces. -/
def log (g : Logging) (r : Log.Record) : List Output :=
  if g.threshold.allows r.severity then
    match g.backend with
    | some b => b.emit r
    | none => []
  else []

/-- What a signal produces while there are `live` loads, and the logging state after it. -/
def receive (g : Logging) (live : Nat) : Signal → Logging × List Output
  | .asked host function found => (g, [.asked host function found])
  | .askedVersion host => (g, [.askedVersion host])
  | .printed print => (g, [.printed print])
  | .consoleText text => (g, [.consoleText text])
  | .noted note => (g, [.noted note live])
  | .notice n => (g, g.log n.record)
  | .log record => (g, g.log record)
  | .install name filters printer => ((g.install name filters printer).2, [])
  | .counted => (g, [])
  | .filled _ => (g, [])

/-- What signals produce, in order, if there are `live` loads before the first of them. -/
def receiveAll (g : Logging) (live : Nat) : List Signal → Logging × List Output
  | [] => (g, [])
  | s :: rest =>
    let (g', seen) := g.receive live s
    let (g'', more) := receiveAll g' (s.liveAfter live) rest
    (g'', seen ++ more)

end Logging

end EngineExtension
