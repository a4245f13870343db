import EngineExtension.Config.Basic
import EngineExtension.Host.Connection
import EngineExtension.Library

/-!
# Loading

A load checks its request and its host, and then leaves a `Library` with the host by filling in the
host's record. Whatever outlives a load it does by signals, so that a load which fails has done what
it had sent by then. It reports why: to the host as soon as the host can print, to the console
before that.

* `Request.finish` — the checks after the host can print, and what is done when all have passed;
* `Request.attempt` — all checks in order, with the report of a failure;
* `Request.load` — the attempt, with the record as its signals leave it.
-/

namespace EngineExtension

/-- What a load is asked to do. -/
structure Request where
  /-- the host, if it can be asked for functions at all -/
  host : Option Host
  /-- what the host knows the extension by -/
  token : Int
  /-- the record to fill in, if the host gave one -/
  record : Option InitRecord
  initializer : Option Callback := none
  terminator : Option Callback := none
  minimum : Level := .core
  config : Config := {}

/-- The result of a load. -/
structure Loaded where
  result : Except LoadError Library
  /-- the host's record afterwards -/
  record : Option InitRecord
  signals : List Signal

namespace Request

/-- The signal that asks for the logger of a configuration. -/
def installation (config : Config) (printer : Printer) : List Signal :=
  match config.logger with
  | some filters => [.install config.name filters (some printer)]
  | none => []

/-- The initializer, which a request must have. -/
def requireInitializer (r : Request) : Attempt Callback :=
  match r.initializer with
  | some callback => pure callback
  | none => Attempt.fail .noInitializer

/-- The checks after the host can print. When all have passed, the logger is asked for, the load is
counted among the live ones, and the host's record is filled in. -/
def finish (r : Request) (printer : Printer) : Attempt Library := do
  let initializer ← r.requireInitializer
  Attempt.require r.record.isSome .noRecord
  let version ← Host.supportedVersion r.host
  Attempt.send (installation r.config printer)
  Attempt.send [.notice (.loading r.config.name version r.minimum)]
  Attempt.send [.counted]
  Attempt.send [.filled (.filled r.minimum)]
  return {
    printer
    version
    token := r.token
    initializer
    terminator := r.terminator
    minimum := r.minimum }

/-- Where a failure is reported to a host from. -/
def reportPlace : Place := ⟨"gdscaffold-core/src/binding.rs", 104⟩

/-- How a failure is reported to a host: in the log, and by the host itself. -/
def reportToHost (printer : Printer) (e : LoadError) : List Signal :=
  [.notice (.loadFailed e), .printed (printer.error e.report "InitObject::try_init"
    reportPlace.file reportPlace.line)]

/-- How a failure is reported when the host cannot print. -/
def reportToConsole (r : Request) (e : LoadError) : List Signal :=
  [.consoleText ("[" ++ r.config.name ++ "] " ++ e.report ++ "\n")]

/-- All checks, with the report of a failure. -/
def attempt (r : Request) : Attempt Library := do
  let printer ← (Printer.resolve r.host).onFailure r.reportToConsole
  (r.finish printer).onFailure (reportToHost printer)

/-- Loads: makes the attempt, whose signals may overwrite the host's record. -/
def load (r : Request) : Loaded :=
  let x := r.attempt
  ⟨x.result, x.signals.foldl Signal.recordAfter r.record, x.signals⟩

end Request

end EngineExtension
