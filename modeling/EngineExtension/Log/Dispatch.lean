import EngineExtension.Host.Printer
import EngineExtension.Log.Config
import EngineExtension.Log.Record
import EngineExtension.Log.Target

/-!
# Where log records go

A dispatch checks a record against the filter of its target. A record that passes becomes one
console line; then, if there is a printer and the record is a warning or an error, one host print.

* `ConsoleLine` — a line on the console, complete but for the time stamp;
* `Dispatch.filterFor`, `Dispatch.isEnabled` — which records pass;
* `Dispatch.emit` — what a record produces, in order.
-/

namespace EngineExtension.Log

/-- A record on the console. -/
structure ConsoleLine where
  /-- name of the extension that writes -/
  name : String
  severity : Severity
  target : String
  message : String
  deriving DecidableEq, Repr

/-- The number that selects the colour of a severity on a terminal. -/
def Severity.colour : Severity → Nat
  | error => 31
  | warn => 33
  | info => 32
  | debug => 36
  | trace => 90

/-- The characters that switch a terminal to a colour. Zero switches back. -/
def colourSwitch (n : Nat) : String := "\x1b[" ++ toString n ++ "m"

/-- The text of a console line, given the time of day. -/
def ConsoleLine.render (l : ConsoleLine) (time : String) : String :=
  "[" ++ time ++ " " ++ l.name ++ " " ++ colourSwitch l.severity.colour ++ l.severity.name ++
    colourSwitch 0 ++ " " ++ l.target ++ "] " ++ l.message ++ "\n"

/-- What a dispatch produces. -/
inductive Emission where
  | console (line : ConsoleLine)
  | print (print : Print)
  deriving DecidableEq

/-- A backend that writes to the console and passes grave records on to a host. -/
structure Dispatch where
  /-- name of the extension that writes -/
  name : String
  filters : Config
  printer : Option Printer
  deriving DecidableEq, Repr

namespace Dispatch

/-- The filter for records with a given target. -/
def filterFor (d : Dispatch) (target : String) : Filter :=
  if isOwn target then d.filters.app else d.filters.other

/-- Whether a record of this severity and target passes. -/
def isEnabled (d : Dispatch) (s : Severity) (target : String) : Bool :=
  (d.filterFor target).allows s

/-- The most that any target lets through. -/
def loudest (d : Dispatch) : Filter := d.filters.loudest

/-- The filter in front of a host: warnings and errors. -/
def hostFilter : Filter := .upTo .warn

/-- The host print for a record: errors as errors, all else as warnings. -/
def print (p : Printer) (r : Record) : Print :=
  let function := r.modulePath.getD ""
  let file := r.file.getD ""
  let line := r.line.getD 0
  match r.severity with
  | .error => p.error r.message function file line
  | _ => p.warning r.message function file line

/-- What reaches the host for a record that passed the filter of its target. -/
def emitToHost (d : Dispatch) (r : Record) : List Emission :=
  match d.printer with
  | some p => if hostFilter.allows r.severity then [.print (print p r)] else []
  | none => []

/-- What a record produces, in order. -/
def emit (d : Dispatch) (r : Record) : List Emission :=
  if d.isEnabled r.severity r.target then
    .console ⟨d.name, r.severity, r.target, r.message⟩ :: d.emitToHost r
  else []

end Dispatch

end EngineExtension.Log
