import EngineExtension.Log.Dispatch
import EngineExtension.Notice

/-!
# Signals

What happens to a load is a matter of that load alone. What it has to tell the rest of the process
it sends as signals, in order, without waiting for an answer: what it did to its host, what there
is to log, the logger it would like to have, that it has come to life. `Logging` turns signals into
outputs.

* `Output` — what the outside of the process can see;
* `Signal` — what a load sends; `Signal.record?` is the record of one that is for the log;
* `Signal.liveAfter`, `Signal.recordAfter` — what a signal makes of the number of live loads and of
  the host's record.
-/

namespace EngineExtension

/-- Something that the outside of a process can see. -/
inductive Output where
  /-- a host was asked for a function -/
  | asked (host : Nat) (function : HostFunction) (found : Bool)
  /-- a host was asked for its version -/
  | askedVersion (host : Nat)
  /-- a host was given a message -/
  | printed (print : Print)
  /-- a record reached a recording backend -/
  | recorded (record : Log.Record)
  /-- a record reached the console -/
  | console (line : Log.ConsoleLine)
  /-- a text reached the console without a record -/
  | consoleText (text : String)
  /-- a scripted callback left a note, at a time with so many live loads -/
  | noted (note : Note) (live : Nat)
  deriving DecidableEq

namespace Output

/-- The text that an output adds to the console, given the time of day. -/
def consoleTextAt (time : String) : Output → String
  | console line => line.render time
  | consoleText text => text
  | _ => ""

/-- The text that outputs add to the console, all at the same time of day. -/
def written (time : String) (seen : List Output) : String :=
  String.join (seen.map (consoleTextAt time))

/-- An emission of a log backend, seen from outside. -/
def ofEmission : Log.Emission → Output
  | .console line => console line
  | .print print => printed print

end Output

/-- Something that a load tells the rest of the process. -/
inductive Signal where
  /-- a host was asked for a function -/
  | asked (host : Nat) (function : HostFunction) (found : Bool)
  /-- a host was asked for its version -/
  | askedVersion (host : Nat)
  /-- a host was given a message -/
  | printed (print : Print)
  /-- a text for the console -/
  | consoleText (text : String)
  /-- a note of a scripted callback -/
  | noted (note : Note)
  /-- a notice of the library itself, for the log -/
  | notice (n : Notice)
  /-- a record of a callback, for the log -/
  | log (record : Log.Record)
  /-- the wish for a logger under a name, with filters and a printer -/
  | install (name : String) (filters : Log.Config) (printer : Option Printer)
  /-- one more load is alive -/
  | counted
  /-- the host's record was overwritten -/
  | filled (record : InitRecord)
  deriving DecidableEq

/-- The record that a signal sends to the log. -/
def Signal.record? : Signal → Option Log.Record
  | notice n => some n.record
  | log record => some record
  | _ => none

/-- The number of live loads after a signal. -/
def Signal.liveAfter (live : Nat) : Signal → Nat
  | counted => live + 1
  | _ => live

/-- The host's record after a signal. Where the host gave none, there is none to overwrite. -/
def Signal.recordAfter (record : Option InitRecord) : Signal → Option InitRecord
  | filled new => record.map fun _ => new
  | _ => record

end EngineExtension
