import EngineExtension.Load
import EngineExtension.Logging

/-!
# Sessions

A session is the life of a process that loads extensions. It holds any number of slots for loads,
one logging state, and the number of live loads. It goes on step by step: hosts load into a slot
and make lifecycle calls on a slot, and things around the loads log, install loggers, change the
environment and print.

* `Slot` — the host's record of its last load, and the state while the load lives;
* `Session.step` — one step: its answer, what the outside sees, and the session after it.
-/

namespace EngineExtension

/-- A place for a load. -/
structure Slot where
  /-- the host's record, once there was a load -/
  record : Option InitRecord := none
  /-- the state of a load that is not over -/
  library : Option Library := none

/-- The state of a process that loads extensions. -/
structure Session where
  logging : Logging := {}
  /-- number of loads that are not over -/
  live : Nat := 0
  slots : Nat → Slot := fun _ => {}

/-- One step of a session. -/
inductive Step where
  /-- load into a slot -/
  | load (slot : Nat) (request : Request)
  /-- call back into a slot -/
  | call (slot : Nat) (call : Call)
  /-- log a record -/
  | log (record : Log.Record)
  /-- install a logger that prints through a host -/
  | initLogging (name : String) (filters : Log.Config) (host : Option Host)
  /-- set or unset the environment variable -/
  | setEnvironment (value : Option (List UInt8))
  /-- print a warning through the host of a slot -/
  | print (slot : Nat) (message : String)

/-- The answer to a step. -/
inductive Answer where
  /-- nothing to tell -/
  | none
  /-- the slot holds a live load -/
  | occupied
  | loaded (result : Except LoadError Library)
  /-- the slot never held a load -/
  | noLoad
  /-- the last load of the slot failed, so there is nothing to call -/
  | noRecord
  /-- the load of the slot is over -/
  | over
  /-- the call was made; whether it ended the load -/
  | called (ended : Bool)
  /-- whether the logger was installed -/
  | installed (b : Bool)
  /-- the slot holds no state -/
  | noState

namespace Session

/-- A session where every log record is kept. -/
def recording : Session := { logging := .recording }

/-- Puts a slot in place. -/
def setSlot (p : Session) (i : Nat) (s : Slot) : Session :=
  { p with slots := fun j => if j = i then s else p.slots j }

/-- Takes signals in: the log hears of them, and loads that have come to life are counted. -/
def receive (p : Session) (signals : List Signal) : Session × List Output :=
  let (logging, seen) := p.logging.receiveAll p.live signals
  ({ p with logging, live := signals.foldl Signal.liveAfter p.live }, seen)

/-- Loads into a slot that holds no live load. The slot keeps the host's record as the load left it,
an empty one if the host gave none, and the state that the load made, if it made one. -/
def load (p : Session) (i : Nat) (request : Request) : Answer × List Output × Session :=
  match (p.slots i).library with
  | some _ => (.occupied, [], p)
  | none =>
    let loaded := request.load
    let (p, seen) := p.receive loaded.signals
    (.loaded loaded.result, seen,
      p.setSlot i ⟨some (loaded.record.getD {}), loaded.result.toOption⟩)

/-- Makes a lifecycle call on a slot, if its record allows one. -/
def call (p : Session) (i : Nat) (c : Call) : Answer × List Output × Session :=
  match (p.slots i).record with
  | none => (.noLoad, [], p)
  | some record =>
    if !record.canStart then (.noRecord, [], p)
    else match (p.slots i).library with
      | none => if c.isNull then (.called false, [], p) else (.over, [], p)
      | some lib =>
        let (lib?, signals) := c.apply lib
        let (p, seen) := p.receive signals
        let p := p.setSlot i ⟨some record, lib?⟩
        match lib? with
        | some _ => (.called false, seen, p)
        | none => (.called true, seen, { p with live := p.live - 1 })

/-- Finds a printer for a logger. Without a host, or with one that cannot print, there is none. -/
def findPrinter : Option Host → Option Printer × List Signal
  | none => (none, [])
  | some h =>
    let x := Printer.resolve (some h)
    (x.result.toOption, x.signals)

/-- Installs a logger. -/
def initLogging (p : Session) (name : String) (filters : Log.Config) (host : Option Host) :
    Answer × List Output × Session :=
  let (printer, signals) := findPrinter host
  let (p, seen) := p.receive signals
  let (done, logging) := p.logging.install name filters printer
  (.installed done, seen, { p with logging })

/-- Prints a warning through the host of a slot. -/
def print (p : Session) (i : Nat) (message : String) : Answer × List Output × Session :=
  match (p.slots i).library with
  | none => (.noState, [], p)
  | some lib => (.none, [.printed (lib.printer.warning message "print" "" 0)], p)

/-- One step. -/
def step (p : Session) : Step → Answer × List Output × Session
  | .load i request => p.load i request
  | .call i c => p.call i c
  | .log record => (.none, p.logging.log record, p)
  | .initLogging name filters host => p.initLogging name filters host
  | .setEnvironment value =>
    (.none, [], { p with logging := { p.logging with environment := value } })
  | .print i message => p.print i message

end Session

end EngineExtension
