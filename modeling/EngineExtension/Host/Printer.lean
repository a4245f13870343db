import EngineExtension.Text.HostText

/-!
# Printing through a host

A host shows errors, and if it can, warnings too. A `Printer` remembers which host to print to and
whether it shows warnings; a warning for a host that does not is printed as an error.
-/

namespace EngineExtension

/-- How a truth value crosses to a host. -/
def wireFlag (b : Bool) : Nat := if b then 1 else 0

/-- The two ways in which a host shows a message. -/
inductive Channel where
  | error
  | warning
  deriving DecidableEq, Repr

/-- A message as it reaches a host. -/
structure Print where
  channel : Channel
  /-- which host -/
  host : Nat
  description : HostText
  /-- function, file and line that the message is about -/
  function : HostText
  file : HostText
  line : Nat
  /-- whether the host is asked to notify its editor -/
  notify : Bool
  deriving DecidableEq

/-- The part of a host that messages are printed with. -/
structure Printer where
  host : Nat
  /-- whether the host shows warnings -/
  showsWarnings : Bool
  deriving DecidableEq, Repr

namespace Printer

/-- The greatest line number a host takes. -/
def lastLine : Nat := 0x7FFFFFFF

/-- Prints on a given channel. Texts lose their NULs, and a line number that is too great becomes
the greatest. -/
def send (p : Printer) (channel : Channel) (description function file : String) (line : Nat) :
    Print where
  channel := channel
  host := p.host
  description := .ofString description
  function := .ofString function
  file := .ofString file
  line := min line lastLine
  notify := false

/-- Prints an error. -/
def error (p : Printer) (description function file : String) (line : Nat) : Print :=
  p.send .error description function file line

/-- Prints a warning, as an error if the host does not show warnings. -/
def warning (p : Printer) (description function file : String) (line : Nat) : Print :=
  p.send (if p.showsWarnings then .warning else .error) description function file line

end Printer

end EngineExtension
