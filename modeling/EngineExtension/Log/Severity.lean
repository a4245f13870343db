/-!
# Severities and filters

A log record has a severity. A filter lets through every record up to a severity, or none at all.

* `Severity.rank`, `Filter.rank` — both on one scale, so that `Filter.allows` is a comparison;
* `Filter.name`, `Filter.ofName?` — filters have names, which are read in any mix of upper and
  lower case ASCII letters.
-/

namespace EngineExtension.Log

/-- How grave a record is. -/
inductive Severity where
  | error
  | warn
  | info
  | debug
  | trace
  deriving DecidableEq, Repr

namespace Severity

/-- Position on the scale, the gravest first; zero is left for "nothing". -/
def rank : Severity → Nat
  | error => 1
  | warn => 2
  | info => 3
  | debug => 4
  | trace => 5

/-- The name a severity has on the console. -/
def name : Severity → String
  | error => "ERROR"
  | warn => "WARN"
  | info => "INFO"
  | debug => "DEBUG"
  | trace => "TRACE"

/-- All severities, the gravest first. -/
def all : List Severity := [error, warn, info, debug, trace]

end Severity

/-- Which records pass. -/
inductive Filter where
  /-- none -/
  | off
  /-- those at least as grave as the given severity -/
  | upTo (least : Severity)
  deriving DecidableEq, Repr

namespace Filter

/-- Position on the scale of severities. -/
def rank : Filter → Nat
  | off => 0
  | upTo s => s.rank

/-- All filters, the strictest first. -/
def all : List Filter := off :: Severity.all.map upTo

/-- The name of a filter. -/
def name : Filter → String
  | off => "OFF"
  | upTo s => s.name

/-- A record of severity `s` passes. -/
def allows (f : Filter) (s : Severity) : Bool := s.rank ≤ f.rank

instance : LE Filter := ⟨fun a b => a.rank ≤ b.rank⟩

instance (a b : Filter) : Decidable (a ≤ b) := inferInstanceAs (Decidable (a.rank ≤ b.rank))

instance : Max Filter := maxOfLe

/-- The filter with a given name, in upper or lower case ASCII letters. -/
def ofName? (s : String) : Option Filter :=
  all.find? fun f => f.name.toList == s.toList.map Char.toUpper

end Filter

end EngineExtension.Log
