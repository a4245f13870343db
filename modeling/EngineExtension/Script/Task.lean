import EngineExtension.Log.Record
import EngineExtension.Registry

/-!
# Tasks and notes of scripted callbacks

A callback can be scripted: at each level it works through a list of tasks and leaves a note about
each. This module has the vocabulary; `Script` says how tasks are carried out.
-/

namespace EngineExtension

/-- Which of the two callbacks of an extension is at work. -/
inductive Role where
  /-- called when a level is brought up -/
  | initializer
  /-- called when a level is torn down -/
  | terminator
  deriving DecidableEq, Repr

/-- The name a role has in messages. -/
def Role.name : Role → String
  | initializer => "initializer"
  | terminator => "terminator"

/-- One thing a scripted callback does. -/
inductive Task where
  /-- register a class -/
  | register (c : ClassDecl)
  /-- register a class and panic if that is refused -/
  | mustRegister (c : ClassDecl)
  /-- unregister the classes of a level -/
  | unregister (level : Level)
  /-- ask whether a name is taken -/
  | has (name : String)
  /-- look at the whole registry -/
  | snapshot
  /-- ask for the number of live loads -/
  | liveLoads
  /-- log a record -/
  | log (record : Log.Record)
  /-- panic -/
  | panic
  /-- run the bare extension's registration -/
  | registerClasses
  /-- run the bare extension's callbacks -/
  | bareStart (level : Level)
  | bareStop (level : Level)
  deriving DecidableEq, Repr

/-- What a task answered. -/
inductive Reply where
  /-- nothing to tell -/
  | none
  | registered
  | refused (e : RegistrationError)
  /-- the names of the classes that were unregistered, in order -/
  | names (names : List String)
  | flag (b : Bool)
  | registry (r : Registry)
  /-- the number of live loads at the time of the note -/
  | liveLoads
  deriving DecidableEq, Repr

/-- What a scripted callback tells the outside. -/
inductive Note where
  | entered (role : Role) (level : Level)
  | did (task : Task) (reply : Reply)
  | left (role : Role)
  deriving DecidableEq, Repr

end EngineExtension
